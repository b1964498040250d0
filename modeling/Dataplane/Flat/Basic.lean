import Dataplane.Flat.Call
import Dataplane.Lcore
import Dataplane.Lock.Recursive
import Dataplane.Port.Queue
import Dataplane.Port.Registry
import Dataplane.Registers
import Dataplane.Text.Utf8

/-! # The state behind the flat interface

A thread that calls the library through handles. Every failing call records the code of its cause in
`lastError`; a call that succeeds leaves it alone. A handle that is null is reported as such before
anything else is looked at.
-/
namespace Dataplane

structure Machine where
  capabilities : Capabilities := {}
  topology : Topology := ⟨1⟩
  thread : Thread := {}
  deriving DecidableEq, Repr

structure Flat where
  machine : Machine := {}
  fabric : Fabric := {}
  pools : Registers Nat := {}
  buffers : Registers Buffer := {}
  rxs : Registers RxQueue := {}
  txs : Registers TxQueue := {}
  spins : Registers SpinLock := {}
  recursives : Registers RecursiveLock := {}
  lastError : Int32 := 0

namespace Flat

abbrev Step := FlatReply × Flat

/-- The number of the calling thread among the owners of recursive locks. -/
def caller : Nat := 0

def store (f : Flat) : Store := f.fabric.store

def setStore (f : Flat) (store : Store) : Flat :=
  { f with fabric := { f.fabric with store } }

def setFabric (f : Flat) (fabric : Fabric) : Flat := { f with fabric }

def fail (f : Flat) (e : Fault) : Flat := { f with lastError := e.code }

/-- Records that a handle, an array, or an entry of one was null. -/
def failNull (f : Flat) : Flat := { f with lastError := Fault.nullHandle }

/-- An int result: zero, or the code of the failure. -/
def status (f : Flat) (r : Except Fault Unit) : Step :=
  match r with
  | .ok () => (.int 0, f)
  | .error e => (.int e.code, f.fail e)

/-- The text of a name, which ends at its first zero octet. -/
def nameText (name : List UInt8) : String := Text.decodeLossy (name.takeWhile (· ≠ 0))

def setBuffer (f : Flat) (m : String) (b : Buffer) : Flat :=
  { f with buffers := f.buffers.put m b }

/-- Stores a new handle and frees the one that was there. Freeing it is the convention of the
registers, each of which owns what it holds: a call by itself only overwrites a pointer. -/
def keepBuffer (f : Flat) (m : String) (b : Buffer) : Flat :=
  let old := f.buffers.get? m
  let f := f.setBuffer m b
  f.setStore (f.store.dropAll old.toList)

/-- Stores handles in the entries of an array, the first one in entry `first`. -/
def keepArray (f : Flat) (array : String) (first : Nat) : List Buffer → Flat
  | [] => f
  | b :: rest => keepArray (f.keepBuffer s!"{array}{first}" b) array (first + 1) rest

/-- Goes on with a pool, or answers `null` for a null handle. -/
def withPool (f : Flat) (p : String) (null : FlatReply) (k : Nat → Step) : Step :=
  match f.pools.get? p with
  | some n => k n
  | none => (null, f.failNull)

def withBuffer (f : Flat) (m : String) (null : FlatReply) (k : Buffer → Step) : Step :=
  match f.buffers.get? m with
  | some b => k b
  | none => (null, f.failNull)

end Flat
end Dataplane
