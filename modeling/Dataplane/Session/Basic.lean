import Dataplane.Pool.Cache
import Dataplane.Port.Queue
import Dataplane.Port.Registry
import Dataplane.Registers
import Dataplane.Session.Reply

/-! # Sessions

A session is a program that uses the library: a fabric, and named registers for the pools, caches,
buffers, batches of buffers and queue handles in the program's hands. Every live handle is in a
register or in a ring. Storing over an object gives the old one up after the new one was made.
-/
namespace Dataplane

structure Session where
  fabric : Fabric := {}
  pools : Registers Nat := {}
  caches : Registers Cache := {}
  buffers : Registers Buffer := {}
  batches : Registers (List Buffer) := {}
  rxs : Registers RxQueue := {}
  txs : Registers TxQueue := {}

namespace Session

def store (s : Session) : Store := s.fabric.store

def setStore (s : Session) (store : Store) : Session :=
  { s with fabric := { s.fabric with store } }

def updateStore (s : Session) (g : Store → Store) : Session := s.setStore (g s.store)

/-- A batch that was never stored is empty. -/
def batch (s : Session) (v : String) : List Buffer := (s.batches.get? v).getD []

def setBuffer (s : Session) (m : String) (b : Buffer) : Session :=
  { s with buffers := s.buffers.put m b }

/-- Stores a buffer and gives up the one that was there. -/
def keepBuffer (s : Session) (m : String) (b : Buffer) : Session :=
  let old := s.buffers.get? m
  (s.setBuffer m b).updateStore (·.dropAll old.toList)

def setBatch (s : Session) (v : String) (bs : List Buffer) : Session :=
  { s with batches := s.batches.put v bs }

def keepBatch (s : Session) (v : String) (bs : List Buffer) : Session :=
  let old := s.batch v
  (s.setBatch v bs).updateStore (·.dropAll old)

def setCache (s : Session) (c : String) (x : Cache) : Session :=
  { s with caches := s.caches.put c x }

def keepCache (s : Session) (c : String) (x : Cache) : Session :=
  let old := s.caches.get? c
  (s.setCache c x).updateStore fun store =>
    old.toList.foldl (fun store x => (x.flush store).2) store

def refersTo (s : Session) (p : Nat) : Bool :=
  s.rxs.values.any (fun h => h.port = p) ||
    s.txs.values.any (fun h => h.port = p || h.peer = p)

/-- Gives back a handle that is in no register any more. -/
def releaseRx (s : Session) (h : RxQueue) : Session :=
  { s with fabric := (s.fabric.putRx h).abandon s.refersTo h.port }

def releaseTx (s : Session) (h : TxQueue) : Session :=
  { s with
    fabric := ((s.fabric.putTx h).abandon s.refersTo h.port).abandon s.refersTo h.peer }

def keepRx (s : Session) (r : String) (h : RxQueue) : Session :=
  let old := s.rxs.get? r
  old.toList.foldl releaseRx { s with rxs := s.rxs.put r h }

def keepTx (s : Session) (r : String) (h : TxQueue) : Session :=
  let old := s.txs.get? r
  old.toList.foldl releaseTx { s with txs := s.txs.put r h }

def availability (s : Session) : List (String × Nat) :=
  s.pools.entries.map fun (name, p) => (name, (s.store.pool p).available)

/-- Every handle that can still be used: those in registers and those in rings. -/
def liveBuffers (s : Session) : List Buffer :=
  s.buffers.values ++ s.batches.values.flatten ++ s.fabric.rings.toList.flatMap Ring.frames

abbrev Step := Outcome × Session

/-- Shows a buffer and then stores it. What it is stored over still counts in what is shown. -/
def showAndKeep (s : Session) (m : String) (b : Buffer) : Step :=
  (.ok (.buffer (s.store.view b)), s.keepBuffer m b)

def refuse (s : Session) (r : Refusal) : Step := (.refused r, s)

def withPool (s : Session) (p : String) (k : Nat → Step) : Step :=
  match s.pools.get? p with
  | some n => k n
  | none => s.refuse .noSuch

def withCache (s : Session) (c : String) (k : Cache → Step) : Step :=
  match s.caches.get? c with
  | some x => k x
  | none => s.refuse .noSuch

def withBuffer (s : Session) (m : String) (k : Buffer → Step) : Step :=
  match s.buffers.get? m with
  | some b => k b
  | none => s.refuse .noSuch

def withRx (s : Session) (h : String) (k : RxQueue → Step) : Step :=
  match s.rxs.get? h with
  | some x => k x
  | none => s.refuse .noSuch

def withTx (s : Session) (h : String) (k : TxQueue → Step) : Step :=
  match s.txs.get? h with
  | some x => k x
  | none => s.refuse .noSuch

def withPort (s : Session) (number : Nat) (k : Nat → Step) : Step :=
  match s.fabric.portOf number with
  | .ok p => k p
  | .error e => (.fault e, s)

end Session
end Dataplane
