import Dataplane.Platform
import Dataplane.Pool.Config
import Dataplane.Pool.FreeQueue
import Dataplane.Text.Quoted

/-! # Pools

A pool owns a fixed number of equal slots. A slot is free, set aside by a worker's cache, or held by
the handles that its count of holders counts. Free slots are queued: the first freed is the first
taken.
-/
namespace Dataplane

/-- `holders` stands for a counter of 32 bits, which it is as long as a slot has fewer than 2 ^ 32
handles. -/
structure Slot where
  holders : Nat
  bytes : List UInt8
  deriving DecidableEq, Repr

structure Pool where
  name : String
  config : PoolConfig
  slots : Array Slot
  free : FreeQueue
  deriving DecidableEq, Repr

def overwrite (old : List UInt8) (start : Nat) (new : List UInt8) : List UInt8 :=
  old.take start ++ new ++ old.drop (start + new.length)

namespace Pool

instance : Inhabited Pool := ⟨⟨"", {}, #[], default⟩⟩

def bufferLength (p : Pool) : Nat := p.config.bufferLength

/-- Distance between the starts of two neighbouring slots. -/
def slotSize (c : PoolConfig) : UInt64 := roundup (UInt64.ofNat c.bufferLength)

/-- Slots are zeroed once, here. Later owners of a slot see what earlier ones wrote. Whether the
host has the memory for them is not known before it is asked. -/
def create (name : String) (c : PoolConfig) (hasMemory : Bool) : Except Fault Pool := do
  c.validate
  if (slotSize c).toNat * c.buffers ≥ UInt64.size then throw (.config "pool size overflows")
  if !hasMemory then throw (.exhausted .pool)
  let blank : Slot := ⟨0, List.replicate c.bufferLength 0⟩
  return ⟨name, c, Array.replicate c.buffers blank, .ofList (List.range c.buffers)⟩

def capacity (p : Pool) : Nat := p.slots.size

def available (p : Pool) : Nat := p.free.size

/-- Slots that are not free. Those in caches count as used. -/
def inUse (p : Pool) : Nat := p.capacity - p.available

def debug (p : Pool) : String :=
  s!"Pool \x7b name: {Text.quote p.name}, capacity: {p.capacity}, available: {p.available} \x7d"

/-- Where a slot starts, counted from the start of the pool's memory. -/
def slotAddress (p : Pool) (i : Nat) : UInt64 := UInt64.ofNat i * slotSize p.config

def holders (p : Pool) (i : Nat) : Nat := (p.slots[i]?.map Slot.holders).getD 0

def bytes (p : Pool) (i : Nat) : List UInt8 := (p.slots[i]?.map Slot.bytes).getD []

def setHolders (p : Pool) (i n : Nat) : Pool :=
  { p with slots := p.slots.modify i fun s => { s with holders := n } }

def write (p : Pool) (i start : Nat) (new : List UInt8) : Pool :=
  { p with slots := p.slots.modify i fun s => { s with bytes := overwrite s.bytes start new } }

@[inline] def take? (p : Pool) : Option (Nat × Pool) :=
  p.free.pop?.map fun (i, free) => (i, { p with free })

/-- Puts a slot at the end of the queue. A slot that finds as many free slots as the pool has would
be lost. -/
def release (p : Pool) (i : Nat) : Pool :=
  if p.free.size < p.slots.size then { p with free := p.free.push i } else p

def releaseAll (p : Pool) (slots : List Nat) : Pool := slots.foldl release p

def retain (p : Pool) (i : Nat) : Pool := p.setHolders i (p.holders i + 1)

def isLastHolder (p : Pool) (i : Nat) : Bool := p.holders i = 1

def lower (p : Pool) (i : Nat) : Pool := p.setHolders i (p.holders i - 1)

/-- One holder less. Says whether that was the last one, and leaves the slot to the caller. -/
def relinquish (p : Pool) (i : Nat) : Bool × Pool := (p.isLastHolder i, p.lower i)

/-- One holder less. The last one frees the slot. -/
def unhold (p : Pool) (i : Nat) : Pool :=
  match p.relinquish i with
  | (true, p) => p.release i
  | (false, p) => p

end Pool
end Dataplane
