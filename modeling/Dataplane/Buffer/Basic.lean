import Dataplane.Buffer.Window
import Dataplane.Pool.Basic

/-! # Buffers

A buffer is a handle: a slot of a pool and a window of its own. Handles are plain data, so every
operation that makes, copies or gives up a handle says so in the store, which keeps the pools.
-/
namespace Dataplane

structure Buffer where
  pool : Nat
  slot : Nat
  window : Window
  deriving DecidableEq, Repr

/-- The pools that were made, numbered in that order. -/
structure Store where
  pools : Array Pool := #[]
  deriving DecidableEq, Repr

namespace Store

def pool (s : Store) (p : Nat) : Pool := s.pools.getD p default

def update (s : Store) (p : Nat) (f : Pool → Pool) : Store := ⟨s.pools.modify p f⟩

/-- Adds a pool and says its number. A pool that cannot be made uses no number. -/
def create (s : Store) (name : String) (c : PoolConfig) (hasMemory : Bool) :
    Except Fault (Nat × Store) := do
  let p ← Pool.create name c hasMemory
  return (s.pools.size, ⟨s.pools.push p⟩)

@[inline] def take? (s : Store) (p : Nat) : Option (Nat × Store) :=
  match (s.pool p).take? with
  | none => none
  | some (i, p') => some (i, ⟨s.pools.setIfInBounds p p'⟩)

/-- The first handle to a slot just taken. -/
def claim (s : Store) (p i : Nat) : Buffer × Store :=
  (⟨p, i, .fresh (s.pool p).config.headroom⟩, s.update p (·.setHolders i 1))

@[inline] def alloc (s : Store) (p : Nat) : Except Fault (Buffer × Store) :=
  match s.take? p with
  | none => .error (.exhausted .pool)
  | some (i, s) => .ok (s.claim p i)

def drop (s : Store) (b : Buffer) : Store := s.update b.pool (·.unhold b.slot)

def dropAll (s : Store) (bs : List Buffer) : Store := bs.foldl drop s

/-- Gives up a handle without freeing its slot. Says whether the handle was the last one. -/
def surrender (s : Store) (b : Buffer) : Bool × Store :=
  ((s.pool b.pool).isLastHolder b.slot, s.update b.pool (·.lower b.slot))

def holders (s : Store) (b : Buffer) : Nat := (s.pool b.pool).holders b.slot

def isShared (s : Store) (b : Buffer) : Bool := s.holders b > 1

def bufferLength (s : Store) (b : Buffer) : Nat := (s.pool b.pool).bufferLength

def tailroom (s : Store) (b : Buffer) : Nat := b.window.tailroom (s.bufferLength b)

def data (s : Store) (b : Buffer) : List UInt8 :=
  (((s.pool b.pool).bytes b.slot).drop b.window.headroom).take b.window.size

def head (s : Store) (b : Buffer) (n : Nat) : List UInt8 :=
  (((s.pool b.pool).bytes b.slot).drop b.window.headroom).take (min n b.window.size)

/-- Writes into the slot from `start` bytes after the start of the window. -/
def write (s : Store) (b : Buffer) (start : Nat) (new : List UInt8) : Store :=
  s.update b.pool (·.write b.slot (b.window.headroom + start) new)

/-- Where the window starts: the pool, and the place in its memory. -/
def address (s : Store) (b : Buffer) : Nat × UInt64 :=
  (b.pool, (s.pool b.pool).slotAddress b.slot + b.window.offset.toUInt64)

end Store

namespace Buffer

def withWindow (b : Buffer) (w : Except Fault Window) : Except Fault Buffer :=
  w.map fun w => { b with window := w }

def prepend (b : Buffer) (n : Nat) : Except Fault Buffer := b.withWindow (b.window.prepend n)

def append (s : Store) (b : Buffer) (n : Nat) : Except Fault Buffer :=
  b.withWindow (b.window.append (s.bufferLength b) n)

def adj (b : Buffer) (n : Nat) : Except Fault Buffer := b.withWindow (b.window.adj n)

def trim (b : Buffer) (n : Nat) : Except Fault Buffer := b.withWindow (b.window.trim n)

def reset (s : Store) (b : Buffer) : Buffer :=
  { b with window := .fresh (s.pool b.pool).config.headroom }

def resetHeadroom (s : Store) (b : Buffer) : Buffer :=
  { b with window := b.window.resetHeadroom (s.pool b.pool).config.headroom }

def debug (s : Store) (b : Buffer) : String :=
  s!"Mbuf \x7b pool: {Text.quote (s.pool b.pool).name}, idx: {b.slot}, "
    ++ s!"data_off: {b.window.offset}, data_len: {b.window.length}, refcnt: {s.holders b} \x7d"

end Buffer
end Dataplane
