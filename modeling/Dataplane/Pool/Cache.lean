import Dataplane.Buffer.Basic

/-! # Worker caches

A cache sets slots of one pool aside for one worker. It is refilled in bulk when it runs empty and
spills in bulk when it has grown to one and a half times its size, so that most allocations and
frees do not touch the shared queue.
-/
namespace Dataplane

/-- The slots set aside, the one to be taken next first. -/
structure Cache where
  pool : Nat
  size : Nat
  stack : List Nat
  deriving DecidableEq, Repr

namespace Cache

def create (s : Store) (p : Nat) : Cache := ⟨p, min (s.pool p).config.cacheSize maxCacheSize, []⟩

/-- A cache that reaches this length spills. -/
def threshold (c : Cache) : Nat := c.size + c.size / 2

def refill (s : Store) (p : Nat) (stack : List Nat) : Nat → List Nat × Store
  | 0 => (stack, s)
  | n + 1 =>
    match s.take? p with
    | none => (stack, s)
    | some (i, s) => refill s p (i :: stack) n

/-- An empty cache is refilled first. A cache that stays empty takes from the queue directly. -/
@[inline] def alloc (c : Cache) (s : Store) : Except Fault (Buffer × Cache × Store) :=
  let (stack, s) := if c.stack.isEmpty then refill s c.pool [] c.size else (c.stack, s)
  match stack with
  | i :: rest =>
    let (b, s) := s.claim c.pool i
    .ok (b, { c with stack := rest }, s)
  | [] => do
    let (b, s) ← s.alloc c.pool
    return (b, { c with stack := [] }, s)

def allocUpTo (c : Cache) (s : Store) : Nat → List Buffer × Cache × Store
  | 0 => ([], c, s)
  | n + 1 =>
    match c.alloc s with
    | .error _ => ([], c, s)
    | .ok (b, c, s) =>
      let (bs, c, s) := allocUpTo c s n
      (b :: bs, c, s)

/-- Releases from the top of the stack until `c.size` slots are left. -/
def spill (c : Cache) (s : Store) : Cache × Store :=
  let surplus := c.stack.length - c.size
  ({ c with stack := c.stack.drop surplus },
    s.update c.pool (·.releaseAll (c.stack.take surplus)))

/-- Takes a buffer back. Buffers of other pools, and all buffers if the cache has no size, go
straight to their queue, and slots that others still hold stay where they are. -/
def free (c : Cache) (s : Store) (b : Buffer) : Cache × Store :=
  if c.size = 0 ∨ b.pool ≠ c.pool then (c, s.drop b)
  else
    match s.surrender b with
    | (false, s) => (c, s)
    | (true, s) =>
      let c := { c with stack := b.slot :: c.stack }
      if c.stack.length ≥ c.threshold then c.spill s else (c, s)

/-- Releases every slot, the one set aside first going first. -/
def flush (c : Cache) (s : Store) : Cache × Store :=
  ({ c with stack := [] }, s.update c.pool (·.releaseAll c.stack.reverse))

end Cache
end Dataplane
