import Dataplane.Buffer.Basic

/-! # Bulk allocation

Several buffers in one call. A short pool shortens the result, except where exactly the number asked
for is wanted. A call that reserves room for its result first needs a length that can be reserved.
-/
namespace Dataplane

/-- The longest list of handles that memory can be reserved for: a handle takes 16 bytes, and no
reservation exceeds 2^63 - 1 bytes. -/
def maxReserved : Nat := 0x7FFFFFFFFFFFFFFF / 16

namespace Store

def allocUpTo (s : Store) (p : Nat) : Nat → List Buffer × Store
  | 0 => ([], s)
  | n + 1 =>
    match s.alloc p with
    | .error _ => ([], s)
    | .ok (b, s) =>
      let (bs, s) := allocUpTo s p n
      (b :: bs, s)

/-- Up to `n` buffers in a list reserved for `n`. `none` where the list cannot be reserved. -/
def allocBulk? (s : Store) (p n : Nat) : Option (List Buffer × Store) :=
  if n > maxReserved then none else some (s.allocUpTo p n)

/-- Exactly `n` buffers. The buffers of a short pool go back to the end of the queue. -/
def allocExact? (s : Store) (p n : Nat) : Option (Except Fault (List Buffer) × Store) :=
  (s.allocBulk? p n).map fun (bs, s) =>
    if bs.length < n then (.error (.exhausted .pool), s.dropAll bs) else (.ok bs, s)

end Store
end Dataplane
