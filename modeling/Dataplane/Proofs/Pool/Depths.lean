import Dataplane.Proofs.Pool.Caching

/-! # How deep a cache gets

A worker has an array for the slots that it sets aside, and a push on a full array is the end of the
program. The operations are repeated here with that check on every push. A cache that was never
deeper than it may be between two operations does not fail the check, and is not deeper afterwards.
-/
namespace Dataplane
namespace Cache

/-- The length of the array. -/
def room : Nat := maxCacheSize * 3 / 2

/-- Puts a slot on a stack in the array, if there is room for it. -/
def push? (stack : List Nat) (i : Nat) : Option (List Nat) :=
  if stack.length < room then some (i :: stack) else none

def refill? (s : Store) (p : Nat) (stack : List Nat) : Nat → Option (List Nat × Store)
  | 0 => some (stack, s)
  | n + 1 =>
    match s.take? p with
    | none => some (stack, s)
    | some (i, s) => do refill? s p (← push? stack i) n

/-- The stack to take from, after it was refilled if need be. -/
def stock? (c : Cache) (s : Store) : Option (List Nat × Store) :=
  if c.stack.isEmpty then refill? s c.pool [] c.size else some (c.stack, s)

def alloc? (c : Cache) (s : Store) : Option (Except Fault (Buffer × Cache × Store)) := do
  match ← c.stock? s with
  | (i :: rest, s) =>
    let (b, s) := s.claim c.pool i
    return .ok (b, { c with stack := rest }, s)
  | ([], s) => return (s.alloc c.pool).map fun (b, s) => (b, { c with stack := [] }, s)

def allocUpTo? (c : Cache) (s : Store) : Nat → Option (List Buffer × Cache × Store)
  | 0 => some ([], c, s)
  | n + 1 => do
    match ← c.alloc? s with
    | .error _ => return ([], c, s)
    | .ok (b, c, s) =>
      let (bs, c, s) ← allocUpTo? c s n
      return (b :: bs, c, s)

def free? (c : Cache) (s : Store) (b : Buffer) : Option (Cache × Store) :=
  if c.size = 0 ∨ b.pool ≠ c.pool then some (c, s.drop b)
  else
    match s.surrender b with
    | (false, s) => some (c, s)
    | (true, s) => do
      let c := { c with stack := ← push? c.stack b.slot }
      if c.stack.length ≥ c.threshold then return c.spill s else return (c, s)

/-- The most slots that a cache has set aside between two operations. A cache of size one reaches
its threshold with its first slot, which it keeps. -/
def depth (c : Cache) : Nat := max c.size (c.threshold - 1)

/-- A cache of a size that is allowed, no deeper than it may be. -/
structure Bounded (c : Cache) : Prop where
  size_le : c.size ≤ maxCacheSize
  length_le : c.stack.length ≤ c.depth

variable {c d : Cache} {s t : Store}

/-! ## What the bound comes to -/

theorem Bounded.stack_eq_nil (h : c.Bounded) (hsize : c.size = 0) : c.stack = [] := by
  have hlength := h.length_le
  rw [depth, threshold, hsize] at hlength
  exact List.length_eq_zero_iff.mp (Nat.le_zero.mp hlength)

theorem Bounded.length_lt_room (h : c.Bounded) : c.stack.length < room := by
  have hsize : c.size ≤ 512 := h.size_le
  have hlength : c.stack.length ≤ max c.size (c.size + c.size / 2 - 1) := h.length_le
  -- The largest cache is never deeper than 767, and the array has 768 places.
  change c.stack.length < 768
  omega

/-- The largest cache leaves no place of the array unused. -/
example : depth ⟨0, maxCacheSize, []⟩ + 1 = room := rfl

theorem Bounded.size_le_room (h : c.Bounded) : c.size ≤ room :=
  h.size_le.trans (by decide)

/-! ## Operations keep the bound -/

theorem Bounded.create (s : Store) (p : Nat) : (create s p).Bounded :=
  ⟨Nat.min_le_right _ _, Nat.zero_le _⟩

/-- The bound is one on the length of the stack only. -/
theorem Bounded.restack {stack : List Nat} (h : c.Bounded) (hlength : stack.length ≤ c.depth) :
    { c with stack := stack }.Bounded :=
  ⟨h.size_le, hlength⟩

theorem length_refill_le (s : Store) (p : Nat) (stack : List Nat) (n : Nat) :
    (refill s p stack n).1.length ≤ stack.length + n := by
  induction n generalizing s stack with
  | zero => exact Nat.le_refl _
  | succ n ih =>
    rw [refill]
    cases s.take? p with
    | none => exact Nat.le_add_right _ _
    | some r =>
      have hrest := ih r.2 (r.1 :: stack)
      rw [List.length_cons] at hrest
      dsimp only
      omega

theorem Bounded.length_stocked_le (h : c.Bounded) (s : Store) :
    (Store.stocked c s).1.length ≤ c.depth := by
  unfold Store.stocked
  split
  · have hlength := length_refill_le s c.pool [] c.size
    rw [List.length_nil, Nat.zero_add] at hlength
    exact hlength.trans (Nat.le_max_left _ _)
  · exact h.length_le

theorem Bounded.alloc {b : Buffer} (h : c.Bounded) (ha : c.alloc s = .ok (b, d, t)) :
    d.Bounded := by
  have hstock := h.length_stocked_le s
  rcases Store.cacheAlloc_eq_ok ha with ⟨i, rest, hstack, -, rfl, -⟩ | ⟨-, -, rfl⟩
  · rw [hstack, List.length_cons] at hstock
    exact h.restack (Nat.le_of_succ_le hstock)
  · exact h.restack (Nat.zero_le _)

theorem Bounded.allocUpTo (h : c.Bounded) (s : Store) (n : Nat) :
    (c.allocUpTo s n).2.1.Bounded := by
  induction n generalizing c s with
  | zero => exact h
  | succ n ih =>
    rw [Cache.allocUpTo]
    cases ha : c.alloc s with
    | error e => exact h
    | ok r => exact ih (h.alloc ha) r.2.2

theorem length_spill (c : Cache) (s : Store) :
    (c.spill s).1.stack.length = min c.stack.length c.size := by
  change (c.stack.drop (c.stack.length - c.size)).length = _
  rw [List.length_drop]
  omega

theorem Bounded.free (h : c.Bounded) (s : Store) (b : Buffer) : (c.free s b).1.Bounded := by
  rcases Store.cacheFree_cases c s b with ⟨-, heq⟩ | ⟨-, ⟨-, heq⟩ | ⟨-, heq⟩⟩ <;> rw [heq]
  · exact h
  · exact h
  · split
    · have hlength := length_spill { c with stack := b.slot :: c.stack } s
      apply h.restack
      calc _ = min (c.stack.length + 1) c.size := hlength
        _ ≤ c.size := Nat.min_le_right _ _
        _ ≤ c.depth := Nat.le_max_left _ _
    · rename_i hbelow
      apply h.restack
      calc c.stack.length + 1 ≤ c.threshold - 1 := Nat.le_sub_one_of_lt (Nat.lt_of_not_le hbelow)
        _ ≤ c.depth := Nat.le_max_right _ _

theorem Bounded.flush (h : c.Bounded) (s : Store) : (c.flush s).1.Bounded :=
  h.restack (Nat.zero_le _)

/-! ## No push fails -/

theorem push?_eq_some {stack : List Nat} {i : Nat} (h : stack.length < room) :
    push? stack i = some (i :: stack) :=
  if_pos h

theorem refill?_eq_some {stack : List Nat} {n : Nat} (s : Store) (p : Nat)
    (h : stack.length + n ≤ room) : refill? s p stack n = some (refill s p stack n) := by
  induction n generalizing s stack with
  | zero => rfl
  | succ n ih =>
    rw [refill?, refill]
    cases s.take? p with
    | none => rfl
    | some r =>
      dsimp only
      rw [push?_eq_some (by omega)]
      exact ih r.2 (by rw [List.length_cons]; omega)

theorem Bounded.stock?_eq (h : c.Bounded) (s : Store) :
    c.stock? s = some (Store.stocked c s) := by
  unfold stock? Store.stocked
  split
  · exact refill?_eq_some s c.pool ((Nat.zero_add _).trans_le h.size_le_room)
  · rfl

theorem Bounded.alloc?_eq (h : c.Bounded) (s : Store) : c.alloc? s = some (c.alloc s) := by
  rw [alloc?, h.stock?_eq]
  cases hstock : Store.stocked c s with
  | mk stack t =>
    have hstack : (Store.stocked c s).1 = stack := congrArg Prod.fst hstock
    cases stack with
    | cons i rest =>
      rw [Store.cacheAlloc_of_cons hstack, hstock]
      rfl
    | nil =>
      rw [Store.cacheAlloc_of_nil hstack, hstock]
      rfl

theorem Bounded.allocUpTo?_eq (h : c.Bounded) (s : Store) (n : Nat) :
    c.allocUpTo? s n = some (c.allocUpTo s n) := by
  induction n generalizing c s with
  | zero => rfl
  | succ n ih =>
    rw [allocUpTo?, Cache.allocUpTo, h.alloc?_eq]
    cases ha : c.alloc s with
    | error e => rfl
    | ok r =>
      simp only [bind, Option.bind, ih (h.alloc ha) r.2.2]
      rfl

theorem Bounded.free?_eq (h : c.Bounded) (s : Store) (b : Buffer) :
    c.free? s b = some (c.free s b) := by
  unfold free? Cache.free
  by_cases hpast : c.size = 0 ∨ b.pool ≠ c.pool
  · rw [if_pos hpast, if_pos hpast]
  · rw [if_neg hpast, if_neg hpast, Store.surrender_eq]
    cases decide (s.holdersAt b.place = 1) with
    | false => rfl
    | true =>
      simp only [push?_eq_some h.length_lt_room, bind, Option.bind]
      split <;> rfl

end Cache
end Dataplane
