import Dataplane.Pool.Cache
import Dataplane.Proofs.Pool.Allocation

/-! # Caches in the ledger

The slots on the stack of a cache are set aside. What a cache grants is as good as what the queue
grants, and what it releases finds room in the queue.
-/
namespace Dataplane

def placesIn (p : Nat) (slots : List Nat) : Multiset Place := ↑(slots.map fun i => (p, i))

@[simp] theorem placesIn_nil (p : Nat) : placesIn p [] = 0 := rfl

@[simp] theorem placesIn_cons (p i : Nat) (slots : List Nat) :
    placesIn p (i :: slots) = (p, i) ::ₘ placesIn p slots := rfl

theorem placesIn_append (p : Nat) (xs ys : List Nat) :
    placesIn p (xs ++ ys) = placesIn p xs + placesIn p ys := by
  simp [placesIn]

theorem placesIn_reverse (p : Nat) (slots : List Nat) :
    placesIn p slots.reverse = placesIn p slots :=
  Multiset.coe_eq_coe.mpr ((List.reverse_perm slots).map _)

def Cache.places (c : Cache) : Multiset Place := placesIn c.pool c.stack

namespace Store

variable {s t : Store} {live : Multiset Buffer} {aside : Multiset Place} {c d : Cache}

theorem update_releaseAll_cons (s : Store) (p i : Nat) (slots : List Nat) :
    s.update p (·.releaseAll (i :: slots)) =
      (s.update p (·.release i)).update p (·.releaseAll slots) :=
  (s.update_update p (·.release i) (·.releaseAll slots)).symm

theorem sameMemory_releaseAll (s : Store) (p : Nat) (slots : List Nat) :
    SameMemory s (s.update p (·.releaseAll slots)) := by
  induction slots generalizing s with
  | nil => exact .update s p rfl (fun _ => rfl) (fun _ => rfl) fun _ _ => rfl
  | cons i rest ih =>
    rw [update_releaseAll_cons]
    exact (SameMemory.release s p i).trans (ih _)

theorem Ledger.releaseAll {p : Nat} {slots : List Nat}
    (h : s.Ledger live (placesIn p slots + aside)) :
    (s.update p (·.releaseAll slots)).Ledger live aside := by
  induction slots generalizing s with
  | nil =>
    have hmem := sameMemory_releaseAll s p []
    have hsame : ∀ q, (s.update p (·.releaseAll [])).pool q = s.pool q := by
      intro q
      rw [pool_releaseAll]
      split <;> rfl
    rw [placesIn_nil, Multiset.zero_add] at h
    refine h.of_sameMemory hmem h.fits (fun x => ?_) fun x => ?_
    · simpa only [holdersAt, hsame] using h.holders_eq x
    · simpa only [holdersAt, queuedAt, hsame] using h.placed x
  | cons i rest ih =>
    rw [update_releaseAll_cons]
    rw [placesIn_cons, Multiset.cons_add] at h
    exact ih h.release

/-- From `s` to `t`, slots went to the end of the queue of their pool one after another, each of
them once. -/
structure Returned (s t : Store) (p : Nat) (slots : List Nat) : Prop where
  queue : (t.pool p).free.toList = (s.pool p).free.toList ++ slots
  once : ∀ i ∈ slots, s.queuedAt (p, i) = 0 ∧ t.queuedAt (p, i) = 1
  otherPools : ∀ q ≠ p, (t.pool q).free = (s.pool q).free

theorem Ledger.aside_nodup {p : Nat} {slots : List Nat}
    (h : s.Ledger live (placesIn p slots + aside)) :
    slots.Nodup ∧ ∀ i ∈ slots, s.IsSlot (p, i) ∧ s.queuedAt (p, i) = 0 := by
  have hplaces : (placesIn p slots).Nodup := by
    refine Multiset.nodup_iff_count_le_one.mpr fun x => ?_
    by_cases hx : x ∈ placesIn p slots
    · have hone := (h.aside_exclusive (Multiset.mem_add.mpr (.inl hx))).1
      rw [Multiset.count_add] at hone
      omega
    · rw [Multiset.count_eq_zero_of_notMem hx]
      exact Nat.zero_le 1
  refine ⟨List.Nodup.of_map _ (Multiset.coe_nodup.mp hplaces), fun i hi => ?_⟩
  have hmem : (p, i) ∈ placesIn p slots + aside :=
    Multiset.mem_add.mpr (.inl (Multiset.mem_coe.mpr (List.mem_map_of_mem hi)))
  exact ⟨h.isSlot_of_mem_aside hmem, (h.aside_exclusive hmem).2.1⟩

theorem Ledger.returned {p : Nat} {slots : List Nat}
    (h : s.Ledger live (placesIn p slots + aside)) :
    Returned s (s.update p (·.releaseAll slots)) p slots := by
  obtain ⟨hnodup, hslots⟩ := h.aside_nodup
  have hqueue : ((s.update p (·.releaseAll slots)).pool p).free.toList =
      (s.pool p).free.toList ++ slots := by
    rw [pool_releaseAll, if_pos rfl]
    exact Pool.toList_releaseAll (h.room hnodup hslots)
  refine ⟨hqueue, fun i hi => ⟨(hslots i hi).2, ?_⟩, fun q hq => ?_⟩
  · have hzero := (hslots i hi).2
    rw [queuedAt] at hzero ⊢
    rw [hqueue, List.count_append, hzero, List.count_eq_one_of_mem hnodup hi]
  · rw [pool_releaseAll, if_neg hq]

/-! ## Allocation -/

theorem sameMemory_refill (s : Store) (p : Nat) (stack : List Nat) (n : Nat) :
    SameMemory s (Cache.refill s p stack n).2 := by
  induction n generalizing s stack with
  | zero => exact .refl s
  | succ n ih =>
    rw [Cache.refill]
    cases ht : s.take? p with
    | none => exact .refl s
    | some r => exact (SameMemory.take ht).trans (ih _ _)

theorem Ledger.refill {p : Nat} {stack : List Nat} (h : s.Ledger live (placesIn p stack + aside))
    (n : Nat) : (Cache.refill s p stack n).2.Ledger live
      (placesIn p (Cache.refill s p stack n).1 + aside) := by
  induction n generalizing s stack with
  | zero => exact h
  | succ n ih =>
    rw [Cache.refill]
    cases ht : s.take? p with
    | none => exact h
    | some r =>
      obtain ⟨i, u⟩ := r
      have hu := h.take ht
      rw [← Multiset.cons_add, ← placesIn_cons] at hu
      exact ih hu

/-- The stack that a cache takes from, and the store after it was refilled if need be. -/
def stocked (c : Cache) (s : Store) : List Nat × Store :=
  if c.stack.isEmpty then Cache.refill s c.pool [] c.size else (c.stack, s)

theorem sameMemory_stocked (c : Cache) (s : Store) : SameMemory s (stocked c s).2 := by
  unfold stocked
  split
  · exact sameMemory_refill _ _ _ _
  · exact .refl s

theorem Ledger.stocked (h : s.Ledger live (c.places + aside)) :
    (stocked c s).2.Ledger live (placesIn c.pool (stocked c s).1 + aside) := by
  unfold Store.stocked
  split
  · rename_i hempty
    rw [Cache.places, List.isEmpty_iff.mp hempty] at h
    exact h.refill c.size
  · exact h

theorem cacheAlloc_of_cons {i : Nat} {rest : List Nat} (h : (stocked c s).1 = i :: rest) :
    c.alloc s = .ok (((stocked c s).2.claim c.pool i).1, { c with stack := rest },
      ((stocked c s).2.claim c.pool i).2) := by
  unfold Cache.alloc
  generalize hr : stocked c s = r at h ⊢
  unfold stocked at hr
  rw [hr]
  obtain ⟨stack, u⟩ := r
  cases h
  rfl

theorem cacheAlloc_of_nil (h : (stocked c s).1 = []) :
    c.alloc s = ((stocked c s).2.alloc c.pool).map fun r => (r.1, { c with stack := [] }, r.2) := by
  unfold Cache.alloc
  generalize hr : stocked c s = r at h ⊢
  unfold stocked at hr
  rw [hr]
  obtain ⟨stack, u⟩ := r
  cases h
  dsimp only
  cases u.alloc c.pool <;> rfl

/-- A cache gives its top slot, or goes past its empty stack to the queue. -/
theorem cacheAlloc_eq_ok {b : Buffer} (h : c.alloc s = .ok (b, d, t)) :
    (∃ i rest, (stocked c s).1 = i :: rest ∧ b = ((stocked c s).2.claim c.pool i).1 ∧
      d = { c with stack := rest } ∧ t = ((stocked c s).2.claim c.pool i).2) ∨
    ((stocked c s).1 = [] ∧ (stocked c s).2.alloc c.pool = .ok (b, t) ∧
      d = { c with stack := [] }) := by
  cases hstack : (stocked c s).1 with
  | cons i rest =>
    rw [cacheAlloc_of_cons hstack] at h
    cases h
    exact .inl ⟨i, rest, rfl, rfl, rfl, rfl⟩
  | nil =>
    rw [cacheAlloc_of_nil hstack] at h
    cases ha : (stocked c s).2.alloc c.pool with
    | error e =>
      rw [ha] at h
      cases h
    | ok r =>
      rw [ha] at h
      cases h
      exact .inr ⟨rfl, rfl, rfl⟩

theorem pool_of_cacheAlloc {b : Buffer} (ha : c.alloc s = .ok (b, d, t)) :
    b.pool = c.pool ∧ d.pool = c.pool := by
  rcases cacheAlloc_eq_ok ha with ⟨i, rest, -, rfl, rfl, -⟩ | ⟨-, hqueue, rfl⟩
  · exact ⟨rfl, rfl⟩
  · exact ⟨pool_of_alloc hqueue, rfl⟩

theorem sameMemory_cacheAlloc {b : Buffer} (h : c.alloc s = .ok (b, d, t)) : SameMemory s t := by
  rcases cacheAlloc_eq_ok h with ⟨i, rest, -, -, -, rfl⟩ | ⟨-, ha, -⟩
  · exact (sameMemory_stocked c s).trans (.claim _ _ _)
  · exact (sameMemory_stocked c s).trans (sameMemory_alloc ha)

theorem Ledger.cacheAlloc {b : Buffer} (h : s.Ledger live (c.places + aside))
    (ha : c.alloc s = .ok (b, d, t)) :
    t.Ledger (b ::ₘ live) (d.places + aside) ∧ Granted t live [b] := by
  have hstock := h.stocked
  rcases cacheAlloc_eq_ok ha with ⟨i, rest, hstack, rfl, rfl, rfl⟩ | ⟨hstack, hqueue, rfl⟩
  · rw [hstack, placesIn_cons, Multiset.cons_add] at hstock
    exact hstock.claim_granted
  · rw [hstack] at hstock
    exact hstock.alloc hqueue

theorem sameMemory_cacheAllocUpTo (c : Cache) (s : Store) (n : Nat) :
    SameMemory s (c.allocUpTo s n).2.2 := by
  induction n generalizing c s with
  | zero => exact .refl s
  | succ n ih =>
    rw [Cache.allocUpTo]
    cases ha : c.alloc s with
    | error e => exact .refl s
    | ok r => exact (sameMemory_cacheAlloc ha).trans (ih r.2.1 r.2.2)

theorem Ledger.cacheAllocUpTo (h : s.Ledger live (c.places + aside)) (n : Nat) :
    (c.allocUpTo s n).2.2.Ledger (↑(c.allocUpTo s n).1 + live)
      ((c.allocUpTo s n).2.1.places + aside) ∧
      Granted (c.allocUpTo s n).2.2 live (c.allocUpTo s n).1 := by
  induction n generalizing c s live with
  | zero => exact ⟨by simpa [Cache.allocUpTo] using h, .nil _ _⟩
  | succ n ih =>
    rw [Cache.allocUpTo]
    cases ha : c.alloc s with
    | error e => exact ⟨by simpa using h, .nil _ _⟩
    | ok r =>
      obtain ⟨hone, hgranted⟩ := h.cacheAlloc ha
      obtain ⟨hrest, hothers⟩ := ih hone
      refine ⟨?_, hgranted.cons hone hrest hothers (sameMemory_cacheAllocUpTo _ _ _)⟩
      rw [Multiset.add_cons, ← Multiset.cons_add, Multiset.cons_coe] at hrest
      exact hrest

/-! ## Return -/

theorem sameMemory_spill (c : Cache) (s : Store) : SameMemory s (c.spill s).2 :=
  sameMemory_releaseAll s c.pool _

theorem Ledger.spill (h : s.Ledger live (c.places + aside)) :
    (c.spill s).2.Ledger live ((c.spill s).1.places + aside) := by
  apply Ledger.releaseAll
  have hsplit := List.take_append_drop (c.stack.length - c.size) c.stack
  rw [Cache.places, ← hsplit, placesIn_append, Multiset.add_assoc] at h
  exact h

theorem Ledger.spilled (h : s.Ledger live (c.places + aside)) :
    Returned s (c.spill s).2 c.pool (c.stack.take (c.stack.length - c.size)) := by
  have hsplit := List.take_append_drop (c.stack.length - c.size) c.stack
  rw [Cache.places, ← hsplit, placesIn_append, Multiset.add_assoc] at h
  exact h.returned

theorem surrender_eq (s : Store) (b : Buffer) :
    s.surrender b = (decide (s.holdersAt b.place = 1), s.update b.pool (·.lower b.slot)) := rfl

/-- What is not the cache's own business goes to the queue by itself. Otherwise one hold is given
up, and with the last one the slot goes onto the stack, which may then spill. -/
theorem cacheFree_cases (c : Cache) (s : Store) (b : Buffer) :
    ((c.size = 0 ∨ b.pool ≠ c.pool) ∧ c.free s b = (c, s.drop b)) ∨
    (¬(c.size = 0 ∨ b.pool ≠ c.pool) ∧
      ((s.holdersAt b.place ≠ 1 ∧ c.free s b = (c, s.update b.pool (·.lower b.slot))) ∨
      (s.holdersAt b.place = 1 ∧ c.free s b =
        if c.threshold ≤ c.stack.length + 1 then
          { c with stack := b.slot :: c.stack }.spill (s.update b.pool (·.lower b.slot))
        else ({ c with stack := b.slot :: c.stack }, s.update b.pool (·.lower b.slot))))) := by
  unfold Cache.free
  by_cases hpast : c.size = 0 ∨ b.pool ≠ c.pool
  · exact .inl ⟨hpast, if_pos hpast⟩
  · rw [if_neg hpast, surrender_eq]
    by_cases hlast : s.holdersAt b.place = 1
    · rw [decide_eq_true hlast]
      exact .inr ⟨hpast, .inr ⟨hlast, rfl⟩⟩
    · rw [decide_eq_false hlast]
      exact .inr ⟨hpast, .inl ⟨hlast, rfl⟩⟩

theorem sameMemory_cacheFree (c : Cache) (s : Store) (b : Buffer) :
    SameMemory s (c.free s b).2 := by
  have hlower := SameMemory.lower s b.pool b.slot
  rcases cacheFree_cases c s b with ⟨-, heq⟩ | ⟨-, ⟨-, heq⟩ | ⟨-, heq⟩⟩ <;> rw [heq]
  · exact sameMemory_drop s b
  · exact hlower
  · split
    · exact hlower.trans (sameMemory_spill _ _)
    · exact hlower

/-- The slot of the last hold goes from the holder to the stack. -/
theorem Ledger.lower_onto {b : Buffer} (h : s.Ledger (b ::ₘ live) (c.places + aside))
    (hpool : b.pool = c.pool) (hlast : s.holdersAt b.place = 1) :
    (s.update b.pool (·.lower b.slot)).Ledger live
      ({ c with stack := b.slot :: c.stack }.places + aside) := by
  have hlower := h.lower
  rw [if_pos hlast, ← Multiset.cons_add] at hlower
  have hkept : b.place ::ₘ c.places = { c with stack := b.slot :: c.stack }.places := by
    simp [Cache.places, Buffer.place, hpool]
  rwa [hkept] at hlower

theorem Ledger.cacheFree {b : Buffer} (h : s.Ledger (b ::ₘ live) (c.places + aside)) :
    (c.free s b).2.Ledger live ((c.free s b).1.places + aside) := by
  rcases cacheFree_cases c s b with ⟨-, heq⟩ | ⟨hown, ⟨hmore, heq⟩ | ⟨hlast, heq⟩⟩ <;> rw [heq]
  · exact h.drop
  · have hlower := h.lower
    rwa [if_neg hmore] at hlower
  · have honto := h.lower_onto (Decidable.not_not.mp (not_or.mp hown).2) hlast
    split
    · exact honto.spill
    · exact honto

/-- A free that reaches the threshold spills down to the size of the cache. -/
theorem Ledger.cacheFree_spilled {b : Buffer} (h : s.Ledger (b ::ₘ live) (c.places + aside))
    (hsize : c.size ≠ 0) (hpool : b.pool = c.pool) (hlast : s.holdersAt b.place = 1)
    (hfull : c.threshold ≤ c.stack.length + 1) :
    (c.free s b).1.stack = (b.slot :: c.stack).drop (c.stack.length + 1 - c.size) ∧
      Returned s (c.free s b).2 c.pool
        ((b.slot :: c.stack).take (c.stack.length + 1 - c.size)) := by
  have hspilled := (h.lower_onto hpool hlast).spilled
  rcases cacheFree_cases c s b with ⟨hpast, -⟩ | ⟨-, ⟨hmore, -⟩ | ⟨-, heq⟩⟩
  · exact absurd hpast (not_or.mpr ⟨hsize, not_not.mpr hpool⟩)
  · exact absurd hlast hmore
  · rw [heq, if_pos hfull]
    refine ⟨rfl, ?_, fun i hi => ?_, fun q hq => ?_⟩
    · rw [hspilled.queue, pool_lower]
      split <;> rfl
    · have honce := hspilled.once i hi
      rwa [queuedAt_lower] at honce
    · rw [hspilled.otherPools q hq, pool_lower]
      split <;> rfl

theorem sameMemory_flush (c : Cache) (s : Store) : SameMemory s (c.flush s).2 :=
  sameMemory_releaseAll s c.pool _

theorem Ledger.flushed (h : s.Ledger live (c.places + aside)) :
    Returned s (c.flush s).2 c.pool c.stack.reverse := by
  rw [Cache.places, ← placesIn_reverse] at h
  exact h.returned

theorem Ledger.flush (h : s.Ledger live (c.places + aside)) :
    (c.flush s).2.Ledger live aside := by
  apply Ledger.releaseAll
  rw [placesIn_reverse]
  exact h

end Store
end Dataplane
