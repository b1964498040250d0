import Mathlib.Algebra.BigOperators.Group.Finset.Piecewise
import Mathlib.Algebra.Group.Action.Defs
import Dataplane.Proofs.Pool.Caching

/-! # Headcounts

The slots of a pool, counted: those in the queue, those set aside and those that handles name are
all there are. How many are named depends on the handles alone, and only on which of them share a
slot, so that two stores whose handles share slots alike have as many slots left between them.
-/
namespace Dataplane

def slotsNamed (live : Multiset Buffer) (p : Nat) : Finset Nat :=
  ((live.filter (·.pool = p)).map Buffer.slot).toFinset

theorem mem_slotsNamed {live : Multiset Buffer} {p i : Nat} :
    i ∈ slotsNamed live p ↔ (p, i) ∈ live.map Buffer.place := by
  simp only [slotsNamed, Multiset.mem_toFinset, Multiset.mem_map, Multiset.mem_filter,
    Buffer.place, Prod.mk.injEq]
  constructor
  · rintro ⟨b, ⟨hb, hpool⟩, hslot⟩
    exact ⟨b, hb, hpool, hslot⟩
  · rintro ⟨b, hb, hpool, hslot⟩
    exact ⟨b, ⟨hb, hpool⟩, hslot⟩

def countAside (aside : Multiset Place) (p : Nat) : Nat := aside.countP (·.1 = p)

@[simp] theorem countAside_add (xs ys : Multiset Place) (p : Nat) :
    countAside (xs + ys) p = countAside xs p + countAside ys p :=
  Multiset.countP_add _ _ _

@[simp] theorem countAside_placesIn (p : Nat) (slots : List Nat) (q : Nat) :
    countAside (placesIn p slots) q = if p = q then slots.length else 0 := by
  simp only [countAside, placesIn, Multiset.coe_countP, List.countP_map]
  split
  · rename_i hq
    exact List.countP_eq_length.mpr fun _ _ => decide_eq_true hq
  · rename_i hq
    exact List.countP_eq_zero.mpr fun _ _ h => hq (of_decide_eq_true h)

namespace Store

variable {s t : Store} {live : Multiset Buffer} {aside : Multiset Place} {c d : Cache}

theorem sum_countAside {n p : Nat} (h : ∀ x ∈ aside, x.1 = p → x.2 < n) :
    ∑ i ∈ Finset.range n, aside.count (p, i) = countAside aside p := by
  have hsub : ∀ i ∈ (aside.filter (·.1 = p)).map Prod.snd, i ∈ Finset.range n := by
    intro i hi
    obtain ⟨x, hx, rfl⟩ := Multiset.mem_map.mp hi
    obtain ⟨hx, hp⟩ := Multiset.mem_filter.mp hx
    exact Finset.mem_range.mpr (h x hx hp)
  have hcount : ∀ i, aside.count (p, i) = ((aside.filter (·.1 = p)).map Prod.snd).count i := by
    intro i
    rw [Multiset.count_map, Multiset.filter_filter, ← Multiset.countP_eq_card_filter,
      Multiset.count]
    refine Multiset.countP_congr rfl fun x _ => ?_
    rw [Prod.ext_iff, and_comm]
    simp only [eq_comm]
  rw [Finset.sum_congr rfl fun i _ => hcount i, Multiset.sum_count_eq_card hsub,
    Multiset.card_map, ← Multiset.countP_eq_card_filter]
  rfl

theorem Ledger.sum_queuedAt (h : s.Ledger live aside) (p : Nat) :
    ∑ i ∈ Finset.range (s.pool p).capacity, s.queuedAt (p, i) = (s.pool p).available := by
  have hsub : ∀ i ∈ ((s.pool p).free.toList : Multiset Nat),
      i ∈ Finset.range (s.pool p).capacity := by
    intro i hi
    have hplaced := h.placed (p, i)
    have hqueued : 0 < s.queuedAt (p, i) := List.count_pos_iff.mpr (Multiset.mem_coe.mp hi)
    rw [Finset.mem_range]
    by_contra hlt
    rw [if_neg (show ¬s.IsSlot (p, i) from hlt)] at hplaced
    omega
  have hsum := Multiset.sum_count_eq_card hsub
  rw [Multiset.coe_card, FreeQueue.length_toList] at hsum
  simpa only [Multiset.coe_count, queuedAt, Pool.available] using hsum

theorem Ledger.sum_named (h : s.Ledger live aside) (p : Nat) :
    ∑ i ∈ Finset.range (s.pool p).capacity, min 1 (s.holdersAt (p, i)) =
      (slotsNamed live p).card := by
  have hslots : slotsNamed live p =
      (Finset.range (s.pool p).capacity).filter fun i => 0 < s.holdersAt (p, i) := by
    ext i
    rw [Finset.mem_filter, Finset.mem_range, mem_slotsNamed, h.holders_eq, Multiset.count_pos]
    refine ⟨fun hi => ⟨?_, hi⟩, And.right⟩
    obtain ⟨b, hb, hplace⟩ := Multiset.mem_map.mp hi
    have hslot := h.isSlot_of_mem hb
    rw [hplace] at hslot
    exact hslot
  rw [hslots, Finset.card_filter]
  refine Finset.sum_congr rfl fun i _ => ?_
  split <;> omega

/-- Every slot of a pool is counted once. -/
theorem Ledger.headcount (h : s.Ledger live aside) (p : Nat) :
    (s.pool p).available + countAside aside p + (slotsNamed live p).card =
      (s.pool p).capacity := by
  have haside : ∀ x ∈ aside, x.1 = p → x.2 < (s.pool p).capacity := by
    rintro x hx rfl
    exact h.isSlot_of_mem_aside hx
  have hone : ∀ i ∈ Finset.range (s.pool p).capacity,
      s.queuedAt (p, i) + aside.count (p, i) + min 1 (s.holdersAt (p, i)) = 1 := by
    intro i hi
    rw [h.placed, if_pos (show s.IsSlot (p, i) from Finset.mem_range.mp hi)]
  have hsum := Finset.sum_congr rfl hone
  rwa [Finset.sum_add_distrib, Finset.sum_add_distrib, h.sum_queuedAt, sum_countAside haside,
    h.sum_named, Finset.sum_const, Finset.card_range, smul_eq_mul,
    mul_one] at hsum

/-! ## Allocation through a cache -/

/-- A refill moves slots and makes none. -/
theorem Ledger.available_stocked (h : s.Ledger live (c.places + aside)) :
    ((Store.stocked c s).2.pool c.pool).available + (Store.stocked c s).1.length =
      (s.pool c.pool).available + c.stack.length := by
  have hbefore := h.headcount c.pool
  have hafter := h.stocked.headcount c.pool
  rw [(sameMemory_stocked c s).capacity] at hafter
  simp only [Cache.places, countAside_add, countAside_placesIn, if_true] at hbefore hafter
  omega

theorem Ledger.cacheAlloc_eq_error {e : Fault} (h : s.Ledger live (c.places + aside))
    (ha : c.alloc s = .error e) :
    e = .exhausted .pool ∧ c.stack = [] ∧ (s.pool c.pool).available = 0 := by
  have hmoved := h.available_stocked
  cases hstack : (Store.stocked c s).1 with
  | cons i rest =>
    rw [cacheAlloc_of_cons hstack] at ha
    cases ha
  | nil =>
    rw [cacheAlloc_of_nil hstack] at ha
    cases hqueue : (Store.stocked c s).2.alloc c.pool with
    | ok r =>
      rw [hqueue] at ha
      cases ha
    | error e' =>
      rw [hqueue] at ha
      cases ha
      obtain ⟨he, hnone⟩ := alloc_eq_error hqueue
      rw [hstack, hnone, List.length_nil] at hmoved
      exact ⟨he, List.length_eq_zero_iff.mp (by omega), by omega⟩

theorem Ledger.available_of_cacheAlloc {b : Buffer} (h : s.Ledger live (c.places + aside))
    (ha : c.alloc s = .ok (b, d, t)) : 0 < (s.pool c.pool).available + c.stack.length := by
  rw [← h.available_stocked]
  rcases cacheAlloc_eq_ok ha with ⟨i, rest, hstack, -, -, -⟩ | ⟨-, hqueue, -⟩
  · rw [hstack, List.length_cons]
    omega
  · have hpos := available_of_alloc hqueue
    omega

end Store

/-! ## Handles that share slots alike -/

/-- Pairs of handles to the same pools. Two of the first handles share a slot where the second
ones do. -/
structure Alike (pairs : Multiset (Buffer × Buffer)) : Prop where
  pool : ∀ z ∈ pairs, z.1.pool = z.2.pool
  place : ∀ z ∈ pairs, ∀ y ∈ pairs, z.1.place = y.1.place ↔ z.2.place = y.2.place

namespace Alike

variable {pairs more : Multiset (Buffer × Buffer)} {z y : Buffer × Buffer}

theorem diagonal (live : Multiset Buffer) : Alike (live.map fun b => (b, b)) where
  pool z hz := by
    obtain ⟨b, -, rfl⟩ := Multiset.mem_map.mp hz
    rfl
  place z hz y hy := by
    obtain ⟨b, -, rfl⟩ := Multiset.mem_map.mp hz
    obtain ⟨c, -, rfl⟩ := Multiset.mem_map.mp hy
    rfl

theorem of_cons (h : Alike (z ::ₘ pairs)) : Alike pairs where
  pool y hy := h.pool y (Multiset.mem_cons_of_mem hy)
  place y hy x hx := h.place y (Multiset.mem_cons_of_mem hy) x (Multiset.mem_cons_of_mem hx)

theorem cons (h : Alike pairs) (hpool : z.1.pool = z.2.pool)
    (hplace : ∀ y ∈ pairs, y.1.place = z.1.place ↔ y.2.place = z.2.place) :
    Alike (z ::ₘ pairs) where
  pool y hy := by
    rcases Multiset.mem_cons.mp hy with rfl | hy
    · exact hpool
    · exact h.pool y hy
  place y hy x hx := by
    rcases Multiset.mem_cons.mp hy with heq | hy
    · rcases Multiset.mem_cons.mp hx with heq' | hx
      · simp [heq, heq']
      · rw [heq]
        exact eq_comm.trans ((hplace x hx).trans eq_comm)
    · rcases Multiset.mem_cons.mp hx with heq | hx
      · rw [heq]
        exact hplace y hy
      · exact h.place y hy x hx

theorem card_slotsNamed (h : Alike pairs) (p : Nat) :
    (slotsNamed (pairs.map Prod.fst) p).card = (slotsNamed (pairs.map Prod.snd) p).card := by
  let slots := ((pairs.filter (·.1.pool = p)).map fun z => (z.1.slot, z.2.slot)).toFinset
  have hmem : ∀ x, x ∈ slots ↔
      ∃ z ∈ pairs, z.1.pool = p ∧ z.2.pool = p ∧ z.1.slot = x.1 ∧ z.2.slot = x.2 := by
    intro x
    simp only [slots, Multiset.mem_toFinset, Multiset.mem_map, Multiset.mem_filter,
      Prod.ext_iff]
    constructor
    · rintro ⟨z, ⟨hz, hp⟩, hx⟩
      exact ⟨z, hz, hp, (h.pool z hz).symm.trans hp, hx⟩
    · rintro ⟨z, hz, hp, -, hx⟩
      exact ⟨z, ⟨hz, hp⟩, hx⟩
  have hfst : slotsNamed (pairs.map Prod.fst) p = slots.image Prod.fst := by
    ext i
    simp only [mem_slotsNamed, Multiset.map_map, Multiset.mem_map, Finset.mem_image, hmem,
      Function.comp_apply, Buffer.place, Prod.mk.injEq]
    constructor
    · rintro ⟨z, hz, hp, rfl⟩
      exact ⟨(z.1.slot, z.2.slot), ⟨z, hz, hp, (h.pool z hz).symm.trans hp, rfl, rfl⟩, rfl⟩
    · rintro ⟨x, ⟨z, hz, hp, -, hx, -⟩, rfl⟩
      exact ⟨z, hz, hp, hx⟩
  have hsnd : slotsNamed (pairs.map Prod.snd) p = slots.image Prod.snd := by
    ext i
    simp only [mem_slotsNamed, Multiset.map_map, Multiset.mem_map, Finset.mem_image, hmem,
      Function.comp_apply, Buffer.place, Prod.mk.injEq]
    constructor
    · rintro ⟨z, hz, hp, rfl⟩
      exact ⟨(z.1.slot, z.2.slot), ⟨z, hz, (h.pool z hz).trans hp, hp, rfl, rfl⟩, rfl⟩
    · rintro ⟨x, ⟨z, hz, -, hp, -, hx⟩, rfl⟩
      exact ⟨z, hz, hp, hx⟩
  -- A slot on either side determines the slot on the other.
  have hpattern : ∀ x ∈ slots, ∀ y ∈ slots, x.1 = y.1 ↔ x.2 = y.2 := by
    intro x hx y hy
    obtain ⟨z, hz, hz1, hz2, hx1, hx2⟩ := (hmem x).mp hx
    obtain ⟨w, hw, hw1, hw2, hy1, hy2⟩ := (hmem y).mp hy
    have hplace := h.place z hz w hw
    simp only [Buffer.place, hz1, hz2, hw1, hw2, Prod.mk.injEq, true_and] at hplace
    rwa [hx1, hx2, hy1, hy2] at hplace
  rw [hfst, hsnd, Finset.card_image_of_injOn, Finset.card_image_of_injOn]
  · exact fun x hx y hy hxy => Prod.ext ((hpattern x hx y hy).mpr hxy) hxy
  · exact fun x hx y hy hxy => Prod.ext hxy ((hpattern x hx y hy).mp hxy)

end Alike
end Dataplane
