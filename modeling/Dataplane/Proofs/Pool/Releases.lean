import Mathlib.Data.List.Dedup
import Dataplane.Proofs.Pool.Allocation

/-! # Giving up several handles

Handles that are given up one after another lower the counts of their slots one after another. A
slot goes to the end of its queue with the last of its handles, so that the slots that are freed
follow one another in the order of their last handles. Nothing else of a pool changes. No slot is in
the queue and named by a handle.
-/
namespace Dataplane

theorem Pool.name_release (p : Pool) (i : Nat) : (p.release i).name = p.name := by
  unfold release
  split <;> rfl

/-- The slots of a pool that handles name, in the order of the handles. -/
def slotsIn (bs : List Buffer) (p : Nat) : List Nat := (bs.filter (·.pool = p)).map Buffer.slot

theorem mem_slotsIn {bs : List Buffer} {p i : Nat} :
    i ∈ slotsIn bs p ↔ (p, i) ∈ bs.map Buffer.place := by
  simp only [slotsIn, List.mem_map, List.mem_filter, decide_eq_true_eq, Buffer.place,
    Prod.mk.injEq, and_assoc]

theorem slotsIn_cons (b : Buffer) (bs : List Buffer) (p : Nat) :
    slotsIn (b :: bs) p = if b.pool = p then b.slot :: slotsIn bs p else slotsIn bs p := by
  unfold slotsIn
  rw [List.filter_cons]
  by_cases hp : b.pool = p <;> simp [hp]

namespace Store

variable {s t u : Store} {live : Multiset Buffer} {aside : Multiset Place} {b : Buffer}
  {bs : List Buffer}

/-- Stores with the same pools, but for queues and counts of holders. -/
structure SameStock (s t : Store) : Prop extends SameMemory s t where
  size : t.pools.size = s.pools.size
  name : ∀ p, (t.pool p).name = (s.pool p).name

namespace SameStock

theorem refl (s : Store) : SameStock s s := ⟨.refl s, rfl, fun _ => rfl⟩

theorem trans (h : SameStock s t) (k : SameStock t u) : SameStock s u :=
  ⟨h.toSameMemory.trans k.toSameMemory, k.size.trans h.size,
    fun p => (k.name p).trans (h.name p)⟩

theorem update {p : Nat} {f : Pool → Pool} (h : SameMemory s (s.update p f))
    (hf : f default = default) (hname : ∀ x, (f x).name = x.name) :
    SameStock s (s.update p f) := by
  refine ⟨h, Array.size_modify, fun q => ?_⟩
  rw [s.pool_update p hf]
  split
  · exact hname _
  · rfl

theorem take {p i : Nat} (h : s.take? p = some (i, t)) : SameStock s t := by
  refine ⟨.take h, ?_, fun q => ?_⟩
  · unfold take? at h
    split at h
    · cases h
    · cases h
      exact Array.size_setIfInBounds
  · obtain ⟨free, -, hpool⟩ := take?_eq_some h
    rw [hpool]
    split
    · rename_i hq
      rw [hq]
    · rfl

theorem claim (s : Store) (p i : Nat) : SameStock s (s.claim p i).2 :=
  update (.claim s p i) (by simp [Pool.setHolders, default]) fun _ => rfl

theorem drop (s : Store) (b : Buffer) : SameStock s (s.drop b) := by
  have hlower : SameStock s (s.update b.pool (·.lower b.slot)) :=
    update (.lower s _ _) (by simp [Pool.lower, Pool.setHolders, default]) fun _ => rfl
  rw [drop_eq]
  split
  · exact hlower.trans (update (.release _ _ _) rfl fun _ => Pool.name_release _ _)
  · exact hlower

theorem dropAll (s : Store) (bs : List Buffer) : SameStock s (s.dropAll bs) := by
  induction bs generalizing s with
  | nil => exact refl s
  | cons b rest ih => exact (drop s b).trans (ih _)

end SameStock

/-- From `s` to `t`, the handles in `bs` were given up, in this order. -/
structure Released (s : Store) (bs : List Buffer) (t : Store) : Prop extends SameStock s t where
  holders : ∀ x, t.holdersAt x + (bs.map Buffer.place).count x = s.holdersAt x
  /-- A slot that nobody holds any more stands where its last handle stood. -/
  queue : ∀ p, (t.pool p).free.toList = (s.pool p).free.toList ++
    (slotsIn bs p).dedup.filter fun i => t.holdersAt (p, i) = 0

theorem Released.nil (s : Store) : Released s [] s where
  toSameStock := .refl s
  holders _ := rfl
  queue _ := (List.append_nil _).symm

/-! ## One handle -/

theorem holdersAt_drop (s : Store) (b : Buffer) (x : Place) :
    (s.drop b).holdersAt x = s.holdersAt x - if x = b.place then 1 else 0 := by
  rw [drop_eq]
  split
  · rw [holdersAt_release]
    exact holdersAt_lower s _ _ x
  · exact holdersAt_lower s _ _ x

theorem Ledger.queue_drop (h : s.Ledger (b ::ₘ live) aside) (p : Nat) :
    ((s.drop b).pool p).free.toList = (s.pool p).free.toList ++
      if p = b.pool ∧ s.holdersAt b.place = 1 then [b.slot] else [] := by
  rw [drop_eq]
  by_cases hlast : s.holdersAt b.place = 1
  · have hlower := h.lower
    rw [if_pos hlast] at hlower
    have hslot := hlower.isSlot_of_mem_aside (Multiset.mem_cons_self _ _)
    have hroom := hlower.available_lt hslot (hlower.aside_exclusive (Multiset.mem_cons_self _ _)).2.1
    rw [if_pos hlast, pool_release, pool_lower]
    by_cases hp : p = b.pool
    · subst hp
      rw [pool_lower, if_pos rfl] at hroom
      rw [if_pos rfl, if_pos rfl, if_pos ⟨rfl, hlast⟩, Pool.toList_release hroom,
        Pool.free_lower]
    · rw [if_neg hp, if_neg hp, if_neg fun hboth => hp hboth.1, List.append_nil]
  · have hkept : ¬(p = b.pool ∧ s.holdersAt b.place = 1) := fun hboth => hlast hboth.2
    rw [if_neg hlast, if_neg hkept, List.append_nil, pool_lower]
    split <;> rfl

/-! ## Several handles -/

theorem Ledger.holdersAt_dropAll (h : s.Ledger (↑bs + live) aside) (x : Place) :
    (s.dropAll bs).holdersAt x + (bs.map Buffer.place).count x = s.holdersAt x := by
  induction bs generalizing s with
  | nil => rfl
  | cons b rest ih =>
    rw [← Multiset.cons_coe, Multiset.cons_add] at h
    have hpos := h.holdersAt_pos (Multiset.mem_cons_self b _)
    have hx := ih h.drop
    change (s.dropAll (b :: rest)).holdersAt x + _ = _ at hx
    rw [holdersAt_drop] at hx
    rw [List.map_cons, List.count_cons]
    by_cases hplace : x = b.place
    · subst hplace
      simp only [if_true, beq_self_eq_true] at hx ⊢
      omega
    · rw [if_neg hplace] at hx
      rw [if_neg (by simpa using Ne.symm hplace)]
      omega

theorem Ledger.queue_dropAll (h : s.Ledger (↑bs + live) aside) (p : Nat) :
    ((s.dropAll bs).pool p).free.toList = (s.pool p).free.toList ++
      (slotsIn bs p).dedup.filter fun i => (s.dropAll bs).holdersAt (p, i) = 0 := by
  induction bs generalizing s with
  | nil => exact (List.append_nil _).symm
  | cons b rest ih =>
    have hleft := h.holdersAt_dropAll b.place
    rw [← Multiset.cons_coe, Multiset.cons_add] at h
    have hp := ih h.drop
    change ((s.dropAll (b :: rest)).pool p).free.toList = _ ++
      (slotsIn rest p).dedup.filter fun i => (s.dropAll (b :: rest)).holdersAt (p, i) = 0 at hp
    rw [hp, h.queue_drop, List.append_assoc, slotsIn_cons, List.append_cancel_left_eq]
    by_cases hpool : b.pool = p
    · subst hpool
      rw [List.map_cons, List.count_cons_self] at hleft
      rw [if_pos rfl]
      by_cases hmore : b.slot ∈ slotsIn rest b.pool
      · -- A later handle names the slot too, so that this one is not the last.
        have hcount := List.count_pos_iff.mpr (mem_slotsIn.mp hmore)
        change 0 < (rest.map Buffer.place).count b.place at hcount
        have hkept : ¬(b.pool = b.pool ∧ s.holdersAt b.place = 1) := fun hlast => by omega
        rw [List.dedup_cons_of_mem hmore, if_neg hkept, List.nil_append]
      · have hcount : (rest.map Buffer.place).count b.place = 0 :=
          List.count_eq_zero.mpr fun hmem => hmore (mem_slotsIn.mpr hmem)
        have hlast : s.holdersAt b.place = 1 ↔
            (s.dropAll (b :: rest)).holdersAt (b.pool, b.slot) = 0 := by
          change _ ↔ (s.dropAll (b :: rest)).holdersAt b.place = 0
          omega
        rw [List.dedup_cons_of_notMem hmore, List.filter_cons]
        simp only [true_and, hlast, decide_eq_true_eq]
        split <;> rfl
    · rw [if_neg hpool, if_neg fun hboth => hpool hboth.1.symm, List.nil_append]

theorem Ledger.dropAll_released (h : s.Ledger live aside) (hbs : ↑bs ≤ live) :
    Released s bs (s.dropAll bs) := by
  obtain ⟨rest, rfl⟩ := Multiset.le_iff_exists_add.mp hbs
  exact ⟨.dropAll s bs, h.holdersAt_dropAll, h.queue_dropAll⟩

/-! ## Where a slot is -/

/-- A slot that no cache has is in the queue, or it is named by a handle, and not both. -/
theorem Ledger.queued_or_named (h : s.Ledger live aside) {x : Place} (hslot : s.IsSlot x)
    (haside : x ∉ aside) :
    (s.queuedAt x = 1 ∧ ∀ c ∈ live, c.place ≠ x) ∨ (s.queuedAt x = 0 ∧ ∃ c ∈ live, c.place = x) := by
  have hplaced := h.placed x
  rw [if_pos hslot, Multiset.count_eq_zero.mpr haside] at hplaced
  by_cases hnamed : ∃ c ∈ live, c.place = x
  · obtain ⟨c, hc, rfl⟩ := hnamed
    have hpos := h.holdersAt_pos hc
    exact .inr ⟨by omega, c, hc, rfl⟩
  · have hnone : s.holdersAt x = 0 := by
      rw [h.holders_eq, Multiset.count_eq_zero, Multiset.mem_map]
      exact hnamed
    exact .inl ⟨by omega, fun c hc hplace => hnamed ⟨c, hc, hplace⟩⟩

end Store
end Dataplane
