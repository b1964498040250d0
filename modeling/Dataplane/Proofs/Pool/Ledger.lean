import Mathlib.Data.List.Perm.Subperm
import Mathlib.Data.Multiset.Bind
import Dataplane.Proofs.Pool.Checks
import Dataplane.Proofs.Pool.Slots

/-! # The ledger of the pools

Every slot of a pool is in one place: in the queue, set aside for somebody, or held. The ledger
says so of a store, of all live handles, and of all slots set aside; slots on their way between
queue and holder count as set aside. Each primitive operation moves one slot, and the ledger is
kept by moving the slot on the other side too. The bytes of a slot are no part of a move.
-/
namespace Dataplane

namespace Store

/-- Stores that differ in queues and counts of holders only. -/
structure SameMemory (s t : Store) : Prop where
  config : ∀ p, (t.pool p).config = (s.pool p).config
  capacity : ∀ p, (t.pool p).capacity = (s.pool p).capacity
  bytes : ∀ p i, (t.pool p).bytes i = (s.pool p).bytes i

def Fits (s : Store) (b : Buffer) : Prop := b.window.headroom + b.window.size ≤ s.bufferLength b

structure Ledger (s : Store) (live : Multiset Buffer) (aside : Multiset Place) : Prop where
  holders_eq : ∀ x, s.holdersAt x = (live.map Buffer.place).count x
  placed : ∀ x, s.queuedAt x + aside.count x + min 1 (s.holdersAt x) = if s.IsSlot x then 1 else 0
  fits : ∀ b ∈ live, s.Fits b
  filled : ∀ p i, s.IsSlot (p, i) → ((s.pool p).bytes i).length = (s.pool p).bufferLength
  checked : ∀ p, (s.pool p).Checked

variable {s t u : Store} {live live' : Multiset Buffer} {aside aside' : Multiset Place}

namespace SameMemory

theorem refl (s : Store) : SameMemory s s := ⟨fun _ => rfl, fun _ => rfl, fun _ _ => rfl⟩

theorem trans (h : SameMemory s t) (k : SameMemory t u) : SameMemory s u where
  config p := (k.config p).trans (h.config p)
  capacity p := (k.capacity p).trans (h.capacity p)
  bytes p i := (k.bytes p i).trans (h.bytes p i)

theorem bufferLength (h : SameMemory s t) (p : Nat) :
    (t.pool p).bufferLength = (s.pool p).bufferLength := by
  unfold Pool.bufferLength
  rw [h.config]

theorem fits_iff (h : SameMemory s t) (b : Buffer) : t.Fits b ↔ s.Fits b := by
  unfold Fits Store.bufferLength
  rw [h.bufferLength]

theorem data (h : SameMemory s t) (b : Buffer) : t.data b = s.data b := by
  unfold Store.data
  rw [h.bytes]

theorem update (s : Store) (p : Nat) {f : Pool → Pool} (hf : f default = default)
    (hconfig : ∀ x, (f x).config = x.config) (hcapacity : ∀ x, (f x).capacity = x.capacity)
    (hbytes : ∀ x i, (f x).bytes i = x.bytes i) : SameMemory s (s.update p f) := by
  constructor
  · intro q
    rw [s.pool_update p hf]
    split
    · exact hconfig _
    · rfl
  · intro q
    rw [s.pool_update p hf]
    split
    · exact hcapacity _
    · rfl
  · intro q i
    rw [s.pool_update p hf]
    split
    · exact hbytes _ _
    · rfl

theorem isSlot_iff (h : SameMemory s t) (x : Place) : t.IsSlot x ↔ s.IsSlot x := by
  unfold IsSlot
  rw [h.capacity]

theorem take {p i : Nat} (h : s.take? p = some (i, t)) : SameMemory s t := by
  obtain ⟨free, -, hpool⟩ := take?_eq_some h
  constructor <;> intro q <;> rw [hpool] <;> split
  all_goals first | rfl | (subst q; rfl) | (intro j; rfl) | (subst q; intro j; rfl)

end SameMemory

namespace Ledger

/-- The part of the ledger that is about memory follows from the old one. -/
theorem of_sameMemory (h : s.Ledger live aside) (hmem : SameMemory s t)
    (hfits : ∀ b ∈ live', s.Fits b)
    (hholders : ∀ x, t.holdersAt x = (live'.map Buffer.place).count x)
    (hplaced : ∀ x, t.queuedAt x + aside'.count x + min 1 (t.holdersAt x) =
      if s.IsSlot x then 1 else 0) :
    t.Ledger live' aside' where
  holders_eq := hholders
  placed x := by simpa only [hmem.isSlot_iff] using hplaced x
  fits b hb := (hmem.fits_iff b).mpr (hfits b hb)
  filled p i hi := by
    rw [hmem.bytes, hmem.bufferLength]
    exact h.filled p i ((hmem.isSlot_iff (p, i)).mp hi)
  checked p := (h.checked p).congr (hmem.config p) (hmem.capacity p)

theorem short (h : s.Ledger live aside) (p : Nat) : (s.pool p).bufferLength ≤ maxBufferLength :=
  (h.checked p).config.length_le

/-! ## What the ledger says about a slot -/

theorem isSlot_of_mem_aside (h : s.Ledger live aside) {x : Place} (hx : x ∈ aside) :
    s.IsSlot x := by
  by_contra hslot
  have hplaced := h.placed x
  have hcount := Multiset.count_pos.mpr hx
  rw [if_neg hslot] at hplaced
  omega

theorem aside_exclusive (h : s.Ledger live aside) {x : Place} (hx : x ∈ aside) :
    aside.count x = 1 ∧ s.queuedAt x = 0 ∧ s.holdersAt x = 0 := by
  have hplaced := h.placed x
  have hcount := Multiset.count_pos.mpr hx
  rw [if_pos (h.isSlot_of_mem_aside hx)] at hplaced
  omega

theorem holdersAt_pos (h : s.Ledger live aside) {b : Buffer} (hb : b ∈ live) :
    0 < s.holdersAt b.place := by
  rw [h.holders_eq, Multiset.count_pos]
  exact Multiset.mem_map_of_mem _ hb

theorem isSlot_of_mem (h : s.Ledger live aside) {b : Buffer} (hb : b ∈ live) :
    s.IsSlot b.place := by
  by_contra hslot
  have hplaced := h.placed b.place
  have hpos := h.holdersAt_pos hb
  rw [if_neg hslot] at hplaced
  omega

/-- Slots that are not in the queue find room there together. -/
theorem room (h : s.Ledger live aside) {p : Nat} {slots : List Nat} (hdistinct : slots.Nodup)
    (hslots : ∀ i ∈ slots, s.IsSlot (p, i) ∧ s.queuedAt (p, i) = 0) :
    (s.pool p).available + slots.length ≤ (s.pool p).capacity := by
  have hcount : ∀ j, (s.pool p).free.toList.count j ≤ if s.IsSlot (p, j) then 1 else 0 := by
    intro j
    have hplaced := h.placed (p, j)
    simp only [queuedAt] at hplaced
    omega
  have hnodup : (slots ++ (s.pool p).free.toList).Nodup := by
    refine List.nodup_append.mpr ⟨hdistinct, List.nodup_iff_count_le_one.mpr fun j => ?_, ?_⟩
    · have hj := hcount j
      split at hj <;> omega
    · rintro i hi j hj rfl
      exact List.count_eq_zero.mp (hslots i hi).2 hj
  have hsub : slots ++ (s.pool p).free.toList ⊆ List.range (s.pool p).capacity := by
    intro j hj
    rw [List.mem_range]
    rcases List.mem_append.mp hj with hj | hj
    · exact (hslots j hj).1
    · by_contra hlt
      have hzero := hcount j
      rw [if_neg (show ¬s.IsSlot (p, j) from hlt)] at hzero
      exact absurd (List.count_pos_iff.mpr hj) (by omega)
  have hlength := (List.subperm_of_subset hnodup hsub).length_le
  rw [List.length_append, FreeQueue.length_toList, List.length_range, Nat.add_comm] at hlength
  exact hlength

theorem available_lt (h : s.Ledger live aside) {p i : Nat} (hslot : s.IsSlot (p, i))
    (hqueue : s.queuedAt (p, i) = 0) : (s.pool p).available < (s.pool p).capacity :=
  h.room (List.nodup_singleton i) (by simpa using ⟨hslot, hqueue⟩)

/-! ## Moves -/

/-- The queue gives its first slot to somebody who sets it aside. -/
theorem take {p i : Nat} (h : s.Ledger live aside) (ht : s.take? p = some (i, t)) :
    t.Ledger live ((p, i) ::ₘ aside) := by
  refine h.of_sameMemory (.take ht) h.fits (fun x => ?_) fun x => ?_
  · rw [holdersAt_take x ht, h.holders_eq]
  · have hplaced := h.placed x
    rw [queuedAt_take x ht] at hplaced
    rw [holdersAt_take x ht, Multiset.count_cons]
    omega

/-- A slot set aside gets its first handle. -/
theorem claim {p i : Nat} (h : s.Ledger live ((p, i) ::ₘ aside)) :
    (s.claim p i).2.Ledger ((s.claim p i).1 ::ₘ live) aside := by
  have hslot := h.isSlot_of_mem_aside (Multiset.mem_cons_self _ _)
  obtain ⟨-, -, hnone⟩ := h.aside_exclusive (Multiset.mem_cons_self _ _)
  have hplace : (s.claim p i).1.place = (p, i) := rfl
  have hmem : SameMemory s (s.claim p i).2 :=
    .update s p (by simp [Pool.setHolders, default]) (by simp) (by simp) (by simp)
  refine h.of_sameMemory hmem ?_ (fun x => ?_) fun x => ?_
  · intro b hb
    rcases Multiset.mem_cons.mp hb with rfl | hb
    · simp [Fits, Store.claim, Window.headroom, Window.size, Window.fresh, Store.bufferLength,
        Pool.bufferLength, PoolConfig.bufferLength]
    · exact h.fits b hb
  · have hold := h.holders_eq x
    rw [Multiset.map_cons, hplace, Multiset.count_cons, ← hold, Store.claim, holdersAt_setHolders]
    by_cases hx : x = (p, i)
    · subst x
      simp [hslot, hnone]
    · simp [hx]
  · have hplaced := h.placed x
    rw [Multiset.count_cons] at hplaced
    rw [← hplaced, Store.claim, holdersAt_setHolders, queuedAt_setHolders]
    by_cases hx : x = (p, i)
    · subst x
      simp [hslot, hnone, Nat.add_assoc]
    · simp [hx]

/-- A slot set aside goes to the end of the queue, which has room for it. -/
theorem release {p i : Nat} (h : s.Ledger live ((p, i) ::ₘ aside)) :
    (s.update p (·.release i)).Ledger live aside := by
  have hslot := h.isSlot_of_mem_aside (Multiset.mem_cons_self _ _)
  obtain ⟨-, hqueue, -⟩ := h.aside_exclusive (Multiset.mem_cons_self _ _)
  have hroom := h.available_lt hslot hqueue
  have hmem : SameMemory s (s.update p (·.release i)) :=
    .update s p rfl (by simp) (by simp) (by simp)
  refine h.of_sameMemory hmem h.fits (fun x => ?_) fun x => ?_
  · rw [holdersAt_release, h.holders_eq]
  · have hplaced := h.placed x
    rw [Multiset.count_cons] at hplaced
    rw [holdersAt_release, queuedAt_release s p i x hroom]
    omega

/-- A handle gives up its hold. The slot of the last one is set aside. -/
theorem lower {b : Buffer} (h : s.Ledger (b ::ₘ live) aside) :
    (s.update b.pool (·.lower b.slot)).Ledger live
      (if s.holdersAt b.place = 1 then b.place ::ₘ aside else aside) := by
  have hpos := h.holdersAt_pos (Multiset.mem_cons_self b live)
  have hmem : SameMemory s (s.update b.pool (·.lower b.slot)) :=
    .update s b.pool (by simp [Pool.lower, Pool.setHolders, default]) (by simp [Pool.lower])
      (by simp [Pool.lower]) (by simp [Pool.lower])
  refine h.of_sameMemory hmem (fun c hc => h.fits c (Multiset.mem_cons_of_mem hc))
    (fun x => ?_) fun x => ?_
  · have hold := h.holders_eq x
    rw [Multiset.map_cons, Multiset.count_cons] at hold
    rw [holdersAt_lower, hold]
    exact Nat.add_sub_cancel _ _
  · have hplaced := h.placed x
    rw [holdersAt_lower, queuedAt_lower, ← hplaced]
    change s.queuedAt x + _ + min 1 (s.holdersAt x - if x = b.place then 1 else 0) = _
    by_cases hx : x = b.place
    · subst x
      split <;> simp <;> omega
    · split <;> simp [hx]

theorem retain {b : Buffer} (h : s.Ledger live aside) (hb : b ∈ live) :
    (s.update b.pool (·.retain b.slot)).Ledger (b ::ₘ live) aside := by
  have hslot := h.isSlot_of_mem hb
  have hpos := h.holdersAt_pos hb
  have hmem : SameMemory s (s.update b.pool (·.retain b.slot)) :=
    .update s b.pool (by simp [Pool.retain, Pool.setHolders, default]) (by simp [Pool.retain])
      (by simp [Pool.retain]) (by simp [Pool.retain])
  refine h.of_sameMemory hmem ?_ (fun x => ?_) fun x => ?_
  · intro c hc
    rcases Multiset.mem_cons.mp hc with rfl | hc
    · exact h.fits c hb
    · exact h.fits c hc
  · rw [holdersAt_retain, Multiset.map_cons, Multiset.count_cons, ← h.holders_eq]
    change (if x = b.place ∧ _ then _ else _) = _
    by_cases hx : x = b.place
    · simp [hx, hslot]
    · simp [hx]
  · rw [holdersAt_retain, queuedAt_retain, ← h.placed x]
    change _ + _ + min 1 (if x = b.place ∧ _ then _ else _) = _
    by_cases hx : x = b.place
    · subst x
      simp only [hslot, and_self, if_true]
      omega
    · simp [hx]

theorem rewindow {b : Buffer} {w : Window} (h : s.Ledger (b ::ₘ live) aside)
    (hw : s.Fits { b with window := w }) :
    s.Ledger ({ b with window := w } ::ₘ live) aside where
  holders_eq x := by
    rw [h.holders_eq, Multiset.map_cons, Multiset.map_cons]
    rfl
  placed := h.placed
  fits c hc := by
    rcases Multiset.mem_cons.mp hc with rfl | hc
    · exact hw
    · exact h.fits c (Multiset.mem_cons_of_mem hc)
  filled := h.filled
  checked := h.checked

theorem write {b : Buffer} {start : Nat} {new : List UInt8} (h : s.Ledger live aside)
    (hb : b ∈ live) (hin : start + new.length ≤ b.window.size) :
    (s.write b start new).Ledger live aside := by
  have hconfig : ∀ q, ((s.write b start new).pool q).config = (s.pool q).config := by
    intro q
    rw [pool_write]
    split <;> simp
  have hcapacity : ∀ q, ((s.write b start new).pool q).capacity = (s.pool q).capacity := by
    intro q
    rw [pool_write]
    split <;> simp
  have hslot : ∀ x, (s.write b start new).IsSlot x ↔ s.IsSlot x := by
    intro x
    unfold IsSlot
    rw [hcapacity]
  have hlength : ∀ q, ((s.write b start new).pool q).bufferLength = (s.pool q).bufferLength := by
    intro q
    unfold Pool.bufferLength
    rw [hconfig]
  refine ⟨fun x => ?_, fun x => ?_, fun c hc => ?_, fun q j hj => ?_, fun q => ?_⟩
  · rw [holdersAt_write, h.holders_eq]
  · simpa only [holdersAt_write, queuedAt_write, hslot] using h.placed x
  · unfold Fits Store.bufferLength
    rw [hlength]
    exact h.fits c hc
  · have hfilled := h.filled q j ((hslot (q, j)).mp hj)
    rw [hlength, ← hfilled, pool_write]
    by_cases hq : q = b.pool
    · subst q
      rw [if_pos rfl, Pool.bytes_write]
      split
      · rename_i hj'
        obtain ⟨rfl, -⟩ := hj'
        have hfits := h.fits b hb
        apply Pool.length_overwrite
        unfold Fits Store.bufferLength at hfits
        omega
      · rfl
    · rw [if_neg hq]
  · exact (h.checked q).congr (hconfig q) (hcapacity q)

end Ledger
end Store
end Dataplane
