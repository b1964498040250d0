import Dataplane.Proofs.Pool.Releases

/-! # Bulk allocation

A bulk allocation takes slots off the front of the queue, as many as are asked for or as there are,
and makes the first handle to each. One that must be whole and finds too few slots has taken the
whole queue by then. Given up in the order in which they were made, its handles put the slots back
in the order in which they stood, and the pool is what it was.
-/
namespace Dataplane

theorem Pool.slots_ext {p q : Pool} (hcapacity : p.capacity = q.capacity)
    (hholders : ∀ i, p.holders i = q.holders i) (hbytes : ∀ i, p.bytes i = q.bytes i) :
    p.slots = q.slots := by
  apply Array.ext hcapacity
  intro i hp hq
  have hcount := hholders i
  have hcontent := hbytes i
  simp only [holders, bytes, Array.getElem?_eq_getElem hp, Array.getElem?_eq_getElem hq,
    Option.map_some, Option.getD_some] at hcount hcontent
  generalize p.slots[i] = a at hcount hcontent ⊢
  generalize q.slots[i] = b at hcount hcontent ⊢
  cases a
  cases b
  rw [Slot.mk.injEq]
  exact ⟨hcount, hcontent⟩

theorem nodup_slotsIn {bs : List Buffer} (h : (bs.map Buffer.place).Nodup) (p : Nat) :
    (slotsIn bs p).Nodup := by
  have hplaces : (slotsIn bs p).map (Prod.mk p) = (bs.filter (·.pool = p)).map Buffer.place := by
    rw [slotsIn, List.map_map]
    refine List.map_congr_left fun b hb => ?_
    have hpool : b.pool = p := by simpa using (List.mem_filter.mp hb).2
    exact Prod.ext hpool.symm rfl
  refine List.Nodup.of_map (Prod.mk p) ?_
  rw [hplaces]
  exact h.sublist (List.filter_sublist.map _)

namespace Store

variable {s t u : Store} {live : Multiset Buffer} {aside : Multiset Place} {p m n : Nat}
  {b : Buffer} {bs cs : List Buffer}

/-- The first handle to a slot: its window is empty and leaves the headroom of the pool. -/
def firstHandle (s : Store) (p i : Nat) : Buffer := ⟨p, i, .fresh (s.pool p).config.headroom⟩

/-- The first handles to the slots that are taken next. -/
def nextHandles (s : Store) (p n : Nat) : List Buffer :=
  ((s.pool p).free.toList.take n).map (s.firstHandle p)

theorem length_nextHandles (s : Store) (p n : Nat) :
    (s.nextHandles p n).length = min n (s.pool p).available := by
  rw [nextHandles, List.length_map, List.length_take, FreeQueue.length_toList]
  rfl

/-- From `s` to `t`, up to `n` slots were taken off the queue of a pool, and `bs` are the first
handles to them. -/
structure Drawn (s : Store) (p n : Nat) (bs : List Buffer) (t : Store) : Prop
    extends SameStock s t where
  buffers : bs = s.nextHandles p n
  queue : ∀ q, (t.pool q).free.toList =
    if q = p then (s.pool q).free.toList.drop n else (s.pool q).free.toList
  unheld : ∀ b ∈ bs, s.holdersAt b.place = 0
  holders : ∀ x, t.holdersAt x = if x ∈ bs.map Buffer.place then 1 else s.holdersAt x

/-- The pools are what they were: all slots have the holders and the bytes that they had, and the
queues have the same slots in the same order. -/
structure Restored (s t : Store) : Prop where
  size : t.pools.size = s.pools.size
  name : ∀ p, (t.pool p).name = (s.pool p).name
  config : ∀ p, (t.pool p).config = (s.pool p).config
  slots : ∀ p, (t.pool p).slots = (s.pool p).slots
  queue : ∀ p, (t.pool p).free.toList = (s.pool p).free.toList

theorem Restored.refl (s : Store) : Restored s s :=
  ⟨rfl, fun _ => rfl, fun _ => rfl, fun _ => rfl, fun _ => rfl⟩

/-! ## Taking slots -/

theorem SameStock.firstHandle (h : SameStock s t) (p : Nat) : t.firstHandle p = s.firstHandle p := by
  funext i
  rw [Store.firstHandle, Store.firstHandle, h.config]

theorem Drawn.nil (h : (s.pool p).free.toList.take n = []) : Drawn s p n [] s where
  toSameStock := .refl s
  buffers := by rw [nextHandles, h, List.map_nil]
  queue q := by
    split
    · rename_i hq
      have hsplit := List.take_append_drop n (s.pool p).free.toList
      rw [h, List.nil_append] at hsplit
      rw [hq, hsplit]
    · rfl
  unheld _ hb := absurd hb List.not_mem_nil
  holders _ := rfl

theorem Drawn.append (h : Drawn s p m bs t) (k : Drawn t p n cs u) :
    Drawn s p (m + n) (bs ++ cs) u where
  toSameStock := h.toSameStock.trans k.toSameStock
  buffers := by
    rw [h.buffers, k.buffers, nextHandles, nextHandles, nextHandles, h.toSameStock.firstHandle,
      h.queue, if_pos rfl, List.take_add, List.map_append]
  queue q := by
    rw [k.queue, h.queue]
    split
    · exact List.drop_drop
    · rfl
  unheld b hb := by
    rcases List.mem_append.mp hb with hb | hb
    · exact h.unheld b hb
    · have hnone := k.unheld b hb
      rw [h.holders] at hnone
      split at hnone
      · cases hnone
      · exact hnone
  holders x := by
    rw [k.holders, h.holders, List.map_append]
    by_cases hb : x ∈ bs.map Buffer.place <;> simp [hb]

theorem Ledger.alloc_drawn (h : s.Ledger live aside) (ha : s.alloc p = .ok (b, t)) :
    Drawn s p 1 [b] t := by
  obtain ⟨i, u, htake, rfl, rfl⟩ := alloc_eq_ok ha
  obtain ⟨free, hqueue, hpool⟩ := take?_eq_some htake
  have htaken := h.take htake
  have hslot := htaken.isSlot_of_mem_aside (Multiset.mem_cons_self _ _)
  obtain ⟨-, -, hnone⟩ := htaken.aside_exclusive (Multiset.mem_cons_self _ _)
  rw [holdersAt_take _ htake] at hnone
  have hstock := SameStock.take htake
  have hplace : (u.claim p i).1.place = (p, i) := rfl
  refine ⟨hstock.trans (.claim u p i), ?_, fun q => ?_, ?_, fun x => ?_⟩
  · rw [nextHandles, hqueue, List.take_succ_cons, List.take_zero, List.map_singleton,
      ← hstock.firstHandle]
    rfl
  · rw [Store.claim, pool_setHolders]
    split
    · rename_i hq
      rw [Pool.free_setHolders, hpool, if_pos hq, hq, hqueue]
      rfl
    · rename_i hq
      rw [hpool, if_neg hq]
  · intro b hb
    rw [List.mem_singleton.mp hb]
    exact hnone
  · simp only [List.map_singleton, List.mem_singleton, hplace]
    rw [Store.claim, holdersAt_setHolders, holdersAt_take x htake]
    by_cases hx : x = (p, i)
    · subst hx
      rw [if_pos ⟨rfl, hslot⟩, if_pos rfl]
    · rw [if_neg fun hboth => hx hboth.1, if_neg hx]

theorem Ledger.allocUpTo_drawn (h : s.Ledger live aside) (p n : Nat) :
    Drawn s p n (s.allocUpTo p n).1 (s.allocUpTo p n).2 := by
  induction n generalizing s live with
  | zero => exact .nil List.take_zero
  | succ n ih =>
    rw [Store.allocUpTo]
    cases ha : s.alloc p with
    | error e =>
      have hempty : (s.pool p).free.toList = [] := by
        rw [← List.length_eq_zero_iff, FreeQueue.length_toList]
        exact (alloc_eq_error ha).2
      exact .nil (by rw [hempty, List.take_nil])
    | ok r =>
      have hrest := (h.alloc_drawn ha).append (ih (h.alloc ha).1)
      rwa [Nat.add_comm] at hrest

theorem Drawn.length (h : Drawn s p n bs t) : bs.length = min n (s.pool p).available := by
  rw [h.buffers, length_nextHandles]

/-! ## Giving all of them up -/

theorem slotsIn_nextHandles (s : Store) (p n q : Nat) : slotsIn (s.nextHandles p n) q =
    if q = p then (s.pool p).free.toList.take n else [] := by
  unfold slotsIn nextHandles
  rw [List.filter_map, List.map_map]
  split
  · rename_i hq
    have hall : ((s.pool p).free.toList.take n).filter
        ((fun b => decide (b.pool = q)) ∘ s.firstHandle p) = (s.pool p).free.toList.take n :=
      List.filter_eq_self.mpr fun _ _ => decide_eq_true hq.symm
    rw [hall]
    exact List.map_id _
  · rename_i hq
    have hnone : ((s.pool p).free.toList.take n).filter
        ((fun b => decide (b.pool = q)) ∘ s.firstHandle p) = [] :=
      List.filter_eq_nil_iff.mpr fun _ _ => by simpa using fun hpool => hq hpool.symm
    rw [hnone, List.map_nil]

/-- Handles that were just made leave no trace in the counts. -/
theorem Drawn.holders_released (h : Drawn s p n bs t) (k : Released t bs u)
    (hdistinct : (bs.map Buffer.place).Nodup) (x : Place) : u.holdersAt x = s.holdersAt x := by
  have hcount := k.holders x
  rw [h.holders] at hcount
  split at hcount
  · rename_i hx
    obtain ⟨b, hb, rfl⟩ := List.mem_map.mp hx
    rw [List.count_eq_one_of_mem hdistinct hx] at hcount
    rw [h.unheld b hb]
    omega
  · rename_i hx
    rw [List.count_eq_zero.mpr hx] at hcount
    exact hcount

/-- The slots of a queue that was emptied go back in their order. -/
theorem Drawn.restored (h : Drawn s p n bs t) (k : Released t bs u)
    (hdistinct : (bs.map Buffer.place).Nodup) (hshort : (s.pool p).available ≤ n) :
    Restored s u := by
  have hstock := h.toSameStock.trans k.toSameStock
  have hholders := h.holders_released k hdistinct
  refine ⟨hstock.size, hstock.name, hstock.config, fun q => ?_, fun q => ?_⟩
  · exact Pool.slots_ext (hstock.capacity q) (fun i => hholders (q, i)) (hstock.bytes q)
  · have hfreed : ((slotsIn bs q).dedup.filter fun i => u.holdersAt (q, i) = 0) =
        slotsIn bs q := by
      rw [List.dedup_eq_self.mpr (nodup_slotsIn hdistinct q)]
      refine List.filter_eq_self.mpr fun i hi => decide_eq_true ?_
      obtain ⟨b, hb, hplace⟩ := List.mem_map.mp (mem_slotsIn.mp hi)
      rw [hholders, ← hplace, h.unheld b hb]
    have hall : (s.pool p).free.toList.length ≤ n := by
      rw [FreeQueue.length_toList]
      exact hshort
    rw [k.queue, hfreed, h.queue, h.buffers, slotsIn_nextHandles]
    split
    · rename_i hq
      rw [hq, List.drop_of_length_le hall, List.take_of_length_le hall, List.nil_append]
    · exact List.append_nil _

/-! ## Bulks that must be whole -/

/-- What an allocation of exactly `n` buffers does, where the list for them can be reserved. -/
structure Whole (s : Store) (p n : Nat) : Prop where
  enough : n ≤ (s.pool p).available → ∃ t,
    s.allocExact? p n = some (.ok (s.nextHandles p n), t) ∧ Drawn s p n (s.nextHandles p n) t
  short : (s.pool p).available < n → ∃ t,
    s.allocExact? p n = some (.error (.exhausted .pool), t) ∧ Restored s t

theorem allocBulk?_eq (s : Store) (p n : Nat) :
    s.allocBulk? p n = if n ≤ maxReserved then some (s.allocUpTo p n) else none := by
  unfold allocBulk?
  by_cases hn : n > maxReserved
  · rw [if_pos hn, if_neg (by omega)]
  · rw [if_neg hn, if_pos (by omega)]

theorem Ledger.whole (h : s.Ledger live aside) (p : Nat) (hn : n ≤ maxReserved) : s.Whole p n := by
  have hdrawn := h.allocUpTo_drawn p n
  obtain ⟨hledger, hgranted⟩ := h.allocUpTo p n
  have hlength := hdrawn.length
  have hexact : s.allocExact? p n = some (if (s.allocUpTo p n).1.length < n
      then (.error (.exhausted .pool), (s.allocUpTo p n).2.dropAll (s.allocUpTo p n).1)
      else (.ok (s.allocUpTo p n).1, (s.allocUpTo p n).2)) := by
    rw [allocExact?, allocBulk?_eq, if_pos hn]
    rfl
  constructor
  · intro henough
    refine ⟨(s.allocUpTo p n).2, ?_, ?_⟩
    · rw [hexact, if_neg (by omega), hdrawn.buffers]
    · rw [← hdrawn.buffers]
      exact hdrawn
  · intro hshort
    refine ⟨(s.allocUpTo p n).2.dropAll (s.allocUpTo p n).1, ?_, ?_⟩
    · rw [hexact, if_pos (by omega)]
    · exact hdrawn.restored (hledger.dropAll_released (Multiset.le_add_right _ _))
        hgranted.distinct hshort.le

end Store
end Dataplane
