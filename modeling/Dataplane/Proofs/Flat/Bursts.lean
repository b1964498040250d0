import Dataplane.Flat.Exec
import Dataplane.Proofs.Client.Upkeep
import Dataplane.Proofs.Flat.Arrays
import Dataplane.Proofs.Port.Bursts

/-! # Bursts through arrays of handles

A burst through an array does to ports, rings and pools what it does with the buffers themselves.
Handles of buffers that were sent are gone, and all others name the buffers that they named. A
received buffer has its handle in the entry of its turn.
-/
namespace Dataplane

namespace Flat

/-- What sending an array has done. `entries` are its registers with the buffers in them, and
`burst` is the outcome of a burst of these buffers. -/
structure SendsAs (f : Flat) (entries : List (String × Buffer))
    (burst : Nat × List Buffer × Fabric) (r : Step) : Prop where
  /-- The count is returned in 16 bits, and is what it was. -/
  reply : ∃ n : UInt16, r.1 = .sent n ∧ n.toNat = burst.1
  fabric : r.2.fabric = burst.2.2
  left : burst.2.1 = (entries.drop burst.1).map Prod.snd
  /-- The handles of the buffers that were taken are gone, and these only. -/
  buffers : ∀ m, r.2.buffers.get? m =
    if m ∈ (entries.take burst.1).map Prod.fst then none else f.buffers.get? m
  kept : ∀ e ∈ entries.drop burst.1, r.2.buffers.get? e.1 = some e.2 ∧
    r.2.store.data e.2 = f.store.data e.2 ∧ r.2.store.holders e.2 = f.store.holders e.2
  bytes : ∀ b, r.2.store.data b = f.store.data b
  rest : r.2 = { f with fabric := r.2.fabric, buffers := r.2.buffers }

/-- What receiving into an array has done. `burst` is the outcome of a burst. -/
structure FillsAs (f : Flat) (array : String) (burst : List Buffer × Fabric) (r : Step) :
    Prop where
  reply : ∃ n : UInt16, r.1 = .received n burst.1.length ∧ n.toNat = burst.1.length
  entries : ∀ i b, burst.1[i]? = some b → r.2.buffers.get? (entryName array i) = some b
  others : ∀ m, (∀ i < burst.1.length, m ≠ entryName array i) →
    r.2.buffers.get? m = f.buffers.get? m
  /-- Handles that were in the entries filled are given up. -/
  fabric : r.2.fabric = burst.2.updateStore (·.dropAll (f.replaced array 0 burst.1.length))
  clean : (∀ i < burst.1.length, f.buffers.get? (entryName array i) = none) →
    r.2.fabric = burst.2
  rest : r.2 = { f with fabric := r.2.fabric, buffers := r.2.buffers }

/-- A burst is asked for in 16 bits, and is not longer than that. -/
theorem toNat_ofNat_of_le_count {n : Nat} {count : UInt16} (hn : n ≤ count.toNat) :
    (UInt16.ofNat n).toNat = n :=
  Window.toNat_ofNat_of_le (hn.trans (Nat.le_of_lt_succ count.toNat_lt))

theorem sendEntries_eq (f : Flat) (x : TxQueue) (entries : List (String × Buffer)) :
    f.sendEntries x entries =
      (.sent (UInt16.ofNat (f.fabric.txBurst x (entries.map Prod.snd)).1),
        ((f.setFabric (f.fabric.txBurst x (entries.map Prod.snd)).2.2).forget
          (entries.map Prod.fst)).refill
            (entries.drop (f.fabric.txBurst x (entries.map Prod.snd)).1)) := by
  have hleft := f.fabric.txBurst_left x (entries.map Prod.snd)
  unfold sendEntries
  dsimp only
  rw [hleft, ← List.map_drop, ← List.map_drop, List.zip_map', List.map_id']

theorem sendEntries_sends (f : Flat) (x : TxQueue) {entries : List (String × Buffer)}
    {count : UInt16} (hfew : entries.length ≤ count.toNat)
    (hheld : ∀ e ∈ entries, f.buffers.get? e.1 = some e.2)
    (hdistinct : (entries.map Prod.fst).Nodup) :
    f.SendsAs entries (f.fabric.txBurst x (entries.map Prod.snd)) (f.sendEntries x entries) := by
  have hleft := f.fabric.txBurst_left x (entries.map Prod.snd)
  have hstore := f.fabric.store_txBurst_of_lt x (entries.map Prod.snd)
  have hmem := (Fabric.Upkeep.txBurst f.fabric x (entries.map Prod.snd)).sameMemory
  have htaken := f.fabric.txBurst_le x (entries.map Prod.snd)
  rw [List.length_map] at htaken
  have hexact := toNat_ofNat_of_le_count (htaken.trans hfew)
  rw [sendEntries_eq]
  generalize f.fabric.txBurst x (entries.map Prod.snd) = burst at hleft hstore hmem hexact ⊢
  obtain ⟨n, left, fabric⟩ := burst
  dsimp only at hleft hstore hmem hexact ⊢
  generalize hr : ((f.setFabric fabric).forget (entries.map Prod.fst)).refill (entries.drop n) = g
  have hparts : g = { f with fabric, buffers := g.buffers } := by
    rw [← hr, refill_eq]
    rfl
  have hfabric : g.fabric = fabric := congrArg Flat.fabric hparts
  -- The entries that were left are disjoint from those that were taken.
  have hsplit : (entries.take n).map Prod.fst ++ (entries.drop n).map Prod.fst =
      entries.map Prod.fst := by
    rw [← List.map_append, List.take_append_drop]
  rw [← hsplit] at hdistinct
  obtain ⟨-, hrest, hapart⟩ := List.nodup_append.mp hdistinct
  have hkept : ∀ e ∈ entries.drop n, g.buffers.get? e.1 = some e.2 := by
    intro e he
    rw [← hr]
    exact get?_refill_of_mem hrest he
  have hbuffers : ∀ m, g.buffers.get? m =
      if m ∈ (entries.take n).map Prod.fst then none else f.buffers.get? m := by
    intro m
    by_cases hm : m ∈ (entries.drop n).map Prod.fst
    · obtain ⟨e, he, rfl⟩ := List.mem_map.mp hm
      rw [hkept e he, if_neg fun htaken => hapart _ htaken _ hm rfl]
      exact (hheld e (List.mem_of_mem_drop he)).symm
    · rw [← hr, get?_refill_of_notMem hm, get?_forget, ← hsplit]
      simp only [List.mem_append, hm, or_false]
      rfl
  refine ⟨⟨_, rfl, hexact⟩, hfabric, by rw [hleft, List.map_drop], hbuffers, fun e he => ?_,
    fun b => ?_, by rw [hfabric]; exact hparts⟩
  · have hlt : n < (entries.map Prod.snd).length := by
      by_contra hle
      rw [List.length_map] at hle
      rw [List.drop_eq_nil_of_le (Nat.le_of_not_lt hle)] at he
      cases he
    have hsame : g.store = f.store := (congrArg Fabric.store hfabric).trans (hstore hlt)
    exact ⟨hkept e he, by rw [hsame], by rw [hsame]⟩
  · have hsame : g.store = fabric.store := congrArg Fabric.store hfabric
    rw [hsame]
    exact hmem.data b

theorem receive_fills (f : Flat) (x : RxQueue) (array : String) (count : UInt16) :
    f.FillsAs array (f.fabric.rxBurst x count.toNat) (f.receive x array count) := by
  have hstored := f.keepArray_stored array (f.fabric.rxBurst x count.toNat).1
    (f.fabric.rxBurst x count.toNat).2
  have hexact := toNat_ofNat_of_le_count (f.fabric.length_rxBurst_le x count.toNat)
  exact ⟨⟨_, rfl, hexact⟩, hstored.entries, hstored.others, hstored.replaced, hstored.clean,
    hstored.rest⟩

/-- Bursts through arrays, whatever the state. -/
structure BurstsThrough (f : Flat) : Prop where
  send : ∀ h x array count entries, f.txs.get? h = some x →
    array.take count.toNat = entries.map (fun e => some e.1) →
    (∀ e ∈ entries, f.buffers.get? e.1 = some e.2) → (entries.map Prod.fst).Nodup →
    f.SendsAs entries (f.fabric.txBurst x (entries.map Prod.snd))
      (f.exec (.queue (.send h (some array) count)))
  sendNull : ∀ h array count,
    (f.txs.get? h = none ∨ count ≠ 0 ∧ ∀ a, array = some a →
      ∃ entry ∈ a.take count.toNat, f.behind entry = none) →
    f.exec (.queue (.send h array count)) = (.sent 0, f.failNull)
  receive : ∀ h x array count, f.rxs.get? h = some x →
    f.FillsAs array (f.fabric.rxBurst x count.toNat)
      (f.exec (.queue (.receive h (some array) count)))
  receiveNull : ∀ h array count, f.rxs.get? h = none ∨ array = none →
    f.exec (.queue (.receive h array count)) = (.received 0 0, f.failNull)

theorem bursts_through (f : Flat) : f.BurstsThrough where
  send h x array count entries hx harray hheld hdistinct := by
    have hfew := congrArg List.length harray
    rw [List.length_take, List.length_map] at hfew
    have hsends := f.sendEntries_sends x (hfew ▸ Nat.min_le_left _ _) hheld hdistinct
    simp only [exec, runQueue, hx, send]
    split
    · rename_i hcount
      rw [hcount, UInt16.toNat_zero, List.take_zero] at harray
      obtain rfl := List.map_eq_nil_iff.mp harray.symm
      rw [sendEntries_eq, List.map_nil, Fabric.txBurst_nil] at hsends
      rw [List.map_nil, Fabric.txBurst_nil]
      exact hsends
    · rw [harray, f.entries?_of_held hheld]
      exact hsends
  sendNull h array count hnull := by
    simp only [exec, runQueue]
    cases hx : f.txs.get? h with
    | none => rfl
    | some x =>
      obtain ⟨hcount, hentry⟩ := hnull.resolve_left fun hnone => by simp [hx] at hnone
      simp only [send, if_neg hcount]
      cases array with
      | none => rfl
      | some a =>
        have hnone := (f.entries?_eq_none_iff).mpr (hentry a rfl)
        simp only [hnone]
  receive h x array count hx := by
    simp only [exec, runQueue, hx]
    exact f.receive_fills x array count
  receiveNull h array count hnull := by
    simp only [exec, runQueue]
    rcases hnull with hnone | rfl
    · rw [hnone]
    · cases f.rxs.get? h <;> rfl

end Flat
end Dataplane
