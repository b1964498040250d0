import Dataplane.Proofs.Port.Frames
import Dataplane.Proofs.Port.Sole

/-! # The rings behind a port

The rings that the receive queues of a port read from, parked at the queues or out with their
handles, and the frames that wait on them. A queue reads from one ring and no ring is read by two
queues, so that each ring is counted once.
-/
namespace Dataplane

namespace Port

variable {x : Port} {r : Nat}

theorem mem_parked_iff :
    r ∈ x.rx.filterMap QueueEnd.parked? ↔ ∃ q, x.rxAt q = .parked r := by
  rw [List.mem_filterMap]
  constructor
  · rintro ⟨e, he, hr⟩
    obtain ⟨q, hq⟩ := List.mem_iff_getElem?.mp he
    refine ⟨q, (rxAt_eq hq).trans ?_⟩
    cases e with
    | parked s => exact congrArg _ (Option.some.inj hr)
    | _ => cases hr
  · rintro ⟨q, hq⟩
    have hentry := rx_of_rxAt (x := x) (q := q) (by rw [hq]; nofun)
    exact ⟨_, List.mem_of_getElem? hentry, by rw [hq]; rfl⟩

theorem mem_producers_iff :
    r ∈ x.inbox.filterMap Inbox.producer ↔ ∃ q, (x.inboxAt q).producer = some r := by
  rw [List.mem_filterMap]
  constructor
  · rintro ⟨i, hi, hr⟩
    obtain ⟨q, hq⟩ := List.mem_iff_getElem?.mp hi
    exact ⟨q, by rw [inboxAt_eq hq, hr]⟩
  · rintro ⟨q, hq⟩
    have hentry := inbox_of_inboxAt (x := x) (q := q) fun hempty => by
      rw [hempty] at hq
      cases hq
    exact ⟨_, List.mem_of_getElem? hentry, hq⟩

end Port

namespace Fabric

variable {f g : Fabric} {p q r : Nat} {rxs : Multiset RxQueue} {txs : Multiset TxQueue}
  {rs : Multiset Nat}

/-- The rings that the receive queues of a port read from. -/
def behind (f : Fabric) (rxs : Multiset RxQueue) (p : Nat) : Multiset Nat :=
  ↑((f.port p).rx.filterMap QueueEnd.parked?) + (rxs.filter (·.port = p)).map RxQueue.ring

theorem mem_behind : r ∈ f.behind rxs p ↔ ∃ q, f.Reads rxs p q r := by
  unfold behind Reads
  rw [Multiset.mem_add, Multiset.mem_coe, Port.mem_parked_iff, exists_or, Multiset.mem_map]
  refine or_congr_right ⟨?_, ?_⟩
  · rintro ⟨x, hx, rfl⟩
    obtain ⟨hmem, rfl⟩ := Multiset.mem_filter.mp hx
    exact ⟨x.queue, hmem⟩
  · rintro ⟨q, hq⟩
    exact ⟨_, Multiset.mem_filter.mpr ⟨hq, rfl⟩, rfl⟩

theorem Wired.behind_nodup (h : f.Wired rxs txs) (p : Nat) : (f.behind rxs p).Nodup := by
  have hle : f.behind rxs p ≤ f.consumers rxs := by
    have hhandles := Multiset.map_le_map (f := RxQueue.ring)
      (Multiset.filter_le (·.port = p) rxs)
    by_cases hp : p < f.ports.size
    · obtain ⟨rest, hall, -⟩ := parkedConsumers_split hp
      rw [consumers, hall]
      exact add_le_add (Multiset.le_add_right _ _) hhandles
    · rw [behind, f.port_of_size_le (Nat.le_of_not_lt hp)]
      exact add_le_add (Multiset.zero_le _) hhandles
  rw [Multiset.nodup_iff_count_le_one]
  intro r
  have hcount := Multiset.count_le_of_le r hle
  rw [h.owned.consumers r] at hcount
  exact hcount.trans (Bool.toNat_le _)

theorem behind_of_tables (hfg : SameTables f g) (p : Nat) : g.behind rxs p = f.behind rxs p := by
  rw [behind, behind, hfg.rx]

theorem Wired.mem_behind_iff_of_tx (h : f.Wired rxs txs) {x : TxQueue} (hx : x ∈ txs) :
    x.ring ∈ f.behind rxs p ↔
      x.peer = p ∧ x.epoch = ((f.port p).inboxAt x.queue).epoch := by
  constructor
  · intro hr
    obtain ⟨q, hq⟩ := mem_behind.mp hr
    obtain ⟨hpeer, hqueue, hepoch⟩ := h.tx_of_ring hq hx rfl
    exact ⟨hpeer, hqueue ▸ hepoch⟩
  · rintro ⟨hpeer, hepoch⟩
    exact mem_behind.mpr ⟨x.queue, ((h.fed.queue p x.queue).feeds x hx hpeer rfl hepoch).2⟩

theorem Wired.mem_behind_iff_of_rx (h : f.Wired rxs txs) {x : RxQueue} (hx : x ∈ rxs) :
    x.ring ∈ f.behind rxs p ↔ x.port = p := by
  constructor
  · intro hr
    obtain ⟨q, hq⟩ := mem_behind.mp hr
    exact (h.rx_of_ring hq hx rfl).1
  · rintro rfl
    exact mem_behind.mpr ⟨x.queue, .inr hx⟩

theorem Wired.hasConsumer_iff (h : f.Wired rxs txs) :
    (f.ring r).hasConsumer = true ↔ ∃ p q, f.Reads rxs p q r := by
  constructor
  · intro hconsumer
    have hmem : r ∈ f.consumers rxs := by
      rw [← Multiset.count_pos, h.owned.consumers r]
      simp [hconsumer]
    rcases Multiset.mem_add.mp hmem with hparked | hout
    · obtain ⟨x, hx, hr⟩ := List.mem_flatMap.mp (Multiset.mem_coe.mp hparked)
      obtain ⟨p, hp⟩ := List.mem_iff_getElem?.mp hx
      have hport : f.port p = x := by
        rw [Array.getElem?_toList] at hp
        rw [port, Array.getD_eq_getD_getElem?, hp]
        rfl
      obtain ⟨q, hq⟩ := Port.mem_parked_iff.mp hr
      exact ⟨p, q, .inl (hport ▸ hq)⟩
    · obtain ⟨x, hx, rfl⟩ := Multiset.mem_map.mp hout
      exact ⟨x.port, x.queue, .inr hx⟩
  · rintro ⟨p, q, hr⟩
    exact h.hasConsumer hr

def framesOn (f : Fabric) (rs : Multiset Nat) : Multiset Buffer :=
  rs.bind fun r => ↑(f.ring r).frames

theorem framesOn_congr (h : ∀ r ∈ rs, (g.ring r).frames = (f.ring r).frames) :
    g.framesOn rs = f.framesOn rs :=
  Multiset.bind_congr fun r hr => congrArg _ (h r hr)

theorem framesOn_eq_zero (h : ∀ r ∈ rs, (f.ring r).frames = []) : f.framesOn rs = 0 := by
  induction rs using Multiset.induction with
  | empty => rfl
  | cons r rest ih =>
    rw [framesOn, Multiset.cons_bind, h r (Multiset.mem_cons_self r rest)]
    exact (Multiset.zero_add _).trans (ih fun s hs => h s (Multiset.mem_cons_of_mem hs))

theorem framesOn_filter (f : Fabric) (rs : Multiset Nat) (φ : Nat → Prop) [DecidablePred φ] :
    f.framesOn rs = f.framesOn (rs.filter φ) + f.framesOn (rs.filter (¬φ ·)) := by
  rw [framesOn, framesOn, framesOn, ← Multiset.add_bind, Multiset.filter_add_not]

/-- What changes one ring changes the frames on rings by what it changes there. -/
theorem framesOn_split (hnodup : rs.Nodup) (hr : r ∈ rs) : ∃ rest,
    f.framesOn rs = ↑(f.ring r).frames + rest ∧ ∀ g : Fabric,
      (∀ s ≠ r, g.ring s = f.ring s) → g.framesOn rs = ↑(g.ring r).frames + rest := by
  have hsplit : ∀ g : Fabric, g.framesOn rs = ↑(g.ring r).frames + g.framesOn (rs.erase r) := by
    intro g
    rw [framesOn, ← Multiset.cons_erase hr, Multiset.cons_bind, Multiset.cons_erase hr]
    rfl
  refine ⟨f.framesOn (rs.erase r), hsplit f, fun g hg => ?_⟩
  rw [hsplit g, framesOn_congr fun s hs => ?_]
  rw [hg s]
  rintro rfl
  exact (Multiset.Nodup.notMem_erase hnodup) hs

/-- When some rings make way for others, new ones empty, what was on them is on those that stayed or
was on those that are gone. -/
theorem framesOn_exchange {rs' : Multiset Nat} (hold : rs.Nodup) (hnew : rs'.Nodup)
    (hsame : ∀ r ∈ rs, r ∈ rs' → (g.ring r).frames = (f.ring r).frames)
    (hempty : ∀ r ∈ rs', r ∉ rs → (g.ring r).frames = []) :
    f.framesOn rs = g.framesOn rs' + f.framesOn (rs.filter (· ∉ rs')) := by
  have hstay : rs.filter (· ∈ rs') = rs'.filter (· ∈ rs) := by
    refine (Multiset.Nodup.ext (hold.filter _) (hnew.filter _)).mpr fun r => ?_
    rw [Multiset.mem_filter, Multiset.mem_filter, and_comm]
  have hkept : g.framesOn rs' = f.framesOn (rs.filter (· ∈ rs')) := by
    have hnone : g.framesOn (rs'.filter (· ∉ rs)) = 0 := by
      refine framesOn_eq_zero fun r hr => ?_
      obtain ⟨hr', hr⟩ := Multiset.mem_filter.mp hr
      exact hempty r hr' hr
    rw [framesOn_filter g rs' (· ∈ rs), hnone, Multiset.add_zero, ← hstay]
    refine framesOn_congr fun r hr => ?_
    obtain ⟨hr, hr'⟩ := Multiset.mem_filter.mp hr
    exact hsame r hr hr'
  rw [hkept]
  exact framesOn_filter f rs (· ∈ rs')

theorem inFlight_eq (f : Fabric) : f.inFlight = f.framesOn ↑(List.range f.rings.size) := by
  have hrings : f.rings.toList = (List.range f.rings.size).map f.ring := by
    apply List.ext_getElem (by simp)
    intro i hi _
    simp only [Array.length_toList] at hi
    simp [ring, hi]
  rw [inFlight, hrings, List.flatMap_map, framesOn, Multiset.coe_bind]

end Fabric
end Dataplane
