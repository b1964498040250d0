import Dataplane.Proofs.Port.Wiring

/-! # Sole owners

Each end of the ring behind a receive queue is in one place. The receiving end is parked at the
queue or with its handle. The sending end is parked in the inbox of the queue or with the one handle
of the peer that has the epoch of the inbox, so that the peer gets a send handle whenever it has
none out and there is a ring to feed.
-/
namespace Dataplane

theorem eq_of_count_map {α β : Type} [DecidableEq α] [DecidableEq β] {k : α → β} {s : Multiset α}
    {x y : α} (hcount : (s.map k).count (k x) ≤ 1) (hx : x ∈ s) (hy : y ∈ s) (hxy : k y = k x) :
    y = x := by
  by_contra hne
  have hother : y ∈ s.erase x := (Multiset.mem_erase_of_ne hne).mpr hy
  have hpos := Multiset.count_pos.mpr (hxy ▸ Multiset.mem_map_of_mem k hother)
  rw [← Multiset.cons_erase hx, Multiset.map_cons, Multiset.count_cons_self] at hcount
  omega

namespace Fabric

variable {f : Fabric} {p q r : Nat} {rxs : Multiset RxQueue} {txs : Multiset TxQueue}

theorem inbox_of_producer (h : ((f.port p).inboxAt q).producer = some r) :
    (f.port p).inbox[q]? = some ⟨((f.port p).inboxAt q).epoch, some r⟩ := by
  rw [← h]
  refine Port.inbox_of_inboxAt fun hempty => ?_
  rw [hempty] at h
  cases h

theorem mem_parkedProducers (h : ((f.port p).inboxAt q).producer = some r) :
    r ∈ f.parkedProducers := by
  obtain ⟨rest, hold, -⟩ := parkedProducers_set (inbox_of_producer h)
  rw [hold]
  exact Multiset.mem_add.mpr (.inl (Multiset.mem_singleton_self r))

theorem mem_parkedConsumers (h : (f.port p).rxAt q = .parked r) : r ∈ f.parkedConsumers := by
  have hentry := Port.rx_of_rxAt (x := f.port p) (q := q) (by rw [h]; simp)
  obtain ⟨rest, hold, -⟩ := parkedConsumers_set hentry
  rw [hold, h]
  exact Multiset.mem_add.mpr (.inl (Multiset.mem_singleton_self r))

/-- Ring `r` is the one behind queue `q` of port `p`, and its sending end is in one place. -/
structure SoleProducer (f : Fabric) (rxs : Multiset RxQueue) (txs : Multiset TxQueue)
    (p q r : Nat) : Prop where
  reads : f.Reads rxs p q r
  only : ∀ s, f.Reads rxs p q s → s = r
  count : (f.producers txs).count r = 1
  place :
    (((f.port p).inboxAt q).producer = some r ∧
      ∀ x ∈ txs, x.peer = p → x.queue = q → x.epoch ≠ ((f.port p).inboxAt q).epoch) ∨
    (((f.port p).inboxAt q).producer = none ∧
      ∃ x ∈ txs, x.port = (f.port p).peer ∧ x.peer = p ∧ x.queue = q ∧ x.ring = r ∧
        x.epoch = ((f.port p).inboxAt q).epoch ∧ ∀ y ∈ txs.erase x, ¬(y.peer = p ∧ y.queue = q))

theorem Reads.mem_consumers (hr : f.Reads rxs p q r) : r ∈ f.consumers rxs := by
  rcases hr with hr | hr
  · exact Multiset.mem_add.mpr (.inl (mem_parkedConsumers hr))
  · exact Multiset.mem_add.mpr (.inr (Multiset.mem_map_of_mem RxQueue.ring hr))

namespace Wired

variable (h : f.Wired rxs txs)
include h

/-! ## Receiving ends -/

theorem hasConsumer (hr : f.Reads rxs p q r) : (f.ring r).hasConsumer = true :=
  h.owned.consumers.has_of_mem hr.mem_consumers

theorem ring_lt (hr : f.Reads rxs p q r) : r < f.rings.size := by
  by_contra hlt
  have hconsumer := h.hasConsumer hr
  rw [f.ring_of_size_le (Nat.le_of_not_lt hlt)] at hconsumer
  cases hconsumer

/-- Who receives from the ring of a queue has the handle of that queue. -/
theorem rx_of_ring (hr : f.Reads rxs p q r) {x : RxQueue} (hx : x ∈ rxs) (hxr : x.ring = r) :
    x.port = p ∧ x.queue = q := by
  have hmem : r ∈ rxs.map RxQueue.ring := hxr ▸ Multiset.mem_map_of_mem RxQueue.ring hx
  rcases hr with hr | hr
  · exact absurd hmem (h.owned.consumers.not_mem_of_mem (mem_parkedConsumers hr))
  · have hcount := h.owned.consumers.count_of_mem (Multiset.mem_add.mpr (.inr hmem))
    rw [Fabric.consumers, Multiset.count_add] at hcount
    have hone : (rxs.map RxQueue.ring).count r ≤ 1 := by omega
    have heq : x = ⟨p, q, r⟩ := eq_of_count_map (k := RxQueue.ring) hone hr hx hxr
    rw [heq]
    exact ⟨rfl, rfl⟩

theorem epoch_ne_zero (hr : f.Reads rxs p q r) : ((f.port p).inboxAt q).epoch ≠ 0 := by
  intro hzero
  have hblank := (h.fed.queue p q).blank.mpr hzero
  rcases hr with hr | hr
  · rw [hr] at hblank
    cases hblank
  · have hout := h.handed.rx_of_mem hr
    rw [hblank] at hout
    cases hout

/-! ## Sending ends -/

theorem tx_ring_lt {x : TxQueue} (hx : x ∈ txs) : x.ring < f.rings.size := by
  by_contra hlt
  have hend := h.owned.producers.has_of_mem
    (Multiset.mem_add.mpr (.inr (Multiset.mem_map_of_mem TxQueue.ring hx)))
  rw [f.ring_of_size_le (Nat.le_of_not_lt hlt)] at hend
  cases hend

theorem tx_unique {x y : TxQueue} (hx : x ∈ txs) (hy : y ∈ txs) (hxy : x.ring = y.ring) :
    x = y := by
  have hcount := h.owned.producers.count_of_mem
    (Multiset.mem_add.mpr (.inr (Multiset.mem_map_of_mem TxQueue.ring hy)))
  rw [producers, Multiset.count_add] at hcount
  have hone : (txs.map TxQueue.ring).count y.ring ≤ 1 := by omega
  exact eq_of_count_map hone hy hx hxy

/-- A handle with the epoch of an inbox holds the end of the ring that the queue reads from. -/
theorem ring_of_epoch (hr : f.Reads rxs p q r) {x : TxQueue} (hx : x ∈ txs) (hpeer : x.peer = p)
    (hqueue : x.queue = q) (hepoch : x.epoch = ((f.port p).inboxAt q).epoch) : x.ring = r := by
  exact hr.unique ((h.fed.queue p q).feeds x hx hpeer hqueue hepoch).2 h.handed

theorem soleProducer (hr : f.Reads rxs p q r) : f.SoleProducer rxs txs p q r := by
  have honly : ∀ s, f.Reads rxs p q s → s = r := fun s hs => hr.unique hs h.handed
  cases hproducer : ((f.port p).inboxAt q).producer with
  | some s =>
    obtain rfl := honly s ((h.fed.queue p q).parked s hproducer)
    refine ⟨hr, honly, ?_, .inl ⟨hproducer, ?_⟩⟩
    · exact h.owned.producers.count_of_mem
        (Multiset.mem_add.mpr (.inl (mem_parkedProducers hproducer)))
    · intro x hx hpeer hqueue hepoch
      rw [((h.fed.queue p q).feeds x hx hpeer hqueue hepoch).1] at hproducer
      cases hproducer
  | none =>
    obtain ⟨x, hx, hpeer, hqueue, hepoch⟩ :=
      (h.fed.queue p q).claimed (h.epoch_ne_zero hr) hproducer
    have hring := h.ring_of_epoch hr hx hpeer hqueue hepoch
    refine ⟨hr, honly, ?_, .inr ⟨hproducer, x, hx, ?_, hpeer, hqueue, hring, hepoch, ?_⟩⟩
    · have hmem := Multiset.mem_map_of_mem TxQueue.ring hx
      rw [hring] at hmem
      exact h.owned.producers.count_of_mem (Multiset.mem_add.mpr (.inr hmem))
    · rw [← hpeer]
      exact h.handed.tx_port hx
    · rw [← hpeer, ← hqueue]
      exact fun y hy => h.handed.tx_erase_of_peer hx hy

/-- Who sends to the ring of a queue has the epoch of its inbox. -/
theorem tx_of_ring (hr : f.Reads rxs p q r) {x : TxQueue} (hx : x ∈ txs) (hxr : x.ring = r) :
    x.peer = p ∧ x.queue = q ∧ x.epoch = ((f.port p).inboxAt q).epoch := by
  have hmem : r ∈ txs.map TxQueue.ring := hxr ▸ Multiset.mem_map_of_mem TxQueue.ring hx
  rcases (h.soleProducer hr).place with
    ⟨hparked, -⟩ | ⟨-, y, hy, -, hpeer, hqueue, hring, hepoch, -⟩
  · exact absurd hmem (h.owned.producers.not_mem_of_mem (mem_parkedProducers hparked))
  · rw [h.tx_unique hx hy (hxr.trans hring.symm)]
    exact ⟨hpeer, hqueue, hepoch⟩

theorem putProducer_of_not_reads {x : TxQueue} (hx : x ∈ txs)
    (hstale : ¬f.Reads rxs x.peer x.queue x.ring) :
    f.putProducer x = f.dropProducer x.ring := by
  rcases Fed.putProducer_cases f x with ⟨hi, -⟩ | ⟨-, heq⟩
  · have hfeeds := (h.fed.queue x.peer x.queue).feeds x hx rfl rfl
    exact absurd (hfeeds (by rw [Port.inboxAt_eq hi])).2 hstale
  · exact heq

theorem putTx_of_not_reads {x : TxQueue} (hx : x ∈ txs)
    (hstale : ¬f.Reads rxs x.peer x.queue x.ring) :
    ((f.putTx x).ring x.ring).hasProducer = false ∧
      ∀ i, ((f.putTx x).port i).inbox = (f.port i).inbox := by
  rw [(h.handed.putTx_eq hx).2, h.putProducer_of_not_reads hx hstale]
  refine ⟨?_, fun i => ?_⟩
  · rw [ring_updatePort, ring_dropProducer, if_pos rfl]
    rfl
  · rw [read_updatePort (·.inbox) _ x.port (·.setTx x.queue (.parked ())) fun _ => rfl,
      (f.samePorts_dropProducer _).port]

/-- A started port gets a send handle unless its handle is out or the peer has no ring there. -/
theorem takeTx_fails_iff (hp : f.base ≤ p) (hstage : (f.port p).stage = .started)
    (hq : q < (f.port p).txCount) : (∃ e, (f.takeTx p q).1 = .error e) ↔
      (∃ x ∈ txs, x.port = p ∧ x.queue = q) ∨ (f.port (f.port p).peer).rxAt q = .absent := by
  have hset := ((h.counted p hp).ready hstage).2 q hq
  have hentry := Port.tx_of_txAt hset
  constructor
  · rintro ⟨e, he⟩
    by_contra hfree
    rw [not_or] at hfree
    obtain ⟨hmine, htheirs⟩ := hfree
    have hparked : (f.port p).tx[q]? = some (.parked ()) := by
      cases htx : (f.port p).txAt q with
      | absent => exact absurd htx hset
      | out => exact absurd (h.handed.exists_tx htx) hmine
      | parked _ => rw [hentry, htx]
    obtain ⟨r, hr⟩ := exists_reads h.handed htheirs
    rcases (h.soleProducer hr).place with ⟨hproducer, -⟩ | ⟨-, x, hx, hport, -, hqueue, -⟩
    · have hok := congrArg Prod.fst
        (takeTx_of_parked hstage hq hparked (inbox_of_producer hproducer))
      rw [hok] at he
      cases he
    · rw [(h.handed.peer p (lt_size_of_tx hparked)).2] at hport
      exact hmine ⟨x, hx, hport, hqueue⟩
  · intro hbusy
    rcases f.takeTx_cases p q with ⟨e, r, -, hparked, hi, -⟩ | ⟨e, heq⟩
    · exfalso
      rcases hbusy with ⟨x, hx, rfl, rfl⟩ | habsent
      · have hout := h.handed.tx_of_mem hx
        rw [Port.txAt_eq hparked] at hout
        cases hout
      · have hqueue := h.fed.queue (f.port p).peer q
        have hnone := hqueue.blank_producer (hqueue.blank.mp habsent)
        rw [Port.inboxAt_eq hi] at hnone
        cases hnone
    · exact ⟨e, congrArg Prod.fst heq⟩

end Wired
end Fabric
end Dataplane
