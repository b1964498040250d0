import Dataplane.Proofs.Port.Handles

/-! # Who feeds a receive queue

The sending end of the ring behind a receive queue is in the inbox of the queue, or with the one
send handle that has the epoch of the inbox. Epochs only grow, and the epoch of a queue without a
ring is zero, which no handle has: whatever replaced a ring, a handle of the old one is not taken
for a handle of the new one.
-/
namespace Dataplane
namespace Fabric

/-- Ring `r` is the one behind receive queue `q` of port `p`. -/
def Reads (f : Fabric) (rxs : Multiset RxQueue) (p q r : Nat) : Prop :=
  (f.port p).rxAt q = .parked r ∨ ⟨p, q, r⟩ ∈ rxs

variable {f g : Fabric} {p q r : Nat} {rxs rxs' : Multiset RxQueue} {txs : Multiset TxQueue}

theorem Reads.of_rxAt (h : f.Reads rxs p q r) (hrx : (g.port p).rxAt q = (f.port p).rxAt q) :
    g.Reads rxs p q r := by
  unfold Reads at h ⊢
  rw [hrx]
  exact h

theorem Reads.takeRx {i j s : Nat} (h : f.Reads rxs i j s)
    (hr : (f.port p).rx[q]? = some (.parked r)) :
    (f.updatePort p (·.setRx q .out)).Reads (⟨p, q, r⟩ ::ₘ rxs) i j s := by
  have hparked := Port.rxAt_eq hr
  unfold Reads at h ⊢
  rw [rxAt_updatePort hr]
  by_cases hij : i = p ∧ j = q
  · obtain ⟨rfl, rfl⟩ := hij
    rw [hparked] at h
    rcases h with h | h
    · cases h
      exact .inr (Multiset.mem_cons_self _ _)
    · exact .inr (Multiset.mem_cons_of_mem h)
  · rw [if_neg hij]
    exact h.imp_right Multiset.mem_cons_of_mem

theorem Reads.putRx {i j s : Nat} (h : f.Reads rxs i j s) (hh : f.Handed rxs txs) {x : RxQueue}
    (hx : x ∈ rxs) : (f.putRx x).Reads (rxs.erase x) i j s := by
  obtain ⟨hentry, heq⟩ := hh.putRx_eq hx
  have hout := Port.rxAt_eq hentry
  rw [heq]
  unfold Reads at h ⊢
  rw [rxAt_updatePort hentry]
  by_cases hij : i = x.port ∧ j = x.queue
  · obtain ⟨rfl, rfl⟩ := hij
    rw [hout] at h
    rcases h with h | h
    · cases h
    · by_cases hsx : (⟨x.port, x.queue, s⟩ : RxQueue) = x
      · left
        rw [if_pos ⟨rfl, rfl⟩]
        exact congrArg (QueueEnd.parked ·.ring) hsx.symm
      · exact .inr ((Multiset.mem_erase_of_ne hsx).mpr h)
  · rw [if_neg hij]
    refine h.imp_right fun hs => (Multiset.mem_erase_of_ne ?_).mpr hs
    rintro rfl
    exact hij ⟨rfl, rfl⟩

theorem Reads.unique {s : Nat} (h : f.Reads rxs p q r) (hs : f.Reads rxs p q s)
    (hh : f.Handed rxs txs) : s = r := by
  rcases h with h | h <;> rcases hs with hs | hs
  · rw [h] at hs
    exact (QueueEnd.parked.inj hs).symm
  · rw [hh.rx_of_mem hs] at h
    cases h
  · rw [hh.rx_of_mem h] at hs
    cases hs
  · by_contra hne
    have hother : (⟨p, q, s⟩ : RxQueue) ∈ rxs.erase ⟨p, q, r⟩ := by
      refine (Multiset.mem_erase_of_ne fun heq => hne ?_).mpr hs
      exact congrArg RxQueue.ring heq
    have hpos := rxHandles_pos_iff.mpr ⟨_, hother, rfl, rfl⟩
    rw [hh.rx_erase h] at hpos
    exact Nat.lt_irrefl 0 hpos

theorem exists_reads (hh : f.Handed rxs txs) (h : (f.port p).rxAt q ≠ .absent) :
    ∃ r, f.Reads rxs p q r := by
  cases hrx : (f.port p).rxAt q with
  | absent => exact absurd hrx h
  | parked r => exact ⟨r, .inl hrx⟩
  | out =>
    obtain ⟨r, hr⟩ := hh.exists_rx hrx
    exact ⟨r, .inr hr⟩

theorem rxAt_installRing {i : Inbox} {e : QueueEnd Nat} (hi : (f.port p).inbox[q]? = some i)
    (he : (f.port p).rx[q]? = some e) (capacity k j : Nat) :
    ((f.installRing p q capacity).port k).rxAt j =
      if k = p ∧ j = q then .parked f.rings.size else (f.port k).rxAt j := by
  obtain ⟨hqe, -⟩ := List.getElem?_eq_some_iff.mp he
  rw [port_installRing (lt_size_of_inbox hi)]
  by_cases hk : k = p
  · subst k
    rw [if_pos rfl, Port.rxAt_withRing]
    by_cases hj : j = q
    · simp [hj, hqe]
    · simp [hj]
  · simp [hk]

theorem inboxAt_installRing {i : Inbox} (hi : (f.port p).inbox[q]? = some i)
    (capacity k j : Nat) :
    ((f.installRing p q capacity).port k).inboxAt j =
      if k = p ∧ j = q then ⟨(f.port p).epoch + 1, some f.rings.size⟩
      else (f.port k).inboxAt j := by
  obtain ⟨hqi, -⟩ := List.getElem?_eq_some_iff.mp hi
  rw [port_installRing (lt_size_of_inbox hi)]
  by_cases hk : k = p
  · subst k
    rw [if_pos rfl, Port.inboxAt_withRing]
    by_cases hj : j = q
    · simp [hj, hqi]
    · simp [hj]
  · simp [hk]

theorem epoch_installRing (hp : p < f.ports.size) (q capacity k : Nat) :
    ((f.installRing p q capacity).port k).epoch = (f.port k).epoch + if k = p then 1 else 0 := by
  rw [port_installRing hp]
  split <;> rfl

/-- How one receive queue is fed. -/
structure FedAt (f : Fabric) (rxs : Multiset RxQueue) (txs : Multiset TxQueue) (p q : Nat) :
    Prop where
  epoch_le : ((f.port p).inboxAt q).epoch ≤ (f.port p).epoch
  blank : (f.port p).rxAt q = .absent ↔ ((f.port p).inboxAt q).epoch = 0
  blank_producer : ((f.port p).inboxAt q).epoch = 0 → ((f.port p).inboxAt q).producer = none
  parked : ∀ r, ((f.port p).inboxAt q).producer = some r → f.Reads rxs p q r
  feeds : ∀ x ∈ txs, x.peer = p → x.queue = q → x.epoch = ((f.port p).inboxAt q).epoch →
    ((f.port p).inboxAt q).producer = none ∧ f.Reads rxs p q x.ring
  claimed : ((f.port p).inboxAt q).epoch ≠ 0 → ((f.port p).inboxAt q).producer = none →
    ∃ x ∈ txs, x.peer = p ∧ x.queue = q ∧ x.epoch = ((f.port p).inboxAt q).epoch

structure Fed (f : Fabric) (rxs : Multiset RxQueue) (txs : Multiset TxQueue) : Prop where
  tx_epoch : ∀ x ∈ txs, 0 < x.epoch ∧ x.epoch ≤ (f.port x.peer).epoch
  queue : ∀ p q, f.FedAt rxs txs p q

namespace FedAt

/-- What does not concern a queue leaves it fed as it was. -/
theorem frame {txs' : Multiset TxQueue} (h : f.FedAt rxs txs p q)
    (hepoch : (f.port p).epoch ≤ (g.port p).epoch)
    (hinbox : (g.port p).inboxAt q = (f.port p).inboxAt q)
    (hblank : (g.port p).rxAt q = .absent ↔ (f.port p).rxAt q = .absent)
    (hreads : ∀ r, f.Reads rxs p q r → g.Reads rxs' p q r)
    (htxs : ∀ x : TxQueue, x.peer = p ∧ x.queue = q → (x ∈ txs' ↔ x ∈ txs)) :
    g.FedAt rxs' txs' p q := by
  refine ⟨?_, ?_, ?_, fun r hr => ?_, fun x hx hpeer hqueue hsame => ?_, fun hset hnone => ?_⟩
  · rw [hinbox]
    exact h.epoch_le.trans hepoch
  · rw [hblank, hinbox, h.blank]
  · rw [hinbox]
    exact h.blank_producer
  · rw [hinbox] at hr
    exact hreads r (h.parked r hr)
  · rw [hinbox] at hsame ⊢
    have hfeeds := h.feeds x ((htxs x ⟨hpeer, hqueue⟩).mp hx) hpeer hqueue hsame
    exact ⟨hfeeds.1, hreads _ hfeeds.2⟩
  · rw [hinbox] at hset hnone ⊢
    obtain ⟨x, hx, hpeer, hqueue, hsame⟩ := h.claimed hset hnone
    exact ⟨x, (htxs x ⟨hpeer, hqueue⟩).mpr hx, hpeer, hqueue, hsame⟩

theorem empty (hrx : (f.port p).rxAt q = .absent) (hinbox : (f.port p).inboxAt q = {})
    (htxs : ∀ x ∈ txs, 0 < x.epoch) : f.FedAt rxs txs p q := by
  refine ⟨?_, ?_, ?_, fun r hr => ?_, fun x hx _ _ hsame => ?_, fun hset _ => ?_⟩
  · rw [hinbox]
    exact Nat.zero_le _
  · rw [hinbox]
    exact iff_of_true hrx rfl
  · rw [hinbox]
    exact fun _ => rfl
  · rw [hinbox] at hr
    cases hr
  · rw [hinbox] at hsame
    exact absurd hsame (Nat.ne_of_gt (htxs x hx))
  · rw [hinbox] at hset
    exact absurd rfl hset

/-- A queue whose sending end waits in its inbox. -/
theorem of_parked {e : Nat} (hreads : f.Reads rxs p q r) (hrx : (f.port p).rxAt q ≠ .absent)
    (hinbox : (f.port p).inboxAt q = ⟨e, some r⟩) (hpos : 0 < e) (hle : e ≤ (f.port p).epoch)
    (htxs : ∀ x ∈ txs, x.peer = p → x.queue = q → x.epoch ≠ e) : f.FedAt rxs txs p q := by
  refine ⟨?_, ?_, fun hzero => ?_, fun s hs => ?_, fun x hx hpeer hqueue hsame => ?_,
    fun _ hnone => ?_⟩
  · rw [hinbox]
    exact hle
  · rw [hinbox]
    exact iff_of_false hrx (Nat.ne_of_gt hpos)
  · rw [hinbox] at hzero
    exact absurd hzero (Nat.ne_of_gt hpos)
  · rw [hinbox] at hs
    cases hs
    exact hreads
  · rw [hinbox] at hsame
    exact absurd hsame (htxs x hx hpeer hqueue)
  · rw [hinbox] at hnone
    cases hnone

/-- A queue whose sending end is with one of the handles. -/
theorem of_taken {x : TxQueue} (hx : x ∈ txs)
    (hreads : f.Reads rxs x.peer x.queue x.ring) (hrx : (f.port x.peer).rxAt x.queue ≠ .absent)
    (hinbox : (f.port x.peer).inboxAt x.queue = ⟨x.epoch, none⟩) (hpos : 0 < x.epoch)
    (hle : x.epoch ≤ (f.port x.peer).epoch)
    (htxs : ∀ y ∈ txs, y.peer = x.peer → y.queue = x.queue → y.epoch = x.epoch → y = x) :
    f.FedAt rxs txs x.peer x.queue := by
  refine ⟨?_, ?_, fun _ => ?_, fun s hs => ?_, fun y hy hpeer hqueue hsame => ?_, fun _ _ => ?_⟩
  · rw [hinbox]
    exact hle
  · rw [hinbox]
    exact iff_of_false hrx (Nat.ne_of_gt hpos)
  · rw [hinbox]
  · rw [hinbox] at hs
    cases hs
  · rw [hinbox] at hsame ⊢
    rw [htxs y hy hpeer hqueue hsame]
    exact ⟨rfl, hreads⟩
  · rw [hinbox]
    exact ⟨x, hx, rfl, rfl, rfl⟩

end FedAt

namespace Fed

/-- Inboxes and handles that send stay, and queues go on to read from their rings. -/
theorem of_reads (h : f.Fed rxs txs) (hepoch : ∀ i, (f.port i).epoch ≤ (g.port i).epoch)
    (hinbox : ∀ i j, (g.port i).inboxAt j = (f.port i).inboxAt j)
    (hblank : ∀ i j, (g.port i).rxAt j = .absent ↔ (f.port i).rxAt j = .absent)
    (hreads : ∀ i j r, f.Reads rxs i j r → g.Reads rxs' i j r) : g.Fed rxs' txs where
  tx_epoch x hx := ⟨(h.tx_epoch x hx).1, (h.tx_epoch x hx).2.trans (hepoch x.peer)⟩
  queue i j :=
    (h.queue i j).frame (hepoch i) (hinbox i j) (hblank i j) (hreads i j) fun _ _ => Iff.rfl

theorem of_ports (h : f.Fed rxs txs) (hepoch : ∀ i, (f.port i).epoch ≤ (g.port i).epoch)
    (hinbox : ∀ i j, (g.port i).inboxAt j = (f.port i).inboxAt j)
    (hrx : ∀ i j, (g.port i).rxAt j = (f.port i).rxAt j) : g.Fed rxs txs :=
  h.of_reads hepoch hinbox (fun i j => by rw [hrx]) fun i j _ hr => hr.of_rxAt (hrx i j)

theorem of_tables (h : f.Fed rxs txs) (hfg : SameTables f g) : g.Fed rxs txs :=
  h.of_ports (fun i => (hfg.epoch i).ge) hfg.inboxAt hfg.rxAt

theorem updatePort (h : f.Fed rxs txs) (p : Nat) {g : Port → Port}
    (hg : ∀ x, x.epoch ≤ (g x).epoch ∧ (g x).rx = x.rx ∧ (g x).inbox = x.inbox) :
    (f.updatePort p g).Fed rxs txs := by
  refine h.of_ports (fun i => ?_)
    (fun i j => read_updatePort (·.inboxAt j) f p g (fun x => ?_) i)
    fun i j => read_updatePort (·.rxAt j) f p g (fun x => ?_) i
  · rw [port_updatePort]
    split
    · exact (hg _).1
    · exact Nat.le_refl _
  · simp only [Port.inboxAt, (hg x).2.2]
  · simp only [Port.rxAt, (hg x).2.1]

theorem resetQueues (h : f.Fed rxs txs) (hp : p < f.ports.size) (rx tx : Nat) :
    (f.resetQueues p rx tx).Fed rxs txs := by
  have hport := port_resetQueues hp rx tx
  refine ⟨fun x hx => ?_, fun i j => ?_⟩
  · have hepoch : ((f.resetQueues p rx tx).port x.peer).epoch = (f.port x.peer).epoch := by
      rw [hport]
      split <;> rfl
    rw [hepoch]
    exact h.tx_epoch x hx
  · by_cases hi : i = p
    · refine .empty ?_ ?_ fun x hx => (h.tx_epoch x hx).1
      · rw [hport, if_pos hi, Port.rxAt_cleared]
      · rw [hport, if_pos hi, Port.inboxAt_cleared]
    · have hsame : (f.resetQueues p rx tx).port i = f.port i := by rw [hport, if_neg hi]
      exact (h.queue i j).frame (by rw [hsame]) (by rw [hsame]) (by rw [hsame])
        (fun r hr => hr.of_rxAt (by rw [hsame])) fun _ _ => Iff.rfl

/-- A new ring gets the next epoch, which no handle has yet. -/
theorem installRing {i : Inbox} {e : QueueEnd Nat} (h : f.Fed rxs txs)
    (hi : (f.port p).inbox[q]? = some i) (he : (f.port p).rx[q]? = some e) (capacity : Nat) :
    (f.installRing p q capacity).Fed rxs txs := by
  have hrx := rxAt_installRing hi he capacity
  have hinbox := inboxAt_installRing hi capacity
  have hepoch := epoch_installRing (lt_size_of_inbox hi) q capacity
  refine ⟨fun x hx => ?_, fun k j => ?_⟩
  · have hx := h.tx_epoch x hx
    rw [hepoch]
    omega
  · by_cases hkj : k = p ∧ j = q
    · have hparked : ((f.installRing p q capacity).port k).rxAt j = .parked f.rings.size := by
        rw [hrx, if_pos hkj]
      refine .of_parked (r := f.rings.size) (e := (f.port p).epoch + 1) (.inl hparked)
        (by simp [hparked]) (by rw [hinbox, if_pos hkj]) (Nat.succ_pos _)
        (by rw [hepoch, if_pos hkj.1, hkj.1]) ?_
      rintro x hx rfl rfl
      have hle := (h.tx_epoch x hx).2
      rw [hkj.1] at hle
      omega
    · have hrx := hrx k j
      have hinbox := hinbox k j
      rw [if_neg hkj] at hrx hinbox
      exact (h.queue k j).frame (by rw [hepoch]; exact Nat.le_add_right _ _) hinbox
        (by rw [hrx]) (fun r hr => hr.of_rxAt hrx) fun _ _ => Iff.rfl

theorem takeRx (h : f.Fed rxs txs) (hr : (f.port p).rx[q]? = some (.parked r)) :
    (f.updatePort p (·.setRx q .out)).Fed (⟨p, q, r⟩ ::ₘ rxs) txs := by
  have hrx := rxAt_updatePort hr .out
  have hparked := Port.rxAt_eq hr
  refine h.of_reads (fun i => ?_)
    (fun i j => read_updatePort (·.inboxAt j) f p (·.setRx q .out) (fun _ => rfl) i)
    (fun i j => ?_) fun i j s hs => hs.takeRx hr
  · rw [read_updatePort (·.epoch) f p (·.setRx q .out) fun _ => rfl]
  · rw [hrx]
    by_cases hij : i = p ∧ j = q
    · simp [hij, hparked]
    · simp [hij]

theorem putRx (h : f.Fed rxs txs) (hh : f.Handed rxs txs) {x : RxQueue} (hx : x ∈ rxs) :
    (f.putRx x).Fed (rxs.erase x) txs := by
  obtain ⟨hentry, heq⟩ := hh.putRx_eq hx
  have hout := Port.rxAt_eq hentry
  let park (y : Port) : Port := y.setRx x.queue (.parked x.ring)
  refine h.of_reads (fun i => ?_) (fun i j => ?_) (fun i j => ?_) fun i j s hs => hs.putRx hh hx
  · rw [heq, read_updatePort (·.epoch) f x.port park fun _ => rfl]
  · rw [heq]
    exact read_updatePort (·.inboxAt j) f x.port park (fun _ => rfl) i
  · rw [heq, rxAt_updatePort hentry]
    by_cases hij : i = x.port ∧ j = x.queue
    · simp [hij, hout]
    · simp [hij]

theorem of_producer {e : Nat} (h : f.Fed rxs txs) (hi : (f.port p).inboxAt q = ⟨e, some r⟩) :
    0 < e ∧ e ≤ (f.port p).epoch ∧ (f.port p).rxAt q ≠ .absent ∧ f.Reads rxs p q r ∧
      ∀ x ∈ txs, x.peer = p → x.queue = q → x.epoch ≠ e := by
  have hq := h.queue p q
  obtain ⟨hle, hblank, hzero, hparked, hfeeds, -⟩ := hq
  rw [hi] at hle hblank hzero hparked hfeeds
  have hpos : e ≠ 0 := fun he => by cases hzero he
  refine ⟨Nat.pos_of_ne_zero hpos, hle, fun habsent => hpos (hblank.mp habsent), hparked r rfl, ?_⟩
  intro x hx hpeer hqueue hsame
  cases (hfeeds x hx hpeer hqueue hsame).1

theorem takeProducer {e : Nat} (h : f.Fed rxs txs)
    (hi : (f.port p).inbox[q]? = some ⟨e, some r⟩) (k : Nat) :
    (f.updatePort p (·.setInbox q ⟨e, none⟩)).Fed rxs (⟨k, p, q, r, e⟩ ::ₘ txs) := by
  have hinbox := inboxAt_updatePort hi ⟨e, none⟩
  have hrx : ∀ i j, ((f.updatePort p (·.setInbox q ⟨e, none⟩)).port i).rxAt j =
      (f.port i).rxAt j :=
    fun i j => read_updatePort (·.rxAt j) f p (·.setInbox q ⟨e, none⟩) (fun _ => rfl) i
  have hepoch := read_updatePort (·.epoch) f p (·.setInbox q ⟨e, none⟩) fun _ => rfl
  obtain ⟨hpos, hle, hset, hreads, hothers⟩ := h.of_producer (Port.inboxAt_eq hi)
  refine ⟨fun x hx => ?_, fun i j => ?_⟩
  · rw [hepoch]
    rcases Multiset.mem_cons.mp hx with rfl | hx
    · exact ⟨hpos, hle⟩
    · exact h.tx_epoch x hx
  · by_cases hij : i = p ∧ j = q
    · obtain ⟨rfl, rfl⟩ := hij
      refine .of_taken (x := ⟨k, i, j, r, e⟩) (Multiset.mem_cons_self _ _)
        (hreads.of_rxAt (hrx i j)) (by rw [hrx]; exact hset) (by rw [hinbox, if_pos ⟨rfl, rfl⟩])
        hpos (by rw [hepoch]; exact hle) fun y hy hpeer hqueue hsame => ?_
      rcases Multiset.mem_cons.mp hy with rfl | hy
      · rfl
      · exact absurd hsame (hothers y hy hpeer hqueue)
    · have hinbox := hinbox i j
      rw [if_neg hij] at hinbox
      refine (h.queue i j).frame (hepoch i).ge hinbox (by rw [hrx])
        (fun s hs => hs.of_rxAt (hrx i j)) fun x hx => ?_
      rw [Multiset.mem_cons, or_iff_right]
      rintro rfl
      exact hij ⟨hx.1.symm, hx.2.symm⟩

/-- A handle that is given back parks its end if the inbox waits for it, and else its end is none
that any queue reads. -/
theorem putProducer_cases (f : Fabric) (x : TxQueue) :
    ((f.port x.peer).inbox[x.queue]? = some ⟨x.epoch, none⟩ ∧
      f.putProducer x = f.updatePort x.peer (·.setInbox x.queue ⟨x.epoch, some x.ring⟩)) ∨
    ((f.port x.peer).inbox[x.queue]? ≠ some ⟨x.epoch, none⟩ ∧
      f.putProducer x = f.dropProducer x.ring) := by
  unfold Fabric.putProducer
  split
  · rename_i epoch hi
    split
    · rename_i heq
      subst heq
      exact .inl ⟨hi, rfl⟩
    · rename_i hne
      refine .inr ⟨fun hsame => hne ?_, rfl⟩
      rw [hi] at hsame
      exact congrArg (·.epoch) (Option.some.inj hsame)
  · rename_i hother
    exact .inr ⟨fun hsame => hother x.epoch hsame, rfl⟩

theorem erase (h : f.Fed rxs txs) {x : TxQueue}
    (hi : (f.port x.peer).inbox[x.queue]? ≠ some ⟨x.epoch, none⟩) : f.Fed rxs (txs.erase x) := by
  refine ⟨fun y hy => h.tx_epoch y (Multiset.mem_of_mem_erase hy), fun i j => ?_⟩
  have hq := h.queue i j
  refine { hq with
    feeds := fun y hy => hq.feeds y (Multiset.mem_of_mem_erase hy)
    claimed := fun hset hnone => ?_ }
  obtain ⟨y, hy, rfl, rfl, hsame⟩ := hq.claimed hset hnone
  refine ⟨y, (Multiset.mem_erase_of_ne ?_).mpr hy, rfl, rfl, hsame⟩
  rintro rfl
  apply hi
  have hentry : (f.port y.peer).inboxAt y.queue = ⟨y.epoch, none⟩ := by rw [hsame, ← hnone]
  rw [Port.inbox_of_inboxAt, hentry]
  intro hempty
  rw [hempty] at hset
  exact hset rfl

theorem putProducer (h : f.Fed rxs txs) (hh : f.Handed rxs txs) {x : TxQueue} (hx : x ∈ txs) :
    (f.putProducer x).Fed rxs (txs.erase x) := by
  rcases putProducer_cases f x with ⟨hi, heq⟩ | ⟨hi, heq⟩
  · let park (y : Port) : Port := y.setInbox x.queue ⟨x.epoch, some x.ring⟩
    have hinbox := inboxAt_updatePort hi ⟨x.epoch, some x.ring⟩
    have hentry := Port.inboxAt_eq hi
    have hrx : ∀ i j, ((f.updatePort x.peer park).port i).rxAt j = (f.port i).rxAt j :=
      fun i j => read_updatePort (·.rxAt j) f x.peer park (fun _ => rfl) i
    have hepoch := read_updatePort (·.epoch) f x.peer park fun _ => rfl
    obtain ⟨hpos, hle⟩ := h.tx_epoch x hx
    rw [heq]
    refine ⟨fun y hy => ?_, fun i j => ?_⟩
    · rw [hepoch]
      exact h.tx_epoch y (Multiset.mem_of_mem_erase hy)
    · by_cases hij : i = x.peer ∧ j = x.queue
      · obtain ⟨rfl, rfl⟩ := hij
        have hq := h.queue x.peer x.queue
        have hreads := (hq.feeds x hx rfl rfl (by rw [hentry])).2
        refine .of_parked (hreads.of_rxAt (hrx _ _)) ?_ (by rw [hinbox, if_pos ⟨rfl, rfl⟩]) hpos
          (by rw [hepoch]; exact hle)
          fun y hy hpeer hqueue => absurd ⟨hpeer, hqueue⟩ (hh.tx_erase_of_peer hx hy)
        rw [hrx]
        intro habsent
        rw [hq.blank, hentry] at habsent
        exact Nat.ne_of_gt hpos habsent
      · have hinbox := hinbox i j
        rw [if_neg hij] at hinbox
        refine (h.queue i j).frame (hepoch i).ge hinbox (by rw [hrx])
          (fun s hs => hs.of_rxAt (hrx i j)) fun y hy => Multiset.mem_erase_of_ne ?_
        rintro rfl
        exact hij ⟨hy.1.symm, hy.2.symm⟩
  · have hports := (f.samePorts_dropProducer x.ring).port
    rw [heq]
    exact (h.erase hi).of_ports (fun i => by rw [hports]) (fun i j => by rw [hports])
      fun i j => by rw [hports]

end Fed
end Fabric
end Dataplane
