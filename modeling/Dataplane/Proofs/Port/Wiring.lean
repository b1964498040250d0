import Dataplane.Proofs.Port.Ends
import Dataplane.Proofs.Port.Feeds
import Dataplane.Proofs.Port.Growth

/-! # Wiring

What holds of ports, rings and queue handles together, whatever is done to them: handles match table
entries, ends of rings have one owner each, every receive queue is fed from one place, and the
tables of a registered port have the lengths that were configured.
-/
namespace Dataplane

/-- The tables are as long as configured, and a started port has every queue set up. -/
structure Port.Counted (x : Port) : Prop where
  rx : x.rx.length = x.rxCount
  inbox : x.inbox.length = x.rxCount
  tx : x.tx.length = x.txCount
  ready : x.stage = .started →
    (∀ q < x.rxCount, x.rxAt q ≠ .absent) ∧ ∀ q < x.txCount, x.txAt q ≠ .absent

namespace Port.Counted

variable {x y : Port} {q : Nat}

theorem of_tables (h : x.Counted) (hxy : y.tables = { x.tables with peer := y.peer }) :
    y.Counted := by
  have hrx : y.rx = x.rx := congrArg Port.Tables.rx hxy
  have htx : y.tx = x.tx := congrArg Port.Tables.tx hxy
  have hinbox : y.inbox = x.inbox := congrArg Port.Tables.inbox hxy
  have hrxs : y.rxCount = x.rxCount := congrArg Port.Tables.rxCount hxy
  have htxs : y.txCount = x.txCount := congrArg Port.Tables.txCount hxy
  have hstage : y.stage = x.stage := congrArg Port.Tables.stage hxy
  constructor
  · rw [hrx, hrxs, h.rx]
  · rw [hinbox, hrxs, h.inbox]
  · rw [htx, htxs, h.tx]
  · unfold Port.rxAt Port.txAt
    rw [hstage, hrxs, htxs, hrx, htx]
    exact h.ready

theorem of_lengths (hrx : x.rx.length = x.rxCount) (hinbox : x.inbox.length = x.rxCount)
    (htx : x.tx.length = x.txCount) (hstage : x.stage ≠ .started) : x.Counted :=
  ⟨hrx, hinbox, htx, fun h => absurd h hstage⟩

theorem entries (h : x.Counted) (hq : q < x.rxCount) :
    (∃ i, x.inbox[q]? = some i) ∧ ∃ e, x.rx[q]? = some e :=
  ⟨⟨_, List.getElem?_eq_getElem (h.inbox.symm ▸ hq)⟩, _, List.getElem?_eq_getElem (h.rx.symm ▸ hq)⟩

theorem setRx (h : x.Counted) {e : QueueEnd Nat} (he : e ≠ .absent) : (x.setRx q e).Counted where
  rx := by
    rw [Port.setRx, List.length_set]
    exact h.rx
  inbox := h.inbox
  tx := h.tx
  ready hstage := by
    refine ⟨fun j hj => ?_, (h.ready hstage).2⟩
    rw [Port.rxAt_setRx]
    split
    · exact he
    · exact (h.ready hstage).1 j hj

theorem setTx (h : x.Counted) {e : QueueEnd Unit} (he : e ≠ .absent) : (x.setTx q e).Counted where
  rx := h.rx
  inbox := h.inbox
  tx := by
    rw [Port.setTx, List.length_set]
    exact h.tx
  ready hstage := by
    refine ⟨(h.ready hstage).1, fun j hj => ?_⟩
    rw [Port.txAt_setTx]
    split
    · exact he
    · exact (h.ready hstage).2 j hj

theorem setInbox (h : x.Counted) {i : Inbox} : (x.setInbox q i).Counted where
  rx := h.rx
  inbox := by
    rw [Port.setInbox, List.length_set]
    exact h.inbox
  tx := h.tx
  ready := h.ready

theorem withRing (h : x.Counted) (hstage : x.stage ≠ .started) (r : Nat) :
    (x.withRing q r).Counted :=
  of_lengths (by rw [Port.withRing, List.length_set]; exact h.rx)
    (by rw [Port.withRing, List.length_set]; exact h.inbox) h.tx hstage

theorem start (h : x.Counted) (hparked : x.allParked = true) :
    (∀ q < x.rxCount, x.rxAt q ≠ .absent) ∧ ∀ q < x.txCount, x.txAt q ≠ .absent := by
  unfold Port.allParked at hparked
  rw [Bool.and_eq_true, List.all_eq_true, List.all_eq_true] at hparked
  constructor
  · intro q hq hnone
    rw [← h.rx] at hq
    have hentry := hparked.1 _ (List.getElem_mem hq)
    rw [Port.rxAt_eq (List.getElem?_eq_getElem hq)] at hnone
    rw [hnone] at hentry
    cases hentry
  · intro q hq hnone
    rw [← h.tx] at hq
    have hentry := hparked.2 _ (List.getElem_mem hq)
    rw [Port.txAt_eq (List.getElem?_eq_getElem hq)] at hnone
    rw [hnone] at hentry
    cases hentry

end Port.Counted

theorem Port.not_anyOut {x : Port} (h : x.anyOut = false) (q : Nat) :
    x.rxAt q ≠ .out ∧ x.txAt q ≠ .out := by
  unfold Port.anyOut at h
  rw [Bool.or_eq_false_iff, List.any_eq_false, List.any_eq_false] at h
  constructor
  · intro hout
    have hentry := Port.rx_of_rxAt (by rw [hout]; simp)
    rw [hout] at hentry
    exact h.1 _ (List.mem_of_getElem? hentry) rfl
  · intro hout
    have hentry := Port.tx_of_txAt (by rw [hout]; simp)
    rw [hout] at hentry
    exact h.2 _ (List.mem_of_getElem? hentry) rfl

/-! ## What checks promise -/

namespace Port

variable {x : Port}

theorem requireStage_eq_ok {allowed : List Stage} {what : String}
    (h : x.requireStage allowed what = .ok ()) : x.stage ∈ allowed := by
  unfold requireStage at h
  split at h
  · assumption
  · cases h

theorem checkQueue_eq_ok {q count : Nat} (h : x.checkQueue q count = .ok ()) : q < count := by
  unfold checkQueue at h
  split at h
  · cases h
  · rename_i hq
    exact Nat.lt_of_not_le hq

theorem check_bind {a : Except Fault Unit} {k : Unit → Except Fault Unit}
    (h : (a >>= k) = .ok ()) : a = .ok () ∧ k () = .ok () := by
  cases a with
  | error e => cases h
  | ok _ => exact ⟨rfl, h⟩

theorem configurable_eq_ok {rx tx : Nat} {c : PortConfig} (h : x.configurable rx tx c = .ok ()) :
    x.stage ≠ .started := by
  have hstage := requireStage_eq_ok (check_bind h).1
  intro hstarted
  simp [hstarted] at hstage

theorem settable_eq_ok {q count descriptors : Nat} (h : x.settable q count descriptors = .ok ()) :
    x.stage ≠ .started ∧ q < count := by
  obtain ⟨hstage, hrest⟩ := check_bind h
  refine ⟨fun hstarted => ?_, checkQueue_eq_ok (check_bind hrest).1⟩
  simpa [hstarted] using requireStage_eq_ok hstage

theorem startable_eq_ok (h : x.startable = .ok ()) : x.stage ≠ .started ∧ x.allParked = true := by
  obtain ⟨hstage, hrest⟩ := check_bind h
  refine ⟨fun hstarted => ?_, ?_⟩
  · simpa [hstarted] using requireStage_eq_ok hstage
  · cases hparked : x.allParked with
    | true => rfl
    | false => simp [hparked, throw, throwThe, MonadExceptOf.throw] at hrest

theorem stoppable_eq_ok (h : x.stoppable = .ok ()) : x.anyOut = false := by
  obtain ⟨-, hrest⟩ := check_bind h
  cases hout : x.anyOut with
  | false => rfl
  | true => simp [hout, throw, throwThe, MonadExceptOf.throw] at hrest

theorem closable_eq_ok (h : x.closable = .ok ()) : x.stage ≠ .started := by
  have hstage := requireStage_eq_ok h
  intro hstarted
  simp [hstarted] at hstage

end Port

namespace Fabric

theorem checked_cases (f : Fabric) (check : Except Fault Unit) (effect : Fabric → Fabric) :
    (check = .ok () ∧ f.checked check effect = (.ok (), effect f)) ∨
      ∃ e, f.checked check effect = (.error e, f) := by
  cases check with
  | error e => exact .inr ⟨e, rfl⟩
  | ok _ => exact .inl ⟨rfl, rfl⟩

theorem checked_eq_ok {f : Fabric} {check : Except Fault Unit} {effect : Fabric → Fabric}
    (h : (f.checked check effect).1 = .ok ()) :
    check = .ok () ∧ (f.checked check effect).2 = effect f := by
  rcases checked_cases f check effect with ⟨hcheck, heq⟩ | ⟨e, heq⟩
  · rw [heq]
    exact ⟨hcheck, rfl⟩
  · rw [heq] at h
    cases h

structure Wired (f : Fabric) (rxs : Multiset RxQueue) (txs : Multiset TxQueue) : Prop where
  handed : f.Handed rxs txs
  fed : f.Fed rxs txs
  owned : f.Owned rxs txs
  counted : ∀ p, f.base ≤ p → (f.port p).Counted

namespace Wired

variable {f g : Fabric} {p q r : Nat} {rxs : Multiset RxQueue} {txs : Multiset TxQueue}

theorem of_tables (h : f.Wired rxs txs) (hfg : SameTables f g) : g.Wired rxs txs where
  handed := h.handed.of_tables hfg
  fed := h.fed.of_tables hfg
  owned := h.owned.of_tables hfg
  counted p hp := (h.counted p (hfg.base ▸ hp)).of_tables (by rw [← hfg.tables p]; rfl)

/-- Settings are no part of the wiring. -/
theorem setPort (h : f.Wired rxs txs) (p : Nat) (k : Port → Port)
    (hk : ∀ x, (k x).tables = x.tables) : (f.updatePort p k).Wired rxs txs :=
  h.of_tables (f.sameTables_updatePort p hk)

theorem counted_updatePort (h : f.Wired rxs txs) {k : Port → Port}
    (hk : (f.port p).Counted → (k (f.port p)).Counted) (i : Nat) (hi : f.base ≤ i) :
    ((f.updatePort p k).port i).Counted := by
  rw [port_updatePort]
  split
  · rename_i hip
    rw [hip.1] at hi ⊢
    exact hk (h.counted p hi)
  · exact h.counted i hi

/-! ## Registered ports -/

theorem restage (h : f.Wired rxs txs) (hidle : f.Idle p) {k : Port → Port}
    (hk : ∀ x, (k x).peer = x.peer ∧ (k x).epoch = x.epoch ∧ (k x).rx = x.rx ∧
      (k x).tx = x.tx ∧ (k x).inbox = x.inbox)
    (hcounted : (f.port p).Counted → (k (f.port p)).Counted) :
    (f.updatePort p k).Wired rxs txs where
  handed := h.handed.restage hidle fun x => ⟨(hk x).1, (hk x).2.2.1, (hk x).2.2.2.1⟩
  fed := h.fed.updatePort p fun x => ⟨(hk x).2.1.ge, (hk x).2.2.1, (hk x).2.2.2.2⟩
  owned := h.owned.updatePort p (fun x => (hk x).2.2.1) fun x => (hk x).2.2.2.2
  counted := h.counted_updatePort hcounted

/-- A port that has nothing out gets empty tables, and settings that fit them. -/
theorem renewTables (h : f.Wired rxs txs) (hp : p < f.ports.size) (hidle : f.Idle p) (rx tx : Nat)
    {k : Port → Port} (hk : ∀ x, (k x).peer = x.peer ∧ x.epoch ≤ (k x).epoch ∧ (k x).rx = x.rx ∧
      (k x).tx = x.tx ∧ (k x).inbox = x.inbox)
    (hcounts : ∀ x, (k x).rxCount = rx ∧ (k x).txCount = tx ∧ (k x).stage ≠ .started) :
    ((f.resetQueues p rx tx).updatePort p k).Wired rxs txs := by
  have hport := port_resetQueues hp rx tx
  have hidle' : (f.resetQueues p rx tx).Idle p := by
    intro q
    rw [hport, if_pos rfl]
    simp
  refine ⟨(h.handed.resetQueues hp hidle rx tx).restage hidle' fun x =>
      ⟨(hk x).1, (hk x).2.2.1, (hk x).2.2.2.1⟩,
    (h.fed.resetQueues hp rx tx).updatePort p fun x =>
      ⟨(hk x).2.1, (hk x).2.2.1, (hk x).2.2.2.2⟩,
    (h.owned.resetQueues hp rx tx).updatePort p (fun x => (hk x).2.2.1)
      fun x => (hk x).2.2.2.2, fun i hi => ?_⟩
  have hbase : f.base ≤ i := by
    rw [base_updatePort, resetQueues_eq, (samePorts_dropEnds _ _ _).base] at hi
    exact hi
  rw [port_updatePort, hport]
  split
  · rename_i hip
    rw [if_pos hip.1]
    obtain ⟨hrxs, htxs, hstage⟩ := hcounts ((f.port i).cleared rx tx)
    obtain ⟨-, -, hrx, htx, hinbox⟩ := hk ((f.port i).cleared rx tx)
    exact .of_lengths (by rw [hrx, hrxs]; simp [Port.cleared])
      (by rw [hinbox, hrxs]; simp [Port.cleared]) (by rw [htx, htxs]; simp [Port.cleared]) hstage
  · rename_i hip
    split
    · rename_i hi'
      rw [hi', resetQueues_eq, (samePorts_dropEnds _ _ _).ports, size_updatePort] at hip
      exact absurd ⟨rfl, hp⟩ hip
    · exact h.counted i hbase

theorem installRing (h : f.Wired rxs txs) (hp : f.base ≤ p) (hstage : (f.port p).stage ≠ .started)
    (hq : q < (f.port p).rxCount) (capacity : Nat) :
    (f.installRing p q capacity).Wired rxs txs := by
  have hcounted := h.counted p hp
  obtain ⟨⟨i, hi⟩, e, he⟩ := hcounted.entries hq
  have hlt := lt_size_of_inbox hi
  refine ⟨h.handed.installRing hlt (h.handed.idle hstage) q capacity,
    h.fed.installRing hi he capacity, h.owned.installRing hi he capacity, fun i hbase => ?_⟩
  rw [installRing_eq, (samePorts_dropEnds _ _ _).base] at hbase
  rw [port_installRing hlt]
  split
  · rename_i hip
    rw [hip]
    exact hcounted.withRing hstage _
  · exact h.counted i hbase

theorem setupTx (h : f.Wired rxs txs) (hp : p < f.ports.size) (hidle : f.Idle p) :
    (f.updatePort p (·.setTx q (.parked ()))).Wired rxs txs where
  handed := h.handed.setupTx hp hidle q
  fed := h.fed.updatePort p fun _ => ⟨Nat.le_refl _, rfl, rfl⟩
  owned := h.owned.updatePort p (fun _ => rfl) fun _ => rfl
  counted := h.counted_updatePort fun hc => hc.setTx (by simp)

/-! ## Handles -/

theorem takeRx (h : f.Wired rxs txs) (hstage : (f.port p).stage = .started)
    (hr : (f.port p).rx[q]? = some (.parked r)) :
    (f.updatePort p (·.setRx q .out)).Wired (⟨p, q, r⟩ ::ₘ rxs) txs where
  handed := h.handed.takeRx hstage hr
  fed := h.fed.takeRx hr
  owned := h.owned.takeRx hr
  counted := h.counted_updatePort fun hp => hp.setRx (by simp)

theorem takeTx {e : Nat} (h : f.Wired rxs txs) (hstage : (f.port p).stage = .started)
    (ht : (f.port p).tx[q]? = some (.parked ()))
    (hi : (f.port (f.port p).peer).inbox[q]? = some ⟨e, some r⟩) :
    ((f.updatePort p (·.setTx q .out)).updatePort (f.port p).peer
      (·.setInbox q ⟨e, none⟩)).Wired rxs (⟨p, (f.port p).peer, q, r, e⟩ ::ₘ txs) := by
  have hi' : ((f.updatePort p (·.setTx q .out)).port (f.port p).peer).inbox[q]? =
      some ⟨e, some r⟩ := by
    rw [read_updatePort (·.inbox) f p (·.setTx q .out) fun _ => rfl]
    exact hi
  have hfed : (f.updatePort p (·.setTx q .out)).Fed rxs txs :=
    h.fed.updatePort p fun _ => ⟨Nat.le_refl _, rfl, rfl⟩
  have howned : (f.updatePort p (·.setTx q .out)).Owned rxs txs :=
    h.owned.updatePort p (fun _ => rfl) fun _ => rfl
  refine ⟨h.handed.takeTx hstage ht e, hfed.takeProducer hi' p, howned.takeTx hi',
    fun i hbase => ?_⟩
  rw [port_updatePort]
  have hset := h.counted_updatePort (p := p) (k := (·.setTx q .out)) fun hp => hp.setTx (by simp)
  split
  · exact (hset i hbase).setInbox
  · exact hset i hbase

theorem putRx (h : f.Wired rxs txs) {x : RxQueue} (hx : x ∈ rxs) :
    (f.putRx x).Wired (rxs.erase x) txs := by
  obtain ⟨hentry, heq⟩ := h.handed.putRx_eq hx
  refine ⟨h.handed.putRx hx, h.fed.putRx h.handed hx, ?_, ?_⟩
  · rw [heq]
    exact h.owned.parkRx hx hentry
  · rw [heq]
    exact h.counted_updatePort fun hp => hp.setRx (by simp)

theorem putTx (h : f.Wired rxs txs) {x : TxQueue} (hx : x ∈ txs) :
    (f.putTx x).Wired rxs (txs.erase x) := by
  obtain ⟨-, heq⟩ := h.handed.putTx_eq hx
  refine ⟨h.handed.putTx hx, ?_, ?_, ?_⟩
  · rw [heq]
    exact (h.fed.putProducer h.handed hx).updatePort _ fun _ => ⟨Nat.le_refl _, rfl, rfl⟩
  · rw [heq]
    exact (h.owned.putProducer hx).updatePort _ (fun _ => rfl) fun _ => rfl
  · rw [heq]
    intro i hbase
    have hput : ∀ i, f.base ≤ i → ((f.putProducer x).port i).Counted := by
      intro i hi
      rcases Fed.putProducer_cases f x with ⟨-, hcase⟩ | ⟨-, hcase⟩
      · rw [hcase]
        exact h.counted_updatePort (fun hp => hp.setInbox) i hi
      · rw [hcase, (samePorts_dropProducer f _).port]
        exact h.counted i hi
    have hbase' : f.base ≤ i := by
      rw [base_updatePort] at hbase
      rcases Fed.putProducer_cases f x with ⟨-, hcase⟩ | ⟨-, hcase⟩
      · rwa [hcase] at hbase
      · rwa [hcase, (samePorts_dropProducer f _).base] at hbase
    rw [port_updatePort]
    split
    · exact (hput i hbase').setTx (by simp)
    · exact hput i hbase'

/-! ## The registry -/

theorem resetQueues_of_size_le (h : f.ports.size ≤ p) (rx tx : Nat) :
    f.resetQueues p rx tx = f := by
  rw [resetQueues_eq, updatePort_of_size_le f h, f.port_of_size_le h]
  rfl

/-- Ports of a registry that is gone lose their tables when no handle refers to them. -/
theorem abandon (h : f.Wired rxs txs) {inUse : Nat → Bool} (hidle : inUse p = false → f.Idle p) :
    (f.abandon inUse p).Wired rxs txs := by
  unfold Fabric.abandon
  split
  · rename_i hgone
    by_cases hp : p < f.ports.size
    · have hunused : inUse p = false := by simpa using hgone.2
      refine ⟨h.handed.resetQueues hp (hidle hunused) 0 0, h.fed.resetQueues hp 0 0,
        h.owned.resetQueues hp 0 0, fun i hi => ?_⟩
      rw [resetQueues_eq, (samePorts_dropEnds _ _ _).base] at hi
      have hne : i ≠ p := by
        rintro rfl
        exact Nat.not_lt.mpr hi hgone.1
      rw [port_resetQueues hp, if_neg hne]
      exact h.counted i hi
    · rw [resetQueues_of_size_le (Nat.le_of_not_lt hp)]
      exact h
  · exact h

/-- An empty registry begins after all ports. -/
theorem rebase (h : f.Wired rxs txs) : Wired { f with base := f.ports.size } rxs txs where
  handed := h.handed.of_reads rfl (fun _ => rfl) (fun _ _ => rfl) (fun _ _ => rfl) fun _ => .inl rfl
  fed := h.fed.of_ports (fun _ => Nat.le_refl _) (fun _ _ => rfl) fun _ _ => rfl
  owned := h.owned.of_parked rfl rfl fun _ => ⟨rfl, rfl⟩
  counted p hp := by
    have hblank : port { f with base := f.ports.size } p = default := f.port_of_size_le hp
    rw [hblank]
    exact .of_lengths rfl rfl rfl (by decide)

theorem grow (h : f.Wired rxs txs) (hfg : Grows f g) : g.Wired rxs txs where
  handed := by
    refine ⟨fun i hi => ?_, fun i j hout => ?_, fun i j => ?_, fun i j => ?_, fun x hx => ?_⟩
    · by_cases hi' : i < f.ports.size
      · obtain ⟨hlt, hback⟩ := h.handed.peer i hi'
        rw [hfg.old hi', hfg.old hlt]
        exact ⟨hlt.trans_le hfg.size_le, hback⟩
      · exact hfg.peer i (Nat.le_of_not_lt hi') hi
    · rw [hfg.rxAt, hfg.txAt] at hout
      rw [hfg.stage]
      exact h.handed.busy i j hout
    · rw [hfg.rxAt, h.handed.rx_out]
    · rw [hfg.txAt, h.handed.tx_out]
    · rw [hfg.old (h.handed.port_lt hx), h.handed.tx_peer x hx]
  fed := h.fed.of_ports (fun i => (hfg.epoch i).ge) hfg.inboxAt hfg.rxAt
  owned := h.owned.of_parked hfg.parkedProducers hfg.parkedConsumers
    fun r => by rw [hfg.ring]; exact ⟨rfl, rfl⟩
  counted i hi := (h.counted i (hfg.base ▸ hi)).of_tables (hfg.tables i)

end Wired
end Fabric
end Dataplane
