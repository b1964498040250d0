import Dataplane.Proofs.Port.Parts

/-! # Queue tables

The entries of a port's tables, seen as functions of the number of the queue: where a table has no
entry, nothing is set up. Most operations leave all tables alone, and those that fail leave
everything alone.
-/
namespace Dataplane

theorem getD_set {α : Type} (l : List α) (i : Nat) (a : α) (j : Nat) (d : α) :
    (l.set i a).getD j d = if j = i ∧ j < l.length then a else l.getD j d := by
  rw [List.getD_eq_getElem?_getD, List.getD_eq_getElem?_getD, List.getElem?_set]
  by_cases hij : i = j
  · subst j
    by_cases hi : i < l.length
    · simp [hi]
    · simp [hi]
  · simp [hij, Ne.symm hij]

namespace Port

def rxAt (x : Port) (q : Nat) : QueueEnd Nat := x.rx.getD q .absent

def txAt (x : Port) (q : Nat) : QueueEnd Unit := x.tx.getD q .absent

def inboxAt (x : Port) (q : Nat) : Inbox := x.inbox.getD q {}

variable (x : Port) (q : Nat)

theorem rxAt_eq {x : Port} {q : Nat} {e : QueueEnd Nat} (h : x.rx[q]? = some e) :
    x.rxAt q = e := by
  rw [rxAt, List.getD_eq_getElem?_getD, h]
  rfl

theorem txAt_eq {x : Port} {q : Nat} {e : QueueEnd Unit} (h : x.tx[q]? = some e) :
    x.txAt q = e := by
  rw [txAt, List.getD_eq_getElem?_getD, h]
  rfl

theorem inboxAt_eq {x : Port} {q : Nat} {i : Inbox} (h : x.inbox[q]? = some i) :
    x.inboxAt q = i := by
  rw [inboxAt, List.getD_eq_getElem?_getD, h]
  rfl

theorem rx_of_rxAt {x : Port} {q : Nat} (h : x.rxAt q ≠ .absent) : x.rx[q]? = some (x.rxAt q) := by
  rw [rxAt, List.getD_eq_getElem?_getD] at h ⊢
  cases hq : x.rx[q]? with
  | none => simp [hq] at h
  | some e => rfl

theorem tx_of_txAt {x : Port} {q : Nat} (h : x.txAt q ≠ .absent) : x.tx[q]? = some (x.txAt q) := by
  rw [txAt, List.getD_eq_getElem?_getD] at h ⊢
  cases hq : x.tx[q]? with
  | none => simp [hq] at h
  | some e => rfl

theorem inbox_of_inboxAt {x : Port} {q : Nat} (h : x.inboxAt q ≠ {}) :
    x.inbox[q]? = some (x.inboxAt q) := by
  rw [inboxAt, List.getD_eq_getElem?_getD] at h ⊢
  cases hq : x.inbox[q]? with
  | none => simp [hq] at h
  | some e => rfl

@[simp] theorem rxAt_cleared (rx tx : Nat) : (x.cleared rx tx).rxAt q = .absent := by
  rw [rxAt, cleared, List.getD_eq_getElem?_getD, List.getElem?_replicate]
  split <;> rfl

@[simp] theorem txAt_cleared (rx tx : Nat) : (x.cleared rx tx).txAt q = .absent := by
  rw [txAt, cleared, List.getD_eq_getElem?_getD, List.getElem?_replicate]
  split <;> rfl

@[simp] theorem inboxAt_cleared (rx tx : Nat) : (x.cleared rx tx).inboxAt q = {} := by
  rw [inboxAt, cleared, List.getD_eq_getElem?_getD, List.getElem?_replicate]
  split <;> rfl

variable (r : Nat) (j : Nat)

theorem rxAt_setRx (e : QueueEnd Nat) :
    (x.setRx q e).rxAt j = if j = q ∧ j < x.rx.length then e else x.rxAt j :=
  getD_set _ _ _ _ _

theorem txAt_setTx (e : QueueEnd Unit) :
    (x.setTx q e).txAt j = if j = q ∧ j < x.tx.length then e else x.txAt j :=
  getD_set _ _ _ _ _

theorem inboxAt_setInbox (i : Inbox) :
    (x.setInbox q i).inboxAt j = if j = q ∧ j < x.inbox.length then i else x.inboxAt j :=
  getD_set _ _ _ _ _

theorem rxAt_withRing : (x.withRing q r).rxAt j =
    if j = q ∧ j < x.rx.length then .parked r else x.rxAt j :=
  getD_set _ _ _ _ _

theorem inboxAt_withRing : (x.withRing q r).inboxAt j =
    if j = q ∧ j < x.inbox.length then ⟨x.epoch + 1, some r⟩ else x.inboxAt j :=
  getD_set _ _ _ _ _

@[simp] theorem txAt_withRing : (x.withRing q r).txAt j = x.txAt j := rfl
@[simp] theorem txAt_setRx (e : QueueEnd Nat) : (x.setRx q e).txAt j = x.txAt j := rfl
@[simp] theorem inboxAt_setRx (e : QueueEnd Nat) : (x.setRx q e).inboxAt j = x.inboxAt j := rfl
@[simp] theorem rxAt_setTx (e : QueueEnd Unit) : (x.setTx q e).rxAt j = x.rxAt j := rfl
@[simp] theorem inboxAt_setTx (e : QueueEnd Unit) : (x.setTx q e).inboxAt j = x.inboxAt j := rfl
@[simp] theorem rxAt_setInbox (i : Inbox) : (x.setInbox q i).rxAt j = x.rxAt j := rfl
@[simp] theorem txAt_setInbox (i : Inbox) : (x.setInbox q i).txAt j = x.txAt j := rfl

/-- What wiring depends on. -/
structure Tables where
  peer : Nat
  stage : Stage
  rxCount : Nat
  txCount : Nat
  epoch : Nat
  rx : List (QueueEnd Nat)
  tx : List (QueueEnd Unit)
  inbox : List Inbox

def tables : Tables :=
  ⟨x.peer, x.stage, x.rxCount, x.txCount, x.epoch, x.rx, x.tx, x.inbox⟩

end Port

namespace Fabric

variable {f g : Fabric}

/-- Fabrics with the same tables and the same ends of rings. -/
structure SameTables (f g : Fabric) : Prop where
  base : g.base = f.base
  size : g.ports.size = f.ports.size
  tables : ∀ p, (g.port p).tables = (f.port p).tables
  hasProducer : ∀ r, (g.ring r).hasProducer = (f.ring r).hasProducer
  hasConsumer : ∀ r, (g.ring r).hasConsumer = (f.ring r).hasConsumer

namespace SameTables

theorem refl (f : Fabric) : SameTables f f :=
  ⟨rfl, rfl, fun _ => rfl, fun _ => rfl, fun _ => rfl⟩

theorem trans {h : Fabric} (hg : SameTables f g) (hh : SameTables g h) : SameTables f h where
  base := hh.base.trans hg.base
  size := hh.size.trans hg.size
  tables p := (hh.tables p).trans (hg.tables p)
  hasProducer r := (hh.hasProducer r).trans (hg.hasProducer r)
  hasConsumer r := (hh.hasConsumer r).trans (hg.hasConsumer r)

variable (h : SameTables f g) (p : Nat)
include h

theorem peer : (g.port p).peer = (f.port p).peer := congrArg Port.Tables.peer (h.tables p)
theorem stage : (g.port p).stage = (f.port p).stage := congrArg Port.Tables.stage (h.tables p)
theorem epoch : (g.port p).epoch = (f.port p).epoch := congrArg Port.Tables.epoch (h.tables p)
theorem rx : (g.port p).rx = (f.port p).rx := congrArg Port.Tables.rx (h.tables p)
theorem tx : (g.port p).tx = (f.port p).tx := congrArg Port.Tables.tx (h.tables p)
theorem inbox : (g.port p).inbox = (f.port p).inbox := congrArg Port.Tables.inbox (h.tables p)

theorem rxAt (q : Nat) : (g.port p).rxAt q = (f.port p).rxAt q := by
  rw [Port.rxAt, h.rx, Port.rxAt]

theorem txAt (q : Nat) : (g.port p).txAt q = (f.port p).txAt q := by
  rw [Port.txAt, h.tx, Port.txAt]

theorem inboxAt (q : Nat) : (g.port p).inboxAt q = (f.port p).inboxAt q := by
  rw [Port.inboxAt, h.inbox, Port.inboxAt]

end SameTables

theorem sameTables_updateStore (f : Fabric) (g : Store → Store) : SameTables f (f.updateStore g) :=
  ⟨rfl, rfl, fun _ => rfl, fun _ => rfl, fun _ => rfl⟩

theorem sameTables_updatePort (f : Fabric) (p : Nat) {g : Port → Port}
    (hg : ∀ x, (g x).tables = x.tables) : SameTables f (f.updatePort p g) where
  base := rfl
  size := f.size_updatePort p g
  tables q := by
    rw [port_updatePort]
    split
    · exact hg _
    · rfl
  hasProducer _ := rfl
  hasConsumer _ := rfl

theorem sameTables_setFrames (f : Fabric) (r : Nat) {frames : Ring → List Buffer}
    (hframes : f.rings.size ≤ r → frames default = []) :
    SameTables f (f.updateRing r fun x => { x with frames := frames x }) := by
  have hring := f.ring_updateRing r (g := fun x => { x with frames := frames x }) fun hr => by
    simp only [hframes hr]
    rfl
  refine ⟨rfl, rfl, fun _ => rfl, fun i => ?_, fun i => ?_⟩
  · rw [hring]
    split <;> rfl
  · rw [hring]
    split <;> rfl

theorem sameTables_rxBurst (f : Fabric) (x : RxQueue) (max : Nat) :
    SameTables f (f.rxBurst x max).2 := by
  unfold rxBurst
  dsimp only
  split
  · exact .refl f
  · refine ((f.sameTables_setFrames x.ring fun hr => ?_).trans
      (sameTables_updateStore _ _)).trans (sameTables_updatePort _ x.port fun _ => rfl)
    rw [f.ring_of_size_le hr]
    cases max <;> rfl

theorem sameTables_txBurst (f : Fabric) (x : TxQueue) (bufs : List Buffer) :
    SameTables f (f.txBurst x bufs).2.2 := by
  unfold txBurst
  dsimp only
  split
  · exact .refl f
  · split
    · exact (sameTables_updateStore f _).trans (sameTables_updatePort _ x.port fun _ => rfl)
    · refine (f.sameTables_setFrames x.ring fun hr => ?_).trans
        (sameTables_updatePort _ x.port fun _ => rfl)
      have hvacancy : f.freeSlots x = 0 := by
        rw [freeSlots, f.ring_of_size_le hr]
        rfl
      rw [hvacancy, Nat.min_zero]
      rfl

/-! ## What changes of tables do -/

/-- What a change of a port leaves alone in that port it leaves alone in all. -/
theorem read_updatePort {β : Type} (φ : Port → β) (f : Fabric) (p : Nat) (g : Port → Port)
    (hg : ∀ x, φ (g x) = φ x) (i : Nat) : φ ((f.updatePort p g).port i) = φ (f.port i) := by
  rw [port_updatePort]
  split
  · exact hg _
  · rfl

theorem port_updatePort_of_lt {p : Nat} (hp : p < f.ports.size) (g : Port → Port) (i : Nat) :
    (f.updatePort p g).port i = if i = p then g (f.port i) else f.port i := by
  rw [port_updatePort]
  by_cases hi : i = p
  · rw [if_pos ⟨hi, hi ▸ hp⟩, if_pos hi]
  · rw [if_neg fun h => hi h.1, if_neg hi]

theorem port_resetQueues {p : Nat} (hp : p < f.ports.size) (rx tx i : Nat) :
    (f.resetQueues p rx tx).port i =
      if i = p then (f.port i).cleared rx tx else f.port i := by
  rw [resetQueues_eq, (samePorts_dropEnds _ _ _).port, port_updatePort_of_lt hp]

theorem port_installRing {p : Nat} (hp : p < f.ports.size) (q capacity i : Nat) :
    (f.installRing p q capacity).port i =
      if i = p then (f.port i).withRing q f.rings.size else f.port i := by
  rw [installRing_eq, (samePorts_dropEnds _ _ _).port]
  exact port_updatePort_of_lt (f := (f.addRing capacity).2) hp _ i

theorem lt_size_of_rx {p q : Nat} {e : QueueEnd Nat} (he : (f.port p).rx[q]? = some e) :
    p < f.ports.size := by
  by_contra hp
  rw [f.port_of_size_le (Nat.le_of_not_lt hp)] at he
  simp [default] at he

theorem lt_size_of_tx {p q : Nat} {e : QueueEnd Unit} (he : (f.port p).tx[q]? = some e) :
    p < f.ports.size := by
  by_contra hp
  rw [f.port_of_size_le (Nat.le_of_not_lt hp)] at he
  simp [default] at he

theorem lt_size_of_inbox {p q : Nat} {i : Inbox} (hi : (f.port p).inbox[q]? = some i) :
    p < f.ports.size := by
  by_contra hp
  rw [f.port_of_size_le (Nat.le_of_not_lt hp)] at hi
  simp [default] at hi

theorem rxAt_updatePort {p q : Nat} {d : QueueEnd Nat} (hd : (f.port p).rx[q]? = some d)
    (e : QueueEnd Nat) (i j : Nat) : ((f.updatePort p (·.setRx q e)).port i).rxAt j =
      if i = p ∧ j = q then e else (f.port i).rxAt j := by
  obtain ⟨hq, -⟩ := List.getElem?_eq_some_iff.mp hd
  rw [port_updatePort_of_lt (lt_size_of_rx hd)]
  by_cases hi : i = p
  · subst i
    rw [if_pos rfl, Port.rxAt_setRx]
    by_cases hj : j = q
    · simp [hj, hq]
    · simp [hj]
  · simp [hi]

theorem txAt_updatePort {p q : Nat} {d : QueueEnd Unit} (hd : (f.port p).tx[q]? = some d)
    (e : QueueEnd Unit) (i j : Nat) : ((f.updatePort p (·.setTx q e)).port i).txAt j =
      if i = p ∧ j = q then e else (f.port i).txAt j := by
  obtain ⟨hq, -⟩ := List.getElem?_eq_some_iff.mp hd
  rw [port_updatePort_of_lt (lt_size_of_tx hd)]
  by_cases hi : i = p
  · subst i
    rw [if_pos rfl, Port.txAt_setTx]
    by_cases hj : j = q
    · simp [hj, hq]
    · simp [hj]
  · simp [hi]

theorem inboxAt_updatePort {p q : Nat} {d : Inbox} (hd : (f.port p).inbox[q]? = some d)
    (e : Inbox) (i j : Nat) : ((f.updatePort p (·.setInbox q e)).port i).inboxAt j =
      if i = p ∧ j = q then e else (f.port i).inboxAt j := by
  obtain ⟨hq, -⟩ := List.getElem?_eq_some_iff.mp hd
  rw [port_updatePort_of_lt (lt_size_of_inbox hd)]
  by_cases hi : i = p
  · subst i
    rw [if_pos rfl, Port.inboxAt_setInbox]
    by_cases hj : j = q
    · simp [hj, hq]
    · simp [hj]
  · simp [hi]

/-! ## What taking a handle does -/

theorem takeable_eq_ok {x : Port} {q count : Nat} (h : takeable x q count = .ok ()) :
    x.stage = .started ∧ q < count := by
  unfold takeable Port.requireStage Port.checkQueue at h
  split at h
  · rename_i hstage
    split at h
    · cases h
    · rename_i hq
      exact ⟨by simpa using hstage, Nat.lt_of_not_le hq⟩
  · cases h

theorem takeable_of {x : Port} {q count : Nat} (hstage : x.stage = .started) (hq : q < count) :
    takeable x q count = .ok () := by
  simp [takeable, Port.requireStage, Port.checkQueue, hstage, Nat.not_le.mpr hq, bind, Except.bind]

/-- A receive handle is given out with the end that was parked, or nothing happens. -/
theorem takeRx_cases (f : Fabric) (p q : Nat) :
    (∃ r, (f.port p).stage = .started ∧ (f.port p).rx[q]? = some (.parked r) ∧
      f.takeRx p q = (.ok ⟨p, q, r⟩, f.updatePort p (·.setRx q .out))) ∨
    ∃ e, f.takeRx p q = (.error e, f) := by
  unfold takeRx
  cases ht : takeable (f.port p) q (f.port p).rxCount with
  | error e => exact .inr ⟨e, rfl⟩
  | ok _ =>
    dsimp only
    split
    · rename_i r hr
      exact .inl ⟨r, (takeable_eq_ok ht).1, hr, rfl⟩
    · exact .inr ⟨_, rfl⟩

theorem updatePort_updatePort (f : Fabric) (p : Nat) (g k : Port → Port) :
    (f.updatePort p g).updatePort p k = f.updatePort p fun x => k (g x) := by
  simp only [updatePort, modify_modify]

theorem updatePort_eq_self (f : Fabric) (p : Nat) {g : Port → Port}
    (hg : g (f.port p) = f.port p) : f.updatePort p g = f := by
  by_cases hp : f.ports.size ≤ p
  · exact f.updatePort_of_size_le hp g
  · have hentry : f.ports[p]? = some (f.port p) := by simp [port, Nat.lt_of_not_le hp]
    have hports : f.ports.modify p g = f.ports := by
      apply Array.ext_getElem?
      intro i
      rw [Array.getElem?_modify]
      split
      · rename_i hi
        rw [← hi, hentry]
        exact congrArg some hg
      · rfl
    rw [updatePort, hports]

/-- Nothing but the entry of the queue can stop a started port. -/
theorem takeRx_of_parked {f : Fabric} {p q r : Nat} (hstage : (f.port p).stage = .started)
    (hq : q < (f.port p).rxCount) (hparked : (f.port p).rx[q]? = some (.parked r)) :
    f.takeRx p q = (.ok ⟨p, q, r⟩, f.updatePort p (·.setRx q .out)) := by
  simp only [takeRx, takeable_of hstage hq, hparked]

/-- Nothing but the entry of the queue and the inbox of the peer can stop a started port. -/
theorem takeTx_of_parked {f : Fabric} {p q e r : Nat} (hstage : (f.port p).stage = .started)
    (hq : q < (f.port p).txCount) (hparked : (f.port p).tx[q]? = some (.parked ()))
    (hi : (f.port (f.port p).peer).inbox[q]? = some ⟨e, some r⟩) :
    f.takeTx p q = (.ok ⟨p, (f.port p).peer, q, r, e⟩,
      (f.updatePort p (·.setTx q .out)).updatePort (f.port p).peer (·.setInbox q ⟨e, none⟩)) := by
  have hinbox := read_updatePort (·.inbox) f p (·.setTx q .out) (fun _ => rfl) (f.port p).peer
  rw [← hinbox] at hi
  simp only [takeTx, takeable_of hstage hq, hparked, hi]

theorem takeTx_cases (f : Fabric) (p q : Nat) :
    (∃ e r, (f.port p).stage = .started ∧ (f.port p).tx[q]? = some (.parked ()) ∧
      (f.port (f.port p).peer).inbox[q]? = some ⟨e, some r⟩ ∧
      f.takeTx p q = (.ok ⟨p, (f.port p).peer, q, r, e⟩,
        (f.updatePort p (·.setTx q .out)).updatePort (f.port p).peer
          (·.setInbox q ⟨e, none⟩))) ∨
    ∃ e, f.takeTx p q = (.error e, f) := by
  unfold takeTx
  cases ht : takeable (f.port p) q (f.port p).txCount with
  | error e => exact .inr ⟨e, rfl⟩
  | ok _ =>
    have hinbox : ((f.updatePort p (·.setTx q .out)).port (f.port p).peer).inbox =
        (f.port (f.port p).peer).inbox := by
      rw [port_updatePort]
      split <;> rfl
    dsimp only
    split
    · rename_i hparked
      rw [hinbox]
      split
      · rename_i e r hi
        exact .inl ⟨e, r, (takeable_eq_ok ht).1, hparked, hi, rfl⟩
      · refine .inr ⟨_, Prod.ext rfl ?_⟩
        dsimp only
        rw [updatePort_updatePort]
        apply updatePort_eq_self
        have hback : (f.port p).tx.set q (.parked ()) = (f.port p).tx := by
          apply List.ext_getElem?
          intro i
          rw [List.getElem?_set']
          split
          · rename_i hi
            rw [← hi, hparked]
            rfl
          · rfl
        simp only [Port.setTx, List.set_set, hback]
    · exact .inr ⟨_, rfl⟩

end Fabric
end Dataplane
