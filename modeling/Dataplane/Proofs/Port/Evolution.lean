import Dataplane.Proofs.Port.Wiring

/-! # What stays while things change

Two relations between a fabric and a later one. Queues that are not set up anew keep their epoch and
their ring, and epochs that are given out are new. Rings keep their capacity, and their frames too
as long as somebody holds an end of them.
-/
namespace Dataplane
namespace Fabric

variable {f g h : Fabric} {p q r : Nat} {rxs rxs' rxs'' : Multiset RxQueue}
  {txs : Multiset TxQueue}

/-! ## Queues -/

/-- From `f` to `g`, only the queues in `R` were set up anew. -/
structure Evolves (R : Nat → Nat → Prop) (f : Fabric) (rxs : Multiset RxQueue) (g : Fabric)
    (rxs' : Multiset RxQueue) : Prop where
  base : ∀ p q, ¬R p q → f.base ≤ p → g.base ≤ p
  epoch : ∀ p, (f.port p).epoch ≤ (g.port p).epoch
  renewed : ∀ p q, ((g.port p).inboxAt q).epoch = ((f.port p).inboxAt q).epoch ∨
    ((g.port p).inboxAt q).epoch = 0 ∨ (f.port p).epoch < ((g.port p).inboxAt q).epoch
  inbox : ∀ p q, ¬R p q → ((g.port p).inboxAt q).epoch = ((f.port p).inboxAt q).epoch
  reads : ∀ p q r, ¬R p q → f.Reads rxs p q r → g.Reads rxs' p q r

namespace Evolves

variable {R : Nat → Nat → Prop}

theorem refl (R : Nat → Nat → Prop) (f : Fabric) (rxs : Multiset RxQueue) :
    Evolves R f rxs f rxs :=
  ⟨fun _ _ _ hp => hp, fun _ => Nat.le_refl _, fun _ _ => .inl rfl, fun _ _ _ => rfl,
    fun _ _ _ _ hr => hr⟩

theorem trans (hg : Evolves R f rxs g rxs') (hh : Evolves R g rxs' h rxs'') :
    Evolves R f rxs h rxs'' where
  base p q hR hp := hh.base p q hR (hg.base p q hR hp)
  epoch p := (hg.epoch p).trans (hh.epoch p)
  renewed p q := by
    have hle := hg.epoch p
    rcases hh.renewed p q with hsame | hzero | hnew
    · rw [hsame]
      exact hg.renewed p q
    · exact .inr (.inl hzero)
    · exact .inr (.inr (by omega))
  inbox p q hR := (hh.inbox p q hR).trans (hg.inbox p q hR)
  reads p q r hR hr := hh.reads p q r hR (hg.reads p q r hR hr)

theorem mono {S : Nat → Nat → Prop} (h : Evolves R f rxs g rxs') (hRS : ∀ p q, R p q → S p q) :
    Evolves S f rxs g rxs' where
  base p q hS := h.base p q fun hR => hS (hRS p q hR)
  epoch := h.epoch
  renewed := h.renewed
  inbox p q hS := h.inbox p q fun hR => hS (hRS p q hR)
  reads p q r hS := h.reads p q r fun hR => hS (hRS p q hR)

theorem of_ports (hbase : g.base = f.base) (hepoch : ∀ i, (f.port i).epoch ≤ (g.port i).epoch)
    (hinbox : ∀ i j, ((g.port i).inboxAt j).epoch = ((f.port i).inboxAt j).epoch)
    (hrx : ∀ i j, (g.port i).rxAt j = (f.port i).rxAt j) : Evolves R f rxs g rxs where
  base _ _ _ hp := hbase ▸ hp
  epoch := hepoch
  renewed p q := .inl (hinbox p q)
  inbox p q _ := hinbox p q
  reads p q _ _ hr := hr.of_rxAt (hrx p q)

theorem of_samePorts (hfg : SamePorts f g) : Evolves R f rxs g rxs :=
  of_ports hfg.base (fun i => by rw [hfg.port]) (fun i j => by rw [hfg.port])
    fun i j => by rw [hfg.port]

theorem of_tables (hfg : SameTables f g) : Evolves R f rxs g rxs :=
  of_ports hfg.base (fun i => (hfg.epoch i).ge) (fun i j => by rw [hfg.inboxAt]) hfg.rxAt

theorem grow (hfg : Grows f g) : Evolves R f rxs g rxs :=
  of_ports hfg.base (fun i => (hfg.epoch i).ge) (fun i j => by rw [hfg.inboxAt]) hfg.rxAt

theorem updatePort (f : Fabric) (rxs : Multiset RxQueue) (p : Nat) {k : Port → Port}
    (hk : ∀ x, x.epoch ≤ (k x).epoch ∧ (k x).rx = x.rx ∧ (k x).inbox = x.inbox) :
    Evolves R f rxs (f.updatePort p k) rxs := by
  refine of_ports rfl (fun i => ?_)
    (fun i j => read_updatePort (fun x => (x.inboxAt j).epoch) f p k (fun x => ?_) i)
    fun i j => read_updatePort (·.rxAt j) f p k (fun x => ?_) i
  · rw [port_updatePort]
    split
    · exact (hk _).1
    · exact Nat.le_refl _
  · simp only [Port.inboxAt, (hk x).2.2]
  · simp only [Port.rxAt, (hk x).2.1]

theorem resetQueues (hR : ∀ q, R p q) (rx tx : Nat) :
    Evolves R f rxs (f.resetQueues p rx tx) rxs := by
  by_cases hp : p < f.ports.size
  · have hport := port_resetQueues hp rx tx
    refine ⟨fun i _ _ hi => ?_, fun i => ?_, fun i j => ?_, fun i j hij => ?_,
      fun i j s hij hs => ?_⟩
    · rw [resetQueues_eq, (samePorts_dropEnds _ _ _).base]
      exact hi
    · rw [hport]
      split <;> exact Nat.le_refl _
    · rw [hport]
      split
      · exact .inr (.inl (by simp))
      · exact .inl rfl
    · rw [hport, if_neg]
      rintro rfl
      exact hij (hR j)
    · refine hs.of_rxAt ?_
      rw [hport, if_neg]
      rintro rfl
      exact hij (hR j)
  · rw [Wired.resetQueues_of_size_le (Nat.le_of_not_lt hp)]
    exact refl R f rxs

theorem installRing {i : Inbox} {e : QueueEnd Nat} (hR : R p q)
    (hi : (f.port p).inbox[q]? = some i) (he : (f.port p).rx[q]? = some e) (capacity : Nat) :
    Evolves R f rxs (f.installRing p q capacity) rxs := by
  have hinbox := inboxAt_installRing hi capacity
  have hne : ∀ k j, ¬R k j → ¬(k = p ∧ j = q) := by
    rintro k j hkj ⟨rfl, rfl⟩
    exact hkj hR
  refine ⟨fun k _ _ hk => ?_, fun k => ?_, fun k j => ?_, fun k j hkj => ?_,
    fun k j s hkj hs => ?_⟩
  · rw [installRing_eq, (samePorts_dropEnds _ _ _).base]
    exact hk
  · rw [epoch_installRing (lt_size_of_inbox hi)]
    exact Nat.le_add_right _ _
  · rw [hinbox]
    split
    · rename_i hkj
      rw [hkj.1]
      exact .inr (.inr (Nat.lt_succ_self _))
    · exact .inl rfl
  · rw [hinbox, if_neg (hne k j hkj)]
  · exact hs.of_rxAt (by rw [rxAt_installRing hi he, if_neg (hne k j hkj)])

theorem takeRx (hr : (f.port p).rx[q]? = some (.parked r)) :
    Evolves R f rxs (f.updatePort p (·.setRx q .out)) (⟨p, q, r⟩ ::ₘ rxs) where
  base _ _ _ hp := hp
  epoch i := (read_updatePort (·.epoch) f p (·.setRx q .out) (fun _ => rfl) i).ge
  renewed i j :=
    .inl (read_updatePort (fun x => (x.inboxAt j).epoch) f p (·.setRx q .out) (fun _ => rfl) i)
  inbox i j _ :=
    read_updatePort (fun x => (x.inboxAt j).epoch) f p (·.setRx q .out) (fun _ => rfl) i
  reads _ _ _ _ hs := hs.takeRx hr

theorem putRx (hh : f.Handed rxs txs) {x : RxQueue} (hx : x ∈ rxs) :
    Evolves R f rxs (f.putRx x) (rxs.erase x) := by
  obtain ⟨-, heq⟩ := hh.putRx_eq hx
  let park (y : Port) : Port := y.setRx x.queue (.parked x.ring)
  have hread : ∀ {β : Type} (φ : Port → β), (∀ y, φ (park y) = φ y) →
      ∀ i, φ ((f.putRx x).port i) = φ (f.port i) := by
    intro β φ hφ i
    rw [heq]
    exact read_updatePort φ f x.port park hφ i
  refine ⟨fun i _ _ hi => ?_, fun i => (hread (·.epoch) (fun _ => rfl) i).ge, fun i j => ?_,
    fun i j _ => ?_, fun _ _ _ _ hs => hs.putRx hh hx⟩
  · rw [heq]
    exact hi
  · exact .inl (hread (fun y => (y.inboxAt j).epoch) (fun _ => rfl) i)
  · exact hread (fun y => (y.inboxAt j).epoch) (fun _ => rfl) i

/-- A sending end comes or goes, and the epoch stays. -/
theorem setInbox {i : Inbox} (hi : (f.port p).inbox[q]? = some i) (producer : Option Nat) :
    Evolves R f rxs (f.updatePort p (·.setInbox q ⟨i.epoch, producer⟩)) rxs := by
  let put (y : Port) : Port := y.setInbox q ⟨i.epoch, producer⟩
  refine of_ports rfl (fun k => (read_updatePort (·.epoch) f p put (fun _ => rfl) k).ge)
    (fun k j => ?_) fun k j => read_updatePort (·.rxAt j) f p put (fun _ => rfl) k
  rw [inboxAt_updatePort hi]
  split
  · rename_i hkj
    rw [hkj.1, hkj.2, Port.inboxAt_eq hi]
  · rfl

theorem putProducer (f : Fabric) (rxs : Multiset RxQueue) (x : TxQueue) :
    Evolves R f rxs (f.putProducer x) rxs := by
  rcases Fed.putProducer_cases f x with ⟨hi, heq⟩ | ⟨-, heq⟩
  · rw [heq]
    exact setInbox hi (some x.ring)
  · rw [heq]
    exact of_samePorts (f.samePorts_dropProducer x.ring)

/-- Ports of registries that are gone may be given up at any time. -/
theorem abandon (h : Evolves R f rxs g rxs') (hR : ∀ p q, p < f.base → R p q)
    (inUse : Nat → Bool) (p : Nat) : Evolves R f rxs (g.abandon inUse p) rxs' := by
  unfold Fabric.abandon
  split
  · rename_i hgone
    refine h.trans (resetQueues (fun q => ?_) 0 0)
    by_contra hpq
    have hle := h.base p q hpq (Nat.le_of_not_lt fun hlt => hpq (hR p q hlt))
    exact Nat.not_lt.mpr hle hgone.1
  · exact h

theorem renew (f : Fabric) (rxs : Multiset RxQueue) (inUse : Nat → Bool) (hR : ∀ p q, R p q) :
    Evolves R f rxs (f.renew inUse) rxs := by
  refine renew_of f (P := fun g => Evolves R f rxs g rxs) ?_
    fun g p hg => hg.abandon (fun p q _ => hR p q) inUse p
  exact ⟨fun p q hpq => absurd (hR p q) hpq, fun _ => Nat.le_refl _, fun _ _ => .inl rfl,
    fun _ _ _ => rfl, fun _ _ _ _ hr => hr⟩

theorem checked {check : Except Fault Unit} {effect : Fabric → Fabric}
    (heffect : check = .ok () → Evolves R f rxs (effect f) rxs) :
    Evolves R f rxs (f.checked check effect).2 rxs := by
  rcases checked_cases f check effect with ⟨hok, heq⟩ | ⟨e, heq⟩
  · rw [heq]
    exact heffect hok
  · rw [heq]
    exact refl R f rxs

theorem putTx (f : Fabric) (rxs : Multiset RxQueue) (x : TxQueue) :
    Evolves R f rxs (f.putTx x) rxs := by
  unfold Fabric.putTx
  dsimp only
  split
  · exact (putProducer f rxs x).trans (updatePort _ _ _ fun _ => ⟨Nat.le_refl _, rfl, rfl⟩)
  · exact putProducer f rxs x

theorem takeTx {i : Inbox} {peer : Nat} (hi : (f.port peer).inbox[q]? = some i)
    (producer : Option Nat) : Evolves R f rxs
      ((f.updatePort p (·.setTx q .out)).updatePort peer (·.setInbox q ⟨i.epoch, producer⟩))
      rxs := by
  have hout : Evolves R f rxs (f.updatePort p (·.setTx q .out)) rxs :=
    updatePort f rxs p fun _ => ⟨Nat.le_refl _, rfl, rfl⟩
  refine hout.trans (setInbox ?_ producer)
  rw [read_updatePort (·.inbox) f p (·.setTx q .out) fun _ => rfl]
  exact hi

end Evolves

/-! ## Rings -/

/-- From `f` to `g`, nothing was put on a ring or taken off it. What is lost is lost with both ends
of a ring. -/
structure Keeps (f g : Fabric) : Prop where
  size : f.rings.size ≤ g.rings.size
  capacity : ∀ r < f.rings.size, (g.ring r).capacity = (f.ring r).capacity
  hasProducer : ∀ r < f.rings.size, (g.ring r).hasProducer = true → (f.ring r).hasProducer = true
  hasConsumer : ∀ r < f.rings.size, (g.ring r).hasConsumer = true → (f.ring r).hasConsumer = true
  frames : ∀ r < f.rings.size, (g.ring r).hasProducer = true ∨ (g.ring r).hasConsumer = true →
    (g.ring r).frames = (f.ring r).frames

namespace Keeps

theorem of_rings (hrings : g.rings = f.rings) : Keeps f g := by
  have hring : ∀ r, g.ring r = f.ring r := by
    intro r
    unfold ring
    rw [hrings]
  refine ⟨(congrArg Array.size hrings).ge, fun r _ => ?_, fun r _ => ?_, fun r _ => ?_,
    fun r _ _ => ?_⟩
  · rw [hring]
  · rw [hring]
    exact id
  · rw [hring]
    exact id
  · rw [hring]

theorem refl (f : Fabric) : Keeps f f := of_rings rfl

theorem trans (hg : Keeps f g) (hh : Keeps g h) : Keeps f h where
  size := hg.size.trans hh.size
  capacity r hr := (hh.capacity r (hr.trans_le hg.size)).trans (hg.capacity r hr)
  hasProducer r hr hp := hg.hasProducer r hr (hh.hasProducer r (hr.trans_le hg.size) hp)
  hasConsumer r hr hc := hg.hasConsumer r hr (hh.hasConsumer r (hr.trans_le hg.size) hc)
  frames r hr hends := by
    have hr' := hr.trans_le hg.size
    rw [hh.frames r hr' hends]
    exact hg.frames r hr (hends.imp (hh.hasProducer r hr') (hh.hasConsumer r hr'))

theorem dropProducer (f : Fabric) (r : Nat) : Keeps f (f.dropProducer r) := by
  have hring := f.ring_dropProducer r
  refine ⟨(f.samePorts_dropProducer r).size.ge, fun i _ => ?_, fun i _ hp => ?_, fun i _ hc => ?_,
    fun i _ hends => ?_⟩
  · rw [hring]
    split <;> rfl
  · rw [hring] at hp
    split at hp
    · cases hp
    · exact hp
  · rw [hring] at hc
    split at hc <;> exact hc
  · rw [hring] at hends ⊢
    split
    · rename_i hi
      rw [if_pos hi] at hends
      rcases hends with hp | hc
      · cases hp
      · have hc' : (f.ring i).hasConsumer = true := hc
        simp [Ring.loseProducer, hc']
    · rfl

theorem dropConsumer (f : Fabric) (r : Nat) : Keeps f (f.dropConsumer r) := by
  have hring := f.ring_dropConsumer r
  refine ⟨(f.samePorts_dropConsumer r).size.ge, fun i _ => ?_, fun i _ hp => ?_, fun i _ hc => ?_,
    fun i _ hends => ?_⟩
  · rw [hring]
    split <;> rfl
  · rw [hring] at hp
    split at hp <;> exact hp
  · rw [hring] at hc
    split at hc
    · cases hc
    · exact hc
  · rw [hring] at hends ⊢
    split
    · rename_i hi
      rw [if_pos hi] at hends
      rcases hends with hp | hc
      · have hp' : (f.ring i).hasProducer = true := hp
        simp [Ring.loseConsumer, hp']
      · cases hc
    · rfl

theorem foldl {k : Fabric → Nat → Fabric} (hk : ∀ f r, Keeps f (k f r)) (f : Fabric)
    (rs : List Nat) : Keeps f (rs.foldl k f) := by
  induction rs generalizing f with
  | nil => exact refl f
  | cons r rest ih => exact (hk f r).trans (ih _)

theorem dropEnds (f : Fabric) (rx : List (QueueEnd Nat)) (inbox : List Inbox) :
    Keeps f (f.dropEnds rx inbox) :=
  (foldl dropConsumer f _).trans (foldl dropProducer _ _)

theorem updatePort (f : Fabric) (p : Nat) (k : Port → Port) : Keeps f (f.updatePort p k) :=
  of_rings rfl

theorem grow (hfg : Grows f g) : Keeps f g := of_rings hfg.rings

theorem addRing (f : Fabric) (capacity : Nat) : Keeps f (f.addRing capacity).2 := by
  have hring : ∀ r < f.rings.size, (f.addRing capacity).2.ring r = f.ring r := by
    intro r hr
    rw [ring_addRing, if_neg (Nat.ne_of_lt hr)]
  refine ⟨by simp [Fabric.addRing], fun r hr => ?_, fun r hr => ?_, fun r hr => ?_,
    fun r hr _ => ?_⟩
  · rw [hring r hr]
  · rw [hring r hr]
    exact id
  · rw [hring r hr]
    exact id
  · rw [hring r hr]

theorem resetQueues (f : Fabric) (p rx tx : Nat) : Keeps f (f.resetQueues p rx tx) :=
  (updatePort f p _).trans (dropEnds _ _ _)

theorem installRing (f : Fabric) (p q capacity : Nat) : Keeps f (f.installRing p q capacity) :=
  (addRing f capacity).trans ((updatePort _ p _).trans (dropEnds _ _ _))

theorem ring_installRing (f : Fabric) (p q capacity : Nat)
    (hconsumer : ((f.installRing p q capacity).ring f.rings.size).hasConsumer = true) :
    ((f.installRing p q capacity).ring f.rings.size).capacity = capacity ∧
      ((f.installRing p q capacity).ring f.rings.size).frames = [] := by
  have hdrop := dropEnds ((f.addRing capacity).2.updatePort p (·.withRing q f.rings.size))
    (f.port p).rx[q]?.toList (f.port p).inbox[q]?.toList
  rw [← installRing_eq] at hdrop
  have hnew : ((f.addRing capacity).2.updatePort p (·.withRing q f.rings.size)).ring
      f.rings.size = { capacity } := by
    rw [ring_updatePort, ring_addRing, if_pos rfl]
  have hlt : f.rings.size <
      ((f.addRing capacity).2.updatePort p (·.withRing q f.rings.size)).rings.size := by
    simp [Fabric.addRing]
  rw [hdrop.capacity _ hlt, hdrop.frames _ hlt (.inr hconsumer), hnew]
  exact ⟨rfl, rfl⟩

theorem putProducer (f : Fabric) (x : TxQueue) : Keeps f (f.putProducer x) := by
  rcases Fed.putProducer_cases f x with ⟨-, heq⟩ | ⟨-, heq⟩
  · rw [heq]
    exact updatePort f _ _
  · rw [heq]
    exact dropProducer f _

theorem putRx (f : Fabric) (x : RxQueue) : Keeps f (f.putRx x) := by
  unfold Fabric.putRx
  split
  · exact updatePort f _ _
  · exact dropConsumer f _

theorem putTx (f : Fabric) (x : TxQueue) : Keeps f (f.putTx x) := by
  unfold Fabric.putTx
  dsimp only
  split
  · exact (putProducer f x).trans (updatePort _ _ _)
  · exact putProducer f x

theorem abandon (f : Fabric) (inUse : Nat → Bool) (p : Nat) : Keeps f (f.abandon inUse p) := by
  unfold Fabric.abandon
  split
  · exact resetQueues f p 0 0
  · exact refl f

theorem renew (f : Fabric) (inUse : Nat → Bool) : Keeps f (f.renew inUse) :=
  renew_of f (P := Keeps f) (of_rings rfl) fun g p hg => hg.trans (abandon g inUse p)

theorem checked {f : Fabric} {check : Except Fault Unit} {effect : Fabric → Fabric}
    (heffect : Keeps f (effect f)) : Keeps f (f.checked check effect).2 := by
  rcases checked_cases f check effect with ⟨-, heq⟩ | ⟨e, heq⟩
  · rw [heq]
    exact heffect
  · rw [heq]
    exact refl f

end Keeps
end Fabric
end Dataplane
