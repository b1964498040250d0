import Dataplane.Proofs.Port.Evolution
import Dataplane.Proofs.Port.Readings

/-! # The ages of ports

What goes with the stage of a port, whatever is done to it. Queues are counted from the first
configuration until the port is closed, tables are never longer than the most queues that a port may
have, and the link is up only while the port is started. What is closed stays closed.
-/
namespace Dataplane

namespace Port

structure Staged (x : Port) : Prop where
  link : x.linkUp = true → x.stage = .started
  blank : x.stage = .unconfigured ∨ x.stage = .closed → x.rxCount = 0 ∧ x.txCount = 0
  rxCount : x.rxCount ≤ maxQueues
  txCount : x.txCount ≤ maxQueues
  rx : x.rx.length ≤ maxQueues
  tx : x.tx.length ≤ maxQueues

/-- What stages depend on. -/
structure Life where
  stage : Stage
  linkUp : Bool
  rxCount : Nat
  txCount : Nat
  rxLength : Nat
  txLength : Nat

def life (x : Port) : Life :=
  ⟨x.stage, x.linkUp, x.rxCount, x.txCount, x.rx.length, x.tx.length⟩

@[simp] theorem life_setRx (x : Port) (q : Nat) (e : QueueEnd Nat) :
    (x.setRx q e).life = x.life := by
  simp [life, setRx]

@[simp] theorem life_setTx (x : Port) (q : Nat) (e : QueueEnd Unit) :
    (x.setTx q e).life = x.life := by
  simp [life, setTx]

@[simp] theorem life_setInbox (x : Port) (q : Nat) (i : Inbox) :
    (x.setInbox q i).life = x.life := rfl

@[simp] theorem life_withRing (x : Port) (q r : Nat) : (x.withRing q r).life = x.life := by
  simp [life, withRing]

theorem lasting_life : Lasting life := ⟨life_setRx, life_setTx, life_setInbox, fun _ _ => rfl⟩

variable {x y z : Port}

theorem Staged.of_life (h : x.Staged) (hxy : y.life = x.life) : y.Staged := by
  have hstage : y.stage = x.stage := congrArg Life.stage hxy
  have hlink : y.linkUp = x.linkUp := congrArg Life.linkUp hxy
  have hrxs : y.rxCount = x.rxCount := congrArg Life.rxCount hxy
  have htxs : y.txCount = x.txCount := congrArg Life.txCount hxy
  have hrx : y.rx.length = x.rx.length := congrArg Life.rxLength hxy
  have htx : y.tx.length = x.tx.length := congrArg Life.txLength hxy
  constructor
  · rw [hlink, hstage]
    exact h.link
  · rw [hstage, hrxs, htxs]
    exact h.blank
  · rw [hrxs]
    exact h.rxCount
  · rw [htxs]
    exact h.txCount
  · rw [hrx]
    exact h.rx
  · rw [htx]
    exact h.tx

theorem Staged.linkUp_eq_false (h : x.Staged) (hstage : x.stage ≠ .started) :
    x.linkUp = false := by
  cases hup : x.linkUp with
  | true => exact absurd (h.link hup) hstage
  | false => rfl

/-- From `x` to `y`, a port may go on. -/
structure Ages (x y : Port) : Prop where
  closed : x.stage = .closed → y.stage = .closed
  staged : x.Staged → y.Staged

namespace Ages

theorem of_life (hxy : y.life = x.life) : x.Ages y where
  closed hstage := (congrArg Life.stage hxy).trans hstage
  staged h := h.of_life hxy

theorem refl (x : Port) : x.Ages x := of_life rfl

theorem trans (hy : x.Ages y) (hz : y.Ages z) : x.Ages z where
  closed hstage := hz.closed (hy.closed hstage)
  staged h := hz.staged (hy.staged h)

/-- Empty tables of the permitted lengths. -/
theorem cleared (x : Port) {rx tx : Nat} (hrx : rx ≤ maxQueues) (htx : tx ≤ maxQueues) :
    x.Ages (x.cleared rx tx) where
  closed hstage := hstage
  staged h := { h with
    rx := by simpa [Port.cleared] using hrx
    tx := by simpa [Port.cleared] using htx }

/-- A port gets other numbers of queues when it is not started, or none for good. -/
theorem recount (hstarted : x.stage ≠ .started)
    (hclosed : x.stage = .closed → y.stage = .closed) (hlink : y.linkUp = x.linkUp)
    (hcounts : y.rxCount ≤ maxQueues ∧ y.txCount ≤ maxQueues)
    (hblank : y.stage = .unconfigured ∨ y.stage = .closed → y.rxCount = 0 ∧ y.txCount = 0)
    (hlengths : y.rx.length ≤ maxQueues ∧ y.tx.length ≤ maxQueues) : x.Ages y where
  closed := hclosed
  staged h := by
    refine ⟨fun hup => ?_, hblank, hcounts.1, hcounts.2, hlengths.1, hlengths.2⟩
    rw [hlink, h.linkUp_eq_false hstarted] at hup
    cases hup

/-- A port with queues goes on with the same queues, and its link is up only if it is started. -/
theorem restage (hclosed : x.stage ≠ .closed)
    (hstage : y.stage ≠ .unconfigured ∧ y.stage ≠ .closed)
    (hlink : y.linkUp = true → y.stage = .started)
    (hcounts : y.rxCount = x.rxCount ∧ y.txCount = x.txCount)
    (htables : y.rx = x.rx ∧ y.tx = x.tx) : x.Ages y where
  closed hstage := absurd hstage hclosed
  staged h := by
    refine ⟨hlink, fun hblank => absurd hblank (not_or.mpr hstage), ?_, ?_, ?_, ?_⟩
    · exact hcounts.1 ▸ h.rxCount
    · exact hcounts.2 ▸ h.txCount
    · exact htables.1 ▸ h.rx
    · exact htables.2 ▸ h.tx

end Ages

/-! ## What checks promise about stages -/

theorem configurable_stage {rx tx : Nat} {c : PortConfig}
    (h : x.configurable rx tx c = .ok ()) : x.stage ≠ .closed := by
  have hstage := requireStage_eq_ok (check_bind h).1
  intro hclosed
  simp [hclosed] at hstage

theorem configurable_counts {rx tx : Nat} {c : PortConfig}
    (h : x.configurable rx tx c = .ok ()) : rx ≤ maxQueues ∧ tx ≤ maxQueues := by
  have hcounts := (check_bind (check_bind h).2).1
  unfold checkQueueCounts at hcounts
  split at hcounts
  · cases hcounts
  · omega

theorem startable_stage (h : x.startable = .ok ()) : x.stage ≠ .closed := by
  have hstage := requireStage_eq_ok (check_bind h).1
  intro hclosed
  simp [hclosed] at hstage

theorem stoppable_stage (h : x.stoppable = .ok ()) : x.stage = .started := by
  simpa using requireStage_eq_ok (check_bind h).1

theorem linkable_stage (h : x.linkable = .ok ()) : x.stage = .started := by
  simpa using requireStage_eq_ok h

end Port

namespace Fabric

variable {f g h : Fabric} {p : Nat}

def Ages (f g : Fabric) : Prop := ∀ p, (f.port p).Ages (g.port p)

namespace Ages

theorem refl (f : Fabric) : Ages f f := fun p => .refl (f.port p)

theorem trans (hg : Ages f g) (hh : Ages g h) : Ages f h := fun p => (hg p).trans (hh p)

theorem of_life (hfg : Agree Port.life f g) : Ages f g := fun p => .of_life (hfg p)

theorem of_samePorts (hfg : SamePorts f g) : Ages f g := of_life fun p => by rw [hfg.port]

theorem updatePort (f : Fabric) (p : Nat) {k : Port → Port}
    (hk : (f.port p).Ages (k (f.port p))) : Ages f (f.updatePort p k) := by
  intro i
  rw [port_updatePort]
  split
  · rename_i hi
    rw [hi.1]
    exact hk
  · exact .refl _

/-- Nothing of what stages depend on changes. -/
theorem setPort (f : Fabric) (p : Nat) {k : Port → Port} (hk : ∀ x, (k x).life = x.life) :
    Ages f (f.updatePort p k) := updatePort f p (.of_life (hk _))

theorem resetQueues (f : Fabric) (p : Nat) {rx tx : Nat} (hrx : rx ≤ maxQueues)
    (htx : tx ≤ maxQueues) : Ages f (f.resetQueues p rx tx) :=
  (updatePort f p (.cleared _ hrx htx)).trans (of_samePorts (samePorts_dropEnds _ _ _))

theorem renewTables {rx tx : Nat} {k : Port → Port}
    (hk : (f.port p).Ages (k ((f.port p).cleared rx tx))) :
    Ages f ((f.resetQueues p rx tx).updatePort p k) := by
  by_cases hp : p < f.ports.size
  · intro i
    have hsize : (f.resetQueues p rx tx).ports.size = f.ports.size := by
      rw [resetQueues_eq, (samePorts_dropEnds _ _ _).ports, size_updatePort]
    rw [port_updatePort_of_lt (hsize ▸ hp), port_resetQueues hp]
    split
    · rename_i hi
      rw [hi]
      exact hk
    · exact .refl _
  · rw [Wired.resetQueues_of_size_le (Nat.le_of_not_lt hp),
      updatePort_of_size_le f (Nat.le_of_not_lt hp)]
    exact refl f

theorem installRing (f : Fabric) (p q capacity : Nat) : Ages f (f.installRing p q capacity) := by
  have hset := setPort (f.addRing capacity).2 p (k := (·.withRing q f.rings.size))
    fun x => x.life_withRing q _
  exact hset.trans (of_samePorts (samePorts_dropEnds _ _ _))

theorem putRx (f : Fabric) (x : RxQueue) : Ages f (f.putRx x) :=
  of_life (.putRx Port.lasting_life f x)

theorem putTx (f : Fabric) (x : TxQueue) : Ages f (f.putTx x) :=
  of_life (.putTx Port.lasting_life f x)

theorem abandon (f : Fabric) (inUse : Nat → Bool) (p : Nat) : Ages f (f.abandon inUse p) := by
  unfold Fabric.abandon
  split
  · exact resetQueues f p (Nat.zero_le _) (Nat.zero_le _)
  · exact refl f

theorem renew (f : Fabric) (inUse : Nat → Bool) : Ages f (f.renew inUse) :=
  renew_of f (P := Ages f) (of_life fun _ => rfl) fun g p hg => hg.trans (abandon g inUse p)

theorem checked {check : Except Fault Unit} {effect : Fabric → Fabric}
    (heffect : check = .ok () → Ages f (effect f)) : Ages f (f.checked check effect).2 := by
  rcases checked_cases f check effect with ⟨hok, heq⟩ | ⟨e, heq⟩
  · rw [heq]
    exact heffect hok
  · rw [heq]
    exact refl f

end Ages
end Fabric
end Dataplane
