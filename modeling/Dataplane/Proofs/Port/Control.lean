import Dataplane.Proofs.Client.Basic
import Dataplane.Proofs.Port.Ages
import Dataplane.Proofs.Port.Readings

/-! # What controls queues

A queue is paused while its bit is set in the mask of its direction. A port has no more queues than
a mask has bits, so that a bit is set and cleared for one queue alone. Masks are cleared when a port
is configured or started, and changed by calls that pause and resume; nothing else touches them.
-/
namespace Dataplane

/-! ## Bits -/

theorem toBitVec_queueBit {q : Nat} (hq : q < maxQueues) :
    (queueBit q).toBitVec = BitVec.twoPow 64 q := by
  unfold maxQueues at hq
  have hshift : ((UInt64.ofNat q).toBitVec % 64).toNat = q := by
    rw [UInt64.toBitVec_ofNat', BitVec.toNat_umod, BitVec.toNat_ofNat,
      Nat.mod_eq_of_lt (hq.trans (by decide))]
    exact Nat.mod_eq_of_lt hq
  rw [queueBit, UInt64.toBitVec_shiftLeft, BitVec.shiftLeft_eq', hshift]
  rfl

theorem isPaused_eq {q : Nat} (hq : q < maxQueues) (mask : UInt64) :
    isPaused mask q = mask.toBitVec.getLsbD q := by
  have hbit : BitVec.twoPow 64 q ≠ 0#64 := by
    intro hzero
    have hclear := congrArg (BitVec.getLsbD · q) hzero
    unfold maxQueues at hq
    simp [hq] at hclear
  rw [Bool.eq_iff_iff, isPaused, bne_iff_ne, ne_eq, ← UInt64.toBitVec_inj, UInt64.toBitVec_and,
    toBitVec_queueBit hq, BitVec.and_twoPow]
  split
  · rename_i hset
    exact iff_of_true hbit hset
  · rename_i hset
    exact iff_of_false (fun hne => hne rfl) hset

theorem isPaused_pauseBit {j q : Nat} (hj : j < maxQueues) (hq : q < maxQueues) (mask : UInt64)
    (paused : Bool) :
    isPaused (Fabric.pauseBit mask j paused) q = if q = j then paused else isPaused mask q := by
  have hbit : (BitVec.twoPow 64 j).getLsbD q = decide (q = j) := by
    unfold maxQueues at hj
    rw [BitVec.getLsbD_twoPow, decide_eq_true hj, Bool.true_and]
    exact decide_eq_decide.mpr eq_comm
  rw [isPaused_eq hq, isPaused_eq hq, Fabric.pauseBit]
  cases paused with
  | true =>
    rw [if_pos rfl, UInt64.toBitVec_or, toBitVec_queueBit hj, BitVec.getLsbD_or, hbit]
    split <;> simp_all
  | false =>
    rw [if_neg Bool.false_ne_true, UInt64.toBitVec_and, UInt64.toBitVec_not, toBitVec_queueBit hj,
      BitVec.getLsbD_and, BitVec.getLsbD_not, hbit]
    split <;> simp_all [maxQueues]

/-! ## Masks -/

/-- A direction of queues. -/
inductive Side
  | rx
  | tx
  deriving DecidableEq

/-- What the calls that control queues read and write. -/
structure Control where
  stage : Stage
  rxPaused : UInt64
  txPaused : UInt64

def Port.control (x : Port) : Control := ⟨x.stage, x.rxPaused, x.txPaused⟩

namespace Side

def count (x : Port) : Side → Nat
  | rx => x.rxCount
  | tx => x.txCount

def pause (q : Nat) (paused : Bool) : Side → PortCall
  | rx => .pauseRx q paused
  | tx => .pauseTx q paused

theorem pause_inj {d e : Side} {j q : Nat} {v u : Bool} (h : d.pause q v = e.pause j u) :
    (d = e ∧ q = j) ∧ v = u := by
  cases d <;> cases e <;> cases h <;> exact ⟨⟨rfl, rfl⟩, rfl⟩

theorem pause_ne_start (d : Side) (q : Nat) (v : Bool) : d.pause q v ≠ .start := by
  cases d <;> nofun

end Side

theorem Port.Staged.count_le {x : Port} (h : x.Staged) (d : Side) : d.count x ≤ maxQueues := by
  cases d with
  | rx => exact h.rxCount
  | tx => exact h.txCount

namespace Control

def mask (c : Control) : Side → UInt64
  | .rx => c.rxPaused
  | .tx => c.txPaused

/-- What a call leaves if it succeeds. -/
def after (c : Control) : PortCall → Control
  | .configure _ _ _ => ⟨.configured, 0, 0⟩
  | .start => ⟨.started, 0, 0⟩
  | .stop => { c with stage := .stopped }
  | .close => { c with stage := .closed }
  | .pauseRx q paused => { c with rxPaused := Fabric.pauseBit c.rxPaused q paused }
  | .pauseTx q paused => { c with txPaused := Fabric.pauseBit c.txPaused q paused }
  | _ => c

/-- Calls that do not touch masks leave them as they are. -/
theorem after_cases (c : Control) (k : PortCall) :
    k = .start ∨ (∃ rx tx config, k = .configure rx tx config) ∨
      (∃ (d : Side) (j : Nat) (paused : Bool), k = d.pause j paused) ∨
        ∀ d, (c.after k).mask d = c.mask d := by
  cases k with
  | start => exact .inl rfl
  | configure rx tx config => exact .inr (.inl ⟨rx, tx, config, rfl⟩)
  | pauseRx j paused => exact .inr (.inr (.inl ⟨.rx, j, paused, rfl⟩))
  | pauseTx j paused => exact .inr (.inr (.inl ⟨.tx, j, paused, rfl⟩))
  | _ => exact .inr (.inr (.inr fun d => by cases d <;> rfl))

theorem started_of_after {c : Control} {k : PortCall} (h : (c.after k).stage = .started) :
    k = .start ∨ c.stage = .started := by
  cases k with
  | start => exact .inl rfl
  | configure rx tx config => cases h
  | stop => cases h
  | close => cases h
  | _ => exact .inr h

theorem isPaused_start (c : Control) (d : Side) (q : Nat) :
    isPaused ((c.after .start).mask d) q = false := by
  cases d <;> simp [after, mask, isPaused]

theorem isPaused_pause (c : Control) (d e : Side) {j q : Nat} (hj : j < maxQueues)
    (hq : q < maxQueues) (paused : Bool) : isPaused ((c.after (e.pause j paused)).mask d) q =
      if d = e ∧ q = j then paused else isPaused (c.mask d) q := by
  cases d <;> cases e <;>
    simp [after, mask, Side.pause, isPaused_pauseBit hj hq]

end Control

namespace Fabric

variable {f : Fabric} {p : Nat}

/-! ## Calls on ports -/

theorem of_pause_ok {d : Side} {j : Nat} {paused : Bool}
    (h : ((d.pause j paused).run f p).1 = .ok ()) :
    (f.port p).stage = .started ∧ j < d.count (f.port p) := by
  cases d with
  | rx =>
    obtain ⟨hstage, hqueue⟩ := Port.check_bind (checked_eq_ok h).1
    exact ⟨by simpa using Port.requireStage_eq_ok hstage, Port.checkQueue_eq_ok hqueue⟩
  | tx =>
    obtain ⟨hstage, hqueue⟩ := Port.check_bind (checked_eq_ok h).1
    exact ⟨by simpa using Port.requireStage_eq_ok hstage, Port.checkQueue_eq_ok hqueue⟩

theorem control_updatePort (hp : p < f.ports.size) {k : Port → Port} {c : PortCall}
    (hk : ∀ x, (k x).control = x.control.after c) (i : Nat) : ((f.updatePort p k).port i).control =
      if i = p then (f.port i).control.after c else (f.port i).control := by
  rw [port_updatePort_of_lt hp]
  split
  · exact hk _
  · rfl

theorem control_renewTables (hp : p < f.ports.size) {rx tx : Nat} {k : Port → Port} {c : PortCall}
    (hk : ∀ x, (k x).control = x.control.after c) (i : Nat) :
    (((f.resetQueues p rx tx).updatePort p k).port i).control =
      if i = p then (f.port i).control.after c else (f.port i).control := by
  have hsize : (f.resetQueues p rx tx).ports.size = f.ports.size := by
    rw [resetQueues_eq, (samePorts_dropEnds _ _ _).ports, size_updatePort]
  have hsame : ((f.resetQueues p rx tx).port i).control = (f.port i).control := by
    rw [port_resetQueues hp]
    split <;> rfl
  rw [control_updatePort (hsize ▸ hp) hk, hsame]

theorem control_checked {check : Except Fault Unit} {effect : Fabric → Fabric} {c : PortCall}
    (hok : (f.checked check effect).1 = .ok ()) (heffect : ∀ i, ((effect f).port i).control =
      if i = p then (f.port i).control.after c else (f.port i).control) (i : Nat) :
    ((f.checked check effect).2.port i).control =
      if i = p then (f.port i).control.after c else (f.port i).control := by
  rw [(checked_eq_ok hok).2]
  exact heffect i

/-- What a call that succeeds does to the controls of its port, and that those of others stay. -/
theorem control_runPort (hp : p < f.ports.size) {c : PortCall} (hok : (c.run f p).1 = .ok ()) :
    ∀ i, ((c.run f p).2.port i).control =
      if i = p then (f.port i).control.after c else (f.port i).control := by
  cases c with
  | configure rx tx config => exact control_checked hok (control_renewTables hp fun _ => rfl)
  | close => exact control_checked hok (control_renewTables hp fun _ => rfl)
  | setupRx q descriptors =>
    apply control_checked hok
    intro i
    rw [port_installRing hp]
    split <;> rfl
  | setPromiscuous on => exact control_updatePort hp fun _ => rfl
  | resetStats => exact control_updatePort hp fun _ => rfl
  | _ => exact control_checked hok (control_updatePort hp fun _ => rfl)

/-! ## All else -/

theorem lasting_control : Port.Lasting Port.control :=
  ⟨fun _ _ _ => rfl, fun _ _ _ => rfl, fun _ _ _ => rfl, fun _ _ => rfl⟩

theorem control_abandon (f : Fabric) (inUse : Nat → Bool) (p : Nat) :
    Agree Port.control f (f.abandon inUse p) := by
  unfold abandon
  split
  · have hcleared : Agree Port.control f (f.updatePort p (·.cleared 0 0)) :=
      .updatePort f p fun _ => rfl
    rw [resetQueues_eq]
    exact hcleared.trans (.of_samePorts (samePorts_dropEnds _ _ _))
  · exact .refl f

end Fabric
end Dataplane
