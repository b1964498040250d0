import Mathlib.Data.List.Induction
import Dataplane.Proofs.Client.Conservation
import Dataplane.Proofs.Client.Stages
import Dataplane.Proofs.Port.Control

/-! # Paused queues

Whether a queue of a started port is paused is settled by the last call that was made for it in its
direction since the port was started, and by nothing else: starting a port resumes all its queues,
and calls that fail, calls for other queues, and handles that come and go leave every bit alone. A
receive queue that is paused keeps its frames in their order, and those that come go behind them.
-/
namespace Dataplane
namespace Client

open Fabric

variable {w w' : Client} {p q : Nat} {d : Side}

/-! ## One call -/

/-- A call on a port that can be made and succeeds. -/
def Succeeds (w : Client) (p : Nat) (k : PortCall) : Prop :=
  w.IsPort p ∧ (k.run w.fabric p).1 = .ok ()

def Paused (w : Client) (p : Nat) (d : Side) (q : Nat) : Prop :=
  isPaused ((w.fabric.port p).control.mask d) q = true

instance (p : Nat) (d : Side) (q : Nat) : Decidable (w.Paused p d q) :=
  inferInstanceAs (Decidable (_ = true))

theorem SameWiring.control (h : SameWiring w w') : Agree Port.control w.fabric w'.fabric := by
  obtain ⟨⟨s, hfabric⟩, -, -⟩ := h
  rw [hfabric]
  exact fun _ => rfl

theorem control_callRegistry (w : Client) (c : RegistryCall) :
    Agree Port.control w.fabric (w.callRegistry c).fabric := by
  cases c with
  | createPair a b macA macB => exact .createPair (fun _ _ _ _ => rfl) _ a b macA macB
  | createLoopback name mac => exact .createLoopback (fun _ _ _ _ => rfl) _ name mac
  | renew =>
    refine renew_of w.fabric (P := Agree Port.control w.fabric) (fun _ => rfl) ?_
    intro g p hg
    exact hg.trans (control_abandon g _ p)

theorem control_callQueue (w : Client) (c : QueueCall) :
    Agree Port.control w.fabric (w.callQueue c).fabric := by
  refine w.callQueue_of (P := fun w' => Agree Port.control w.fabric w'.fabric) (.refl _)
    (fun p q _ => ?_) (fun p q _ => ?_) (fun x _ => ?_) (fun x _ => ?_)
    (fun x _ max => .rxBurst lasting_control _ x max)
    (fun x _ bs _ => .txBurst lasting_control _ x bs) c
  · rw [takeRx_fabric]
    exact .takeRx lasting_control _ p q
  · rw [takeTx_fabric]
    exact .takeTx lasting_control _ p q
  · exact (Agree.putRx lasting_control _ x).trans (control_abandon _ _ _)
  · rw [putTx_fabric]
    exact ((Agree.putTx lasting_control _ x).trans (control_abandon _ _ _)).trans
      (control_abandon _ _ _)

theorem control_call (w : Client) (c : Call) (p : Nat) :
    (∃ k, c = .port p k ∧ w.Succeeds p k ∧
      ((w.call c).fabric.port p).control = (w.fabric.port p).control.after k) ∨
    ((∀ k, c = .port p k → ¬w.Succeeds p k) ∧
      ((w.call c).fabric.port p).control = (w.fabric.port p).control) := by
  cases c with
  | pool c => exact .inr ⟨nofun, (SameWiring.callPool w c).control p⟩
  | cache c => exact .inr ⟨nofun, (SameWiring.callCache w c).control p⟩
  | buffer b e => exact .inr ⟨nofun, (SameWiring.callBuffer w b e).control p⟩
  | registry c => exact .inr ⟨nofun, w.control_callRegistry c p⟩
  | queue c => exact .inr ⟨nofun, w.control_callQueue c p⟩
  | port i k =>
    by_cases hsucceeds : w.Succeeds i k
    · have hcall : (w.call (.port i k)).fabric = (k.run w.fabric i).2 := by
        simp only [call, callPort, if_pos hsucceeds.1]
      have hcontrol := control_runPort hsucceeds.1.2 hsucceeds.2 p
      rw [← hcall] at hcontrol
      by_cases hi : p = i
      · subst i
        rw [if_pos rfl] at hcontrol
        exact .inl ⟨k, rfl, hsucceeds, hcontrol⟩
      · rw [if_neg hi] at hcontrol
        exact .inr ⟨fun _ heq => absurd (Call.port.inj heq).1.symm hi, hcontrol⟩
    · right
      constructor
      · rintro k' heq
        cases heq
        exact hsucceeds
      · rw [(w.call_port_cases i k).resolve_left hsucceeds]

/-- A call that succeeds and says whether a queue is paused. -/
def Decides (w : Client) (p : Nat) (d : Side) (q : Nat) (c : Call) : Prop :=
  ∃ k, c = .port p k ∧ w.Succeeds p k ∧ (k = .start ∨ ∃ paused, k = d.pause q paused)

theorem Succeeds.decides_iff {k : PortCall} (h : w.Succeeds p k) :
    w.Decides p d q (.port p k) ↔ k = .start ∨ ∃ paused, k = d.pause q paused := by
  constructor
  · rintro ⟨k', heq, -, hk⟩
    cases heq
    exact hk
  · exact fun hk => ⟨k, rfl, h, hk⟩

theorem Succeeds.queue_lt (h : w.Staged) {paused : Bool} (hk : w.Succeeds p (d.pause q paused)) :
    q < maxQueues :=
  (of_pause_ok hk.2).2.trans_le ((h p).count_le d)

theorem started_of_call {c : Call} (hc : ¬w.Decides p d q c)
    (hstarted : ((w.call c).fabric.port p).stage = .started) :
    (w.fabric.port p).stage = .started := by
  rcases w.control_call c p with ⟨k, rfl, hsucceeds, hcontrol⟩ | ⟨-, hcontrol⟩
  · have hstage : ((w.fabric.port p).control.after k).stage = .started :=
      (congrArg Control.stage hcontrol).symm.trans hstarted
    rcases Control.started_of_after hstage with rfl | hbefore
    · exact absurd (hsucceeds.decides_iff.mpr (.inl rfl)) hc
    · exact hbefore
  · exact (congrArg Control.stage hcontrol).symm.trans hstarted

theorem Staged.paused_undecided (h : w.Staged) (hstarted : (w.fabric.port p).stage = .started)
    (hq : q < maxQueues) {c : Call} (hc : ¬w.Decides p d q c) :
    (w.call c).Paused p d q ↔ w.Paused p d q := by
  unfold Paused
  rcases w.control_call c p with ⟨k, rfl, hsucceeds, hcontrol⟩ | ⟨-, hcontrol⟩
  · rw [hcontrol]
    rw [hsucceeds.decides_iff, not_or] at hc
    rcases Control.after_cases (w.fabric.port p).control k with
      rfl | ⟨rx, tx, config, rfl⟩ | ⟨e, j, paused, rfl⟩ | hsame
    · exact absurd rfl hc.1
    · exact absurd hstarted (Port.configurable_eq_ok (checked_eq_ok hsucceeds.2).1)
    · rw [Control.isPaused_pause _ d e (hsucceeds.queue_lt h) hq, if_neg]
      rintro ⟨rfl, rfl⟩
      exact hc.2 ⟨paused, rfl⟩
    · rw [hsame]
  · rw [hcontrol]

theorem Staged.paused_decided (h : w.Staged) {c : Call} (hc : w.Decides p d q c) :
    (w.call c).Paused p d q ↔ c = .port p (d.pause q true) := by
  unfold Paused
  rcases w.control_call c p with ⟨k, rfl, hsucceeds, hcontrol⟩ | ⟨hnone, -⟩
  · rw [hcontrol]
    rcases hsucceeds.decides_iff.mp hc with rfl | ⟨paused, rfl⟩
    · rw [Control.isPaused_start]
      constructor
      · nofun
      · intro heq
        exact absurd (Call.port.inj heq).2.symm (d.pause_ne_start q true)
    · have hq := hsucceeds.queue_lt h
      rw [Control.isPaused_pause _ d d hq hq, if_pos ⟨rfl, rfl⟩]
      constructor
      · rintro rfl
        rfl
      · intro heq
        exact (Side.pause_inj (Call.port.inj heq).2).2
  · obtain ⟨k, heq, hsucceeds, -⟩ := hc
    exact absurd hsucceeds (hnone k heq)

theorem Staged.resumed (h : w.Staged) (hstart : w.Succeeds p .start) :
    ¬(w.call (.port p .start)).Paused p d q := by
  rw [h.paused_decided (hstart.decides_iff.mpr (.inl rfl))]
  intro heq
  exact d.pause_ne_start q true (Call.port.inj heq).2.symm

/-! ## Histories -/

/-- The queue was paused by a call after which none has decided anew. -/
def PausedSince (calls : List Call) (p : Nat) (d : Side) (q : Nat) : Prop :=
  ∃ before after, calls = before ++ .port p (d.pause q true) :: after ∧
    (run before).Succeeds p (d.pause q true) ∧
    ∀ mid c rest, after = mid ++ c :: rest →
      ¬(run (before ++ .port p (d.pause q true) :: mid)).Decides p d q c

theorem pausedSince_append {calls : List Call} {c : Call} : PausedSince (calls ++ [c]) p d q ↔
    ((run calls).Decides p d q c ∧ c = .port p (d.pause q true)) ∨
      (¬(run calls).Decides p d q c ∧ PausedSince calls p d q) := by
  constructor
  · rintro ⟨before, after, heq, hpause, hafter⟩
    rcases List.eq_nil_or_concat' after with rfl | ⟨after, e, rfl⟩
    · obtain ⟨rfl, hc⟩ := List.append_inj' heq rfl
      cases hc
      exact .inl ⟨hpause.decides_iff.mpr (.inr ⟨true, rfl⟩), rfl⟩
    · rw [← List.cons_append, ← List.append_assoc] at heq
      obtain ⟨rfl, hc⟩ := List.append_inj' heq rfl
      cases hc
      right
      constructor
      · exact hafter after c [] rfl
      · refine ⟨before, after, rfl, hpause, ?_⟩
        intro mid e rest hmid
        apply hafter mid e (rest ++ [c])
        rw [hmid, List.append_assoc]
        rfl
  · rintro (⟨⟨k, heq, hpause, -⟩, rfl⟩ | ⟨hc, before, after, rfl, hpause, hafter⟩)
    · cases heq
      refine ⟨calls, [], rfl, hpause, ?_⟩
      intro mid e rest hmid
      exact absurd hmid.symm (List.append_ne_nil_of_right_ne_nil _ (List.cons_ne_nil e rest))
    · refine ⟨before, after ++ [c], ?_, hpause, ?_⟩
      · rw [List.append_assoc]
        rfl
      · intro mid e rest hmid
        rcases List.eq_nil_or_concat' rest with rfl | ⟨rest, last, rfl⟩
        · obtain ⟨rfl, he⟩ := List.append_inj' hmid rfl
          cases he
          exact hc
        · rw [← List.cons_append, ← List.append_assoc] at hmid
          obtain ⟨rfl, -⟩ := List.append_inj' hmid rfl
          exact hafter mid e rest rfl

theorem paused_iff_pausedSince (calls : List Call) (hq : q < maxQueues)
    (hstarted : ((run calls).fabric.port p).stage = .started) :
    (run calls).Paused p d q ↔ PausedSince calls p d q := by
  induction calls using List.reverseRecOn with
  | nil => cases hstarted
  | append_singleton calls c ih =>
    have hrun : run (calls ++ [c]) = (run calls).call c := run_append calls [c]
    rw [hrun] at hstarted
    rw [hrun, pausedSince_append]
    by_cases hc : (run calls).Decides p d q c
    · rw [(staged_run calls).paused_decided hc]
      simp only [hc, true_and, not_true_eq_false, false_and, or_false]
    · have hbefore := started_of_call hc hstarted
      rw [(staged_run calls).paused_undecided hbefore hq hc, ih hbefore]
      simp only [hc, false_and, not_false_eq_true, true_and, false_or]

/-! ## Frames that wait -/

structure Waits (w : Client) (p q : Nat) : Prop where
  port : w.IsPort p
  started : (w.fabric.port p).stage = .started
  paused : w.Paused p .rx q

/-- Over a run of calls, nothing came off ring `r` behind receive queue `q` of port `p`, and nobody
got a frame from it. -/
structure Backlog (w : Client) (p q r : Nat) (calls : List Call) : Prop where
  reads : (w.callAll calls).fabric.Reads (w.callAll calls).rxs p q r
  epoch : (((w.callAll calls).fabric.port p).inboxAt q).epoch =
    ((w.fabric.port p).inboxAt q).epoch
  frames : ((w.callAll calls).fabric.ring r).frames = (w.fabric.ring r).frames ++
    gather (pushed p q ((w.fabric.port p).inboxAt q).epoch) w calls
  received : gather (received p q) w calls = []

theorem popped_of_paused (hpaused : w.Paused p .rx q) (c : Call) : w.popped p q c = [] := by
  cases c with
  | queue c =>
    cases c with
    | receive x max =>
      simp only [popped]
      split
      · rename_i hx
        obtain ⟨-, rfl, rfl⟩ := hx
        exact if_pos hpaused
      · rfl
    | _ => rfl
  | _ => rfl

theorem Waits.call {r e : Nat} (hwaits : w.Waits p q) (h : w.Wired)
    (hr : w.fabric.Reads w.rxs p q r) (he : ((w.fabric.port p).inboxAt q).epoch = e) {c : Call}
    (hport : (w.call c).IsPort p) : (w.call c).fabric.Reads (w.call c).rxs p q r ∧
      (((w.call c).fabric.port p).inboxAt q).epoch = e ∧
      ((w.call c).fabric.ring r).frames = (w.fabric.ring r).frames ++ w.pushed p q e c := by
  by_cases hrenews : c.Renews p q
  · -- Such a call fails while the port is started, and the registry is not renewed.
    cases c with
    | port i k =>
      obtain ⟨rfl, hk⟩ := hrenews
      rcases w.call_port_cases i k with hsucceeds | hsame
      · exact absurd hwaits.started (not_started_of_renews hk hsucceeds.2)
      · rw [hsame]
        exact ⟨hr, he, (List.append_nil _).symm⟩
    | registry c =>
      cases c with
      | renew =>
        obtain ⟨hbase, hlt⟩ := hport
        rw [base_call_renew] at hbase
        exact absurd hlt (Nat.not_lt.mpr hbase)
      | _ => exact absurd hrenews id
    | _ => exact absurd hrenews id
  · have hevolves := evolves_call h c
    have hfree : ¬w.Renewed c p q := not_or.mpr ⟨Nat.not_lt.mpr hwaits.port.1, hrenews⟩
    have hreads := hevolves.reads p q r hfree hr
    have hframes := (moves_call h hr he c hreads).frames
    rw [popped_of_paused hwaits.paused, List.nil_append] at hframes
    exact ⟨hreads, (hevolves.inbox p q hfree).trans he, hframes.symm⟩

theorem backlog {r : Nat} (h : w.Wired) (hr : w.fabric.Reads w.rxs p q r) {calls : List Call}
    (hwaits : ∀ mid, mid <+: calls → (w.callAll mid).Waits p q) : w.Backlog p q r calls := by
  induction calls generalizing w with
  | nil => exact ⟨hr, rfl, (List.append_nil _).symm, rfl⟩
  | cons c rest ih =>
    have hfirst : w.Waits p q := hwaits [] List.nil_prefix
    have hsecond : (w.call c).Waits p q := hwaits [c] (by simp)
    obtain ⟨hreads, hepoch, hframes⟩ := hfirst.call h hr rfl hsecond.port
    have hrest := ih (h.call c) hreads fun mid hmid =>
      hwaits (c :: mid) (List.cons_prefix_cons.mpr ⟨rfl, hmid⟩)
    refine ⟨hrest.reads, hrest.epoch.trans hepoch, ?_, ?_⟩
    · have hlater := hrest.frames
      rw [hepoch, hframes, List.append_assoc] at hlater
      exact hlater
    · have hnone : w.received p q c = [] := by
        rw [received_eq_passed, passed, popped_of_paused hfirst.paused]
        rfl
      rw [gather, hnone]
      exact hrest.received

/-! ## What settles whether a queue is paused -/

/-- How queue `q` of a started port `p` gets paused and resumed, after `calls`. -/
structure Governed (calls : List Call) (p : Nat) (d : Side) (q : Nat) : Prop where
  paused_iff : (run calls).Paused p d q ↔ PausedSince calls p d q
  /-- Only calls for the queue change anything, in that direction. -/
  changed : ∀ c, ¬(((run calls).call c).Paused p d q ↔ (run calls).Paused p d q) →
    ∃ paused, c = .port p (d.pause q paused) ∧ (run calls).Succeeds p (d.pause q paused)
  /-- Starting the port again resumes all its queues. -/
  resumed : ∀ more, (run (calls ++ more)).Succeeds p .start →
    ∀ e j, ¬(run (calls ++ more ++ [.port p .start])).Paused p e j
  /-- Frames wait on the ring of a receive queue for as long as it is paused. -/
  kept : d = .rx → ∀ more, (∀ mid, mid <+: more → (run (calls ++ mid)).Waits p q) →
    ∃ r, (run calls).fabric.Reads (run calls).rxs p q r ∧ (run calls).Backlog p q r more

/-- Whatever was called, a queue of a started port is paused if and only if it was paused by a call
since when none has resumed it and the port was not started again. -/
theorem governed_run (calls : List Call) {p : Nat}
    (hstarted : ((run calls).fabric.port p).stage = .started) (d : Side) {q : Nat}
    (hq : q < d.count ((run calls).fabric.port p)) : Governed calls p d q := by
  have hstaged := staged_run calls
  have hbound := hq.trans_le ((hstaged p).count_le d)
  refine
    { paused_iff := paused_iff_pausedSince calls hbound hstarted
      changed := ?_
      resumed := ?_
      kept := ?_ }
  · intro c hchanged
    by_cases hc : (run calls).Decides p d q c
    · obtain ⟨k, rfl, hsucceeds, rfl | ⟨paused, rfl⟩⟩ := hc
      · exact absurd hstarted (Port.startable_eq_ok (checked_eq_ok hsucceeds.2).1).1
      · exact ⟨paused, rfl, hsucceeds⟩
    · exact absurd (hstaged.paused_undecided hstarted hbound hc) hchanged
  · intro more hstart e j
    rw [run_append (calls ++ more)]
    exact (staged_run (calls ++ more)).resumed hstart
  · rintro rfl more hwaits
    simp only [run_append] at hwaits
    have hwired := wired_run calls
    have hbase := (hwaits [] List.nil_prefix).port.1
    have hset := ((hwired.counted p hbase).ready hstarted).1 q hq
    obtain ⟨r, hr⟩ := exists_reads hwired.handed hset
    exact ⟨r, hr, backlog hwired hr hwaits⟩

/-- Two ports that feed each other, with two queues in each direction. -/
def doubled : List Call :=
  .registry (.createPair "a" "b" (.forwarding 1) (.forwarding 2)) :: [0, 1].flatMap fun p =>
    [.port p (.configure 2 2 {}), .port p (.setupRx 0 4), .port p (.setupRx 1 4),
      .port p (.setupTx 0 4), .port p (.setupTx 1 4), .port p .start]

/-- Of the queues of the first port, the second receive queue and the first send queue are paused.
Calls for the others, for the peer and for a queue that is not there do not change that. -/
theorem governed_run_doubled :
    let calls := doubled ++ [.port 0 (.pauseRx 1 true), .port 0 (.pauseRx 0 true),
      .port 0 (.pauseTx 0 true), .port 0 (.pauseRx 0 false), .port 0 (.pauseTx 1 false),
      .port 1 (.pauseRx 1 false), .port 0 (.pauseRx 65 false), .queue (.takeRx 0 1),
      .port 0 (.setLink false)]
    Governed calls 0 .rx 1 ∧ (run calls).Paused 0 .rx 1 ∧ ¬(run calls).Paused 0 .rx 0 ∧
      (run calls).Paused 0 .tx 0 ∧ ¬(run calls).Paused 0 .tx 1 := by
  intro calls
  refine ⟨governed_run calls ?_ .rx ?_, ?_⟩
  all_goals decide +kernel

end Client
end Dataplane
