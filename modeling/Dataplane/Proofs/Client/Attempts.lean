import Dataplane.Proofs.Client.Bursts
import Dataplane.Proofs.Client.Upkeep

/-! # Sending again

Buffers that a burst leaves are sent again, a number of times at most. Between two attempts others
may do whatever they can do without the handle and without the buffers that are left: they receive,
pause queues, take links down, stop ports. Every attempt is a burst of its own with what the one
before has left, so that the buffers are taken one after another, none is taken twice, and those
that are left in the end are the last ones, as they were.
-/
namespace Dataplane

variable {σ : Type} {burst : Nat → σ → List Buffer → List Buffer × σ}

/-! ## The loop -/

/-- Keeps a log of the calls of `burst`, with the states and the buffers they were made with. -/
def recorded (burst : Nat → σ → List Buffer → List Buffer × σ) (n : Nat)
    (s : σ × List (σ × List Buffer)) (bufs : List Buffer) :
    List Buffer × σ × List (σ × List Buffer) :=
  let (left, t) := burst n s.1 bufs
  (left, t, s.2 ++ [(s.1, bufs)])

/-- The calls of `burst` that `n` attempts consist of, and what is left after them. -/
inductive Trail (burst : Nat → σ → List Buffer → List Buffer × σ) :
    (n : Nat) → σ → List Buffer → List (σ × List Buffer) → List Buffer → σ → Prop
  | done (n : Nat) (s : σ) : Trail burst n s [] [] [] s
  | tired {s : σ} {bufs : List Buffer} (hbufs : bufs ≠ []) : Trail burst 0 s bufs [] bufs s
  | again {n : Nat} {s t : σ} {bufs left : List Buffer} {log : List (σ × List Buffer)}
      (hbufs : bufs ≠ []) (hrest : Trail burst n (burst n s bufs).2 (burst n s bufs).1 log left t) :
      Trail burst (n + 1) s bufs ((s, bufs) :: log) left t

/-- Logged or not, the attempts are the same, and succeed if nothing is left. -/
theorem exists_trail (burst : Nat → σ → List Buffer → List Buffer × σ) (n : Nat) (s : σ)
    (old : List (σ × List Buffer)) (bufs : List Buffer) : ∃ log left t,
      Trail burst n s bufs log left t ∧
      retrying burst n s bufs =
        (if left = [] then .ok () else .error (.exhausted .queue), left, t) ∧
      retrying (recorded burst) n (s, old) bufs =
        (if left = [] then .ok () else .error (.exhausted .queue), left, t, old ++ log) := by
  induction n generalizing s old bufs with
  | zero =>
    cases bufs with
    | nil => exact ⟨[], [], s, .done 0 s, rfl, by rw [List.append_nil]; rfl⟩
    | cons b rest =>
      exact ⟨[], b :: rest, s, .tired (List.cons_ne_nil b rest), rfl, by rw [List.append_nil]; rfl⟩
  | succ n ih =>
    cases bufs with
    | nil => exact ⟨[], [], s, .done _ s, rfl, by rw [List.append_nil]; rfl⟩
    | cons b rest =>
      obtain ⟨log, left, t, htrail, hplain, hlogged⟩ := ih (burst n s (b :: rest)).2
        (old ++ [(s, b :: rest)]) (burst n s (b :: rest)).1
      refine ⟨_, left, t, .again (List.cons_ne_nil b rest) htrail, hplain, ?_⟩
      rw [List.append_assoc] at hlogged
      exact hlogged

namespace Trail

variable {n : Nat} {s t : σ} {bufs left : List Buffer} {log : List (σ × List Buffer)}

theorem length_le (h : Trail burst n s bufs log left t) : log.length ≤ n := by
  induction h with
  | done n s => exact Nat.zero_le n
  | tired hbufs => exact Nat.le_refl 0
  | again hbufs hrest ih => exact Nat.succ_le_succ ih

/-- Attempts are not given up before they are used up. -/
theorem length_eq (h : Trail burst n s bufs log left t) (hleft : left ≠ []) : log.length = n := by
  induction h with
  | done n s => exact absurd rfl hleft
  | tired hbufs => rfl
  | again hbufs hrest ih => exact congrArg Nat.succ (ih hleft)

theorem ne_nil (h : Trail burst n s bufs log left t) : ∀ a ∈ log, a.2 ≠ [] := by
  induction h with
  | done n s => exact nofun
  | tired hbufs => exact nofun
  | again hbufs hrest ih =>
    intro a ha
    rcases List.mem_cons.mp ha with rfl | ha
    · exact hbufs
    · exact ih a ha

/-- If each call takes buffers off the front, all calls together do. -/
theorem parted {taken : σ × List Buffer → List Buffer}
    (htaken : ∀ n s bufs, bufs = taken (s, bufs) ++ (burst n s bufs).1)
    (h : Trail burst n s bufs log left t) : bufs = log.flatMap taken ++ left := by
  induction h with
  | done n s => rfl
  | tired hbufs => rfl
  | @again n s t bufs left log hbufs hrest ih =>
    calc bufs
      _ = taken (s, bufs) ++ (burst n s bufs).1 := htaken n s bufs
      _ = taken (s, bufs) ++ (log.flatMap taken ++ left) := congrArg _ ih
      _ = ((s, bufs) :: log).flatMap taken ++ left := (List.append_assoc _ _ _).symm

theorem keeps {P : σ → List Buffer → Prop}
    (hburst : ∀ n s bufs, P s bufs → P (burst n s bufs).2 (burst n s bufs).1)
    (h : Trail burst n s bufs log left t) (hs : P s bufs) :
    (∀ a ∈ log, P a.1 a.2) ∧ P t left := by
  induction h with
  | done n s => exact ⟨nofun, hs⟩
  | tired hbufs => exact ⟨nofun, hs⟩
  | @again n s t bufs left log hbufs hrest ih =>
    obtain ⟨hlog, hlast⟩ := ih (hburst n s bufs hs)
    refine ⟨?_, hlast⟩
    intro a ha
    rcases List.mem_cons.mp ha with rfl | ha
    · exact hs
    · exact hlog a ha

end Trail

/-! ## What others can do -/

def Call.sender : Call → Option TxQueue
  | .queue (.putTx x) => some x
  | .queue (.send x _) => some x
  | _ => none

namespace Client

open Store

variable {w : Client} {x : TxQueue} {bufs : List Buffer}

/-- A call by somebody who has neither the handle `x` nor the buffers `bufs`. -/
def Beside (w : Client) (x : TxQueue) (bufs : List Buffer) (c : Call) : Prop :=
  c.sender ≠ some x ∧ c.given + ↑bufs ≤ w.buffers

instance (x : TxQueue) (bufs : List Buffer) (c : Call) : Decidable (w.Beside x bufs c) :=
  inferInstanceAs (Decidable (_ ∧ _))

/-- What others do. A call that they cannot make does nothing. -/
def callBeside (w : Client) (x : TxQueue) (bufs : List Buffer) (c : Call) : Client :=
  if w.Beside x bufs c then w.call c else w

def callAllBeside (w : Client) (x : TxQueue) (bufs : List Buffer) (calls : List Call) : Client :=
  calls.foldl (callBeside · x bufs) w

/-- A burst, and what others do after it when there are `n` attempts to go. -/
def attempt (x : TxQueue) (others : Nat → List Call) (n : Nat) (w : Client) (bufs : List Buffer) :
    List Buffer × Client :=
  let left := (w.fabric.txBurst x bufs).2.1
  (left, (w.call (.queue (.send x bufs))).callAllBeside x left (others n))

def taken (x : TxQueue) (a : Client × List Buffer) : List Buffer :=
  a.2.take (a.1.fabric.txBurst x a.2).1

/-- A client that can send `bufs` through `x`, and to which they show what they showed in `s`. -/
structure Ready (s : Store) (x : TxQueue) (w : Client) (bufs : List Buffer) : Prop where
  balanced : w.Balanced
  wired : w.Wired
  handle : x ∈ w.txs
  hands : ↑bufs ≤ w.buffers
  data : ∀ b ∈ bufs, w.store.data b = s.data b

namespace Ready

variable {s : Store}

theorem gives (h : Ready s x w bufs) : w.Gives x bufs := h.balanced.gives h.wired h.handle h.hands

theorem callBeside (h : Ready s x w bufs) (c : Call) :
    Ready s x (w.callBeside x bufs c) bufs := by
  unfold Client.callBeside
  split
  · rename_i hbeside
    obtain ⟨hsender, hgiven⟩ := hbeside
    obtain ⟨hbuffers, hdata⟩ := h.balanced.leaves c
    have hspared : ↑bufs ≤ w.buffers - c.given := by
      rw [add_comm] at hgiven
      exact le_tsub_of_add_le_right hgiven
    refine ⟨h.balanced.call c, h.wired.call c, mem_txs_call h.handle ?_, hspared.trans hbuffers, ?_⟩
    · rintro rfl
      exact hsender rfl
    · intro b hb
      have hle : w.buffers - c.given ≤ w.live - c.given :=
        tsub_le_tsub_right (Multiset.le_add_right _ _) _
      have hlive : b ∈ w.live - c.given := Multiset.mem_of_le (hspared.trans hle) hb
      exact (hdata b hlive).trans (h.data b hb)
  · exact h

theorem callAllBeside (h : Ready s x w bufs) (calls : List Call) :
    Ready s x (w.callAllBeside x bufs calls) bufs := by
  induction calls generalizing w with
  | nil => exact h
  | cons c rest ih => exact ih (h.callBeside c)

theorem send (h : Ready s x w bufs) :
    Ready s x (w.call (.queue (.send x bufs))) (w.fabric.txBurst x bufs).2.1 := by
  have hburst := h.gives.burst
  have hcall := h.gives.call
  refine ⟨h.balanced.call _, h.wired.call _, mem_txs_call h.handle nofun, ?_, ?_⟩
  · rw [hcall]
    exact Multiset.le_add_right _ _
  · intro b hb
    rw [hburst.left] at hb
    rw [hcall]
    exact (hburst.bytes b).trans (h.data b (List.mem_of_mem_drop hb))

theorem attempt (h : Ready s x w bufs) (others : Nat → List Call) (n : Nat) :
    Ready s x (attempt x others n w bufs).2 (attempt x others n w bufs).1 :=
  h.send.callAllBeside (others n)

end Ready

/-- What `n` attempts to send `bufs` have come to, with a log of the attempts that were made. -/
structure Retried (x : TxQueue) (n : Nat) (w : Client) (bufs : List Buffer)
    (outcome : Except Fault Unit) (left : List Buffer) (w' : Client)
    (log : List (Client × List Buffer)) : Prop where
  attempts : log.length ≤ n
  /-- No attempt is made with nothing. -/
  busy : ∀ a ∈ log, a.2 ≠ []
  /-- All attempts are made if something is left. -/
  spent : left ≠ [] → log.length = n
  outcome : outcome = if left = [] then .ok () else .error (.exhausted .queue)
  parted : bufs = log.flatMap (taken x) ++ left
  gives : ∀ a ∈ log, a.1.Gives x a.2
  hands : ↑left ≤ w'.buffers
  data : ∀ b ∈ left, w'.store.data b = w.store.data b

theorem taken_append_left (others : Nat → List Call) (n : Nat) (w : Client) (bufs : List Buffer) :
    bufs = taken x (w, bufs) ++ (attempt x others n w bufs).1 := by
  have hleft := w.fabric.txBurst_left x bufs
  simp only [taken, attempt, hleft]
  exact (List.take_append_drop _ bufs).symm

/-- Whatever was called before and whatever others do between the attempts. Keeping a log changes
nothing. -/
theorem retried_run (calls : List Call) {x : TxQueue} (hx : x ∈ (run calls).txs)
    {bufs : List Buffer} (hbufs : ↑bufs ≤ (run calls).buffers) (others : Nat → List Call)
    (n : Nat) :
    let w := run calls
    let r := retrying (recorded (attempt x others)) n (w, []) bufs
    Retried x n w bufs r.1 r.2.1 r.2.2.1 r.2.2.2 ∧
      retrying (attempt x others) n w bufs = (r.1, r.2.1, r.2.2.1) := by
  intro w r
  obtain ⟨log, left, w', htrail, hplain, hlogged⟩ := exists_trail (attempt x others) n w [] bufs
  have hready : Ready w.store x w bufs :=
    ⟨balanced_run calls, wired_run calls, hx, hbufs, fun _ _ => rfl⟩
  obtain ⟨hlog, hlast⟩ := htrail.keeps (fun n _ _ h => h.attempt others n) hready
  have hr : r = _ := hlogged
  rw [hr, hplain]
  refine ⟨?_, rfl⟩
  exact
    { attempts := htrail.length_le
      busy := htrail.ne_nil
      spent := htrail.length_eq
      outcome := rfl
      parted := htrail.parted (taken_append_left others)
      gives := fun a ha => (hlog a ha).gives
      hands := hlast.hands
      data := hlast.data }

/-- Five frames for a ring with room for four. The second attempt finds the ring full. After it
somebody takes the link down, so that the third attempt loses the last frame. The handle cannot be
given back by others. -/
theorem retried_run_looped :
    let x : TxQueue := ⟨0, 0, 0, 0, 1⟩
    let others : Nat → List Call := fun n =>
      if n = 1 then [.queue (.putTx x), .port 0 (.setLink false)] else []
    let w := run looped
    let r := retrying (recorded (attempt x others)) 3 (w, []) loopedFrames
    Retried x 3 w loopedFrames r.1 r.2.1 r.2.2.1 r.2.2.2 ∧ r.2.1 = [] ∧
      r.2.2.2.map (fun a => (taken x a).length) = [4, 0, 1] ∧
      (r.2.2.1.fabric.port 0).stats.sendErrors = 1 ∧
      (retrying (attempt x others) 1 w loopedFrames).2.1 = [⟨0, 4, ⟨0, 0⟩⟩] := by
  intro x others w r
  refine ⟨(retried_run looped ?_ ?_ others 3).1, ?_⟩
  all_goals decide +kernel

/-- If others do nothing, the attempts are those of `Fabric.txRetry`. -/
theorem retrying_alone {x : TxQueue} (hx : x ∈ w.txs) (hbufs : ↑bufs ≤ w.buffers) (n : Nat) :
    let r := Fabric.txRetry (fun _ f => f) x n w.fabric bufs
    retrying (attempt x fun _ => []) n w bufs =
      (r.1, r.2.1, { w with fabric := r.2.2, buffers := ↑r.2.1 + (w.buffers - ↑bufs) }) := by
  induction n generalizing w bufs with
  | zero =>
    cases bufs with
    | nil => simp [retrying, Fabric.txRetry]
    | cons b rest => simp [retrying, Fabric.txRetry, add_tsub_cancel_of_le hbufs]
  | succ n ih =>
    cases bufs with
    | nil => simp [retrying, Fabric.txRetry]
    | cons b rest =>
      have hcall : w.call (.queue (.send x (b :: rest))) = w.send x (b :: rest) :=
        if_pos ⟨hx, hbufs⟩
      have hleft : ↑(w.fabric.txBurst x (b :: rest)).2.1 ≤ (w.send x (b :: rest)).buffers :=
        Multiset.le_add_right _ _
      have hrest := ih (w := w.send x (b :: rest)) hx hleft
      simp only [Client.send, add_tsub_cancel_left] at hrest
      simp only [retrying, attempt, hcall, callAllBeside, List.foldl_nil]
      exact hrest

end Client
end Dataplane
