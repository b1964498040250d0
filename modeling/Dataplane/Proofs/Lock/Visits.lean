import Mathlib.Logic.Basic
import Dataplane.Lock.Contest

/-! # Visits to a mutex

A contest for a mutex is watched from outside: every time a thread comes in, a visit is put down,
together with the function that the thread writes and whether it has left again. Whoever takes
steps in whatever order, one guard is out at most, and the value is what the initial value becomes
by the updates of the visits in the order in which the threads came in.
-/
namespace Dataplane

/-- A stay of a thread between taking the lock and giving it back. -/
structure Visit (α : Type) where
  thread : Nat
  update : Option (α → α) := none
  ended : Bool := false

/-- A contest, and the visits so far in the order in which the threads came in. -/
structure Chronicle (σ α : Type) where
  contest : Contest σ α
  visits : List (Visit α) := []

/-- What updates make of a value, one after another. -/
def replay {α : Type} (a : α) (updates : List (α → α)) : α := updates.foldl (fun a f => f a) a

theorem replay_append {α : Type} (a : α) (fs : List (α → α)) (f : α → α) :
    replay a (fs ++ [f]) = f (replay a fs) := List.foldl_append

namespace Visit

variable {α : Type} {visits : List (Visit α)}

def completed (visits : List (Visit α)) : List (α → α) :=
  visits.filterMap fun v => if v.ended then v.update else none

/-- Nothing is left to do in these visits: each thread has written and has left. -/
def Over (visits : List (Visit α)) : Prop :=
  ∀ v ∈ visits, v.ended = true ∧ v.update.isSome = true

/-- Changes the visit that a thread has not ended yet. -/
def amend (t : Nat) (change : Visit α → Visit α) (visits : List (Visit α)) : List (Visit α) :=
  visits.map fun v => if v.thread = t ∧ v.ended = false then change v else v

theorem completed_append_ended {v : Visit α} {f : α → α} (hended : v.ended = true)
    (hupdate : v.update = some f) : completed (visits ++ [v]) = completed visits ++ [f] := by
  simp [completed, hended, hupdate]

theorem Over.length_completed (h : Over visits) : (completed visits).length = visits.length := by
  induction visits with
  | nil => rfl
  | cons v rest ih =>
    obtain ⟨hended, hupdate⟩ := h v List.mem_cons_self
    obtain ⟨f, hf⟩ := Option.isSome_iff_exists.mp hupdate
    have hrest := ih fun u hu => h u (List.mem_cons_of_mem v hu)
    rw [completed, List.filterMap_cons_some (by rw [if_pos hended, hf]), List.length_cons,
      List.length_cons, ← completed, hrest]

theorem Over.append (h : Over visits) {v : Visit α} (hended : v.ended = true)
    (hupdate : v.update.isSome = true) : Over (visits ++ [v]) := by
  intro u hu
  rcases List.mem_append.mp hu with hu | hu
  · exact h u hu
  · rw [List.mem_singleton.mp hu]
    exact ⟨hended, hupdate⟩

/-- Behind visits that are over, the last one is the one that is amended. -/
theorem Over.amend_append (h : Over visits) {v : Visit α} (hopen : v.ended = false)
    (change : Visit α → Visit α) :
    amend v.thread change (visits ++ [v]) = visits ++ [change v] := by
  have hold : amend v.thread change visits = visits := by
    refine (List.map_congr_left fun u hu => if_neg ?_).trans (List.map_id' _)
    rintro ⟨-, hunended⟩
    simp [(h u hu).1] at hunended
  rw [amend] at hold ⊢
  rw [List.map_append, hold, List.map_singleton, if_pos ⟨rfl, hopen⟩]

end Visit

open Visit

namespace Contest

variable {σ α : Type}

/-- What an observer puts down who sees thread `t` make a move and its phase change. -/
def note (visits : List (Visit α)) (t : Nat) (m : Move α) (before after : Phase α) :
    List (Visit α) :=
  match m, before, after with
  | _, .outside, .entered => visits ++ [{ thread := t }]
  | .write f, .informed _, .written => amend t (fun v => { v with update := some f }) visits
  | _, .written, .outside => amend t (fun v => { v with ended := true }) visits
  | _, _, _ => visits

def HasGuard (c : Contest σ α) (t : Nat) : Prop := c.phase t ≠ .outside

theorem phase_enter (c : Contest σ α) {t : Nat} (ht : t < c.phases.size) (s : σ) (p : Phase α)
    (u : Nat) : (c.enter t s p).phase u = if u = t then p else c.phase u := by
  unfold phase enter
  rw [Array.getD_eq_getD_getElem?, Array.getD_eq_getD_getElem?, Array.getElem?_setIfInBounds]
  by_cases hu : u = t
  · subst u
    simp [ht]
  · simp [hu, Ne.symm hu]

theorem size_step (d : Discipline σ α) (c : Contest σ α) (t : Nat) (m : Move α) :
    (c.step d t m).2.phases.size = c.phases.size := by
  have henter : ∀ s p, (c.enter t s p).phases.size = c.phases.size :=
    fun _ _ => Array.size_setIfInBounds
  unfold step
  split <;> (try split) <;> first | rfl | exact henter _ _

theorem note_same (visits : List (Visit α)) (t : Nat) (m : Move α) (p : Phase α) :
    note visits t m p p = visits := by
  cases m <;> cases p <;> rfl

end Contest

namespace Chronicle

variable {σ α : Type}

/-- One step of thread `t`, and what is put down about it. -/
def step (d : Discipline σ α) (x : Chronicle σ α) (t : Nat) (m : Move α) : Chronicle σ α :=
  let contest := (x.contest.step d t m).2
  ⟨contest, Contest.note x.visits t m (x.contest.phase t) (contest.phase t)⟩

def start (s : σ) (threads : Nat) : Chronicle σ α :=
  ⟨⟨s, Array.replicate threads .outside⟩, []⟩

/-- The steps of a schedule, which says whose turn it is and what that thread then does. -/
def run (d : Discipline σ α) {threads : Nat} (x : Chronicle σ α)
    (schedule : List (Fin threads × Move α)) : Chronicle σ α :=
  schedule.foldl (fun x turn => x.step d turn.1 turn.2) x

section Enter

variable {d : Discipline σ α} {x : Chronicle σ α} {t : Nat} {m : Move α} {s : σ} {p : Phase α}
  (hstep : (x.contest.step d t m).2 = x.contest.enter t s p)
include hstep

theorem guarded_step : (x.step d t m).contest.guarded = s := by
  rw [step, hstep]
  rfl

variable (ht : t < x.contest.phases.size)
include ht

theorem phase_step (u : Nat) :
    (x.step d t m).contest.phase u = if u = t then p else x.contest.phase u := by
  rw [step, hstep]
  exact x.contest.phase_enter ht s p u

theorem phase_step_self : (x.step d t m).contest.phase t = p :=
  (phase_step hstep ht t).trans (if_pos rfl)

theorem visits_step :
    (x.step d t m).visits = Contest.note x.visits t m (x.contest.phase t) p := by
  change Contest.note x.visits t m (x.contest.phase t) ((x.step d t m).contest.phase t) = _
  rw [phase_step_self hstep ht]

end Enter

end Chronicle

namespace SpinMutex

variable {α : Type} {m : SpinMutex α}

theorem lock?_of_locked (h : m.spin.isLocked = true) : m.lock? = none := by
  simp [lock?, SpinLock.lockTx?, SpinLock.lock?, SpinLock.tryLock, h]

theorem lock?_of_free (h : m.spin.isLocked = false) :
    m.lock? = some { m with spin := { m.spin with isLocked := true } } := by
  simp [lock?, SpinLock.lockTx?, SpinLock.lock?, SpinLock.tryLock, h]

theorem tryLock_of_locked (h : m.spin.isLocked = true) :
    m.tryLock = (.error .contended, m) := by
  simp [tryLock, SpinLock.tryLockTx, SpinLock.tryLock, h]

theorem tryLock_of_free (h : m.spin.isLocked = false) :
    m.tryLock = (.ok (), { m with spin := { m.spin with isLocked := true } }) := by
  simp [tryLock, SpinLock.tryLockTx, SpinLock.tryLock, h]

end SpinMutex

namespace Chronicle

variable {α : Type} {a : α} {x : Chronicle (SpinMutex α) α} {t : Nat}

/-- How far the visitor is: what it has seen and written goes with the value that was there when it
came in. -/
def Agrees (entry value : α) (v : Visit α) : Phase α → Prop
  | .outside => False
  | .entered => v.update = none ∧ value = entry
  | .informed seen => v.update = none ∧ value = entry ∧ seen = entry
  | .written => ∃ f, v.update = some f ∧ value = f entry

/-- Either nobody is in, and the value is what the visits made of it, or one thread is. -/
inductive Kept (a : α) (x : Chronicle (SpinMutex α) α) : Prop
  | free (isFree : x.contest.guarded.spin.isLocked = false)
      (outside : ∀ t, x.contest.phase t = .outside) (ended : Over x.visits)
      (value : x.contest.guarded.value = replay a (completed x.visits))
  | visited (earlier : List (Visit α)) (v : Visit α)
      (isLocked : x.contest.guarded.spin.isLocked = true)
      (outside : ∀ t ≠ v.thread, x.contest.phase t = .outside)
      (visits : x.visits = earlier ++ [v]) (ended : Over earlier) (open_ : v.ended = false)
      (agrees : Agrees (replay a (completed earlier)) x.contest.guarded.value v
        (x.contest.phase v.thread))

theorem Kept.start (threads : Nat) :
    (Chronicle.start (SpinMutex.create .none a) threads).Kept a := by
  refine .free rfl (fun t => ?_) (by simp [Chronicle.start, Over]) rfl
  rw [Contest.phase, Chronicle.start, Array.getD_eq_getD_getElem?, Array.getElem?_replicate]
  split <;> rfl

/-- A step that changes nothing is not put down. -/
theorem Kept.stay (h : x.Kept a) {m : Move α} (hsame : (x.contest.step .mutex t m).2 = x.contest) :
    (x.step .mutex t m).Kept a := by
  have heq : x.step .mutex t m = x := by
    rw [step, hsame, Contest.note_same]
  rwa [heq]

theorem Kept.enter (h : x.Kept a) (ht : t < x.contest.phases.size)
    (hfree : x.contest.guarded.spin.isLocked = false) {m : Move α}
    (hphase : x.contest.phase t = .outside)
    (hstep : (x.contest.step .mutex t m).2 = x.contest.enter t
      { x.contest.guarded with spin := { x.contest.guarded.spin with isLocked := true } }
      .entered) : (x.step .mutex t m).Kept a := by
  cases h with
  | visited _ _ hlocked => simp [hlocked] at hfree
  | free _ houtside hover hvalue =>
    have hvisits : (x.step .mutex t m).visits = x.visits ++ [{ thread := t }] := by
      rw [visits_step hstep ht, hphase]
      cases m <;> rfl
    refine .visited x.visits { thread := t } ?_ (fun u hu => ?_) hvisits hover rfl ?_
    · rw [guarded_step hstep]
    · rw [phase_step hstep ht, if_neg hu, houtside]
    · rw [phase_step_self hstep ht, guarded_step hstep]
      exact ⟨rfl, hvalue⟩

/-- A free mutex is taken by whoever locks it and by whoever tries to. -/
theorem step_of_free (hfree : x.contest.guarded.spin.isLocked = false)
    (hphase : x.contest.phase t = .outside) {m : Move α} (hm : m ∈ [.lock, .tryLock]) :
    (x.contest.step .mutex t m).1 = .ok () ∧ (x.contest.step .mutex t m).2 = x.contest.enter t
      { x.contest.guarded with spin := { x.contest.guarded.spin with isLocked := true } }
      .entered := by
  simp only [List.mem_cons, List.not_mem_nil, or_false] at hm
  rcases hm with rfl | rfl
  · simp only [Contest.step, hphase, Discipline.mutex, SpinMutex.lock?_of_free hfree, and_self]
  · simp only [Contest.step, hphase, Discipline.mutex, SpinMutex.tryLock_of_free hfree, and_self]

theorem Kept.proceed {earlier : List (Visit α)} {v w : Visit α} {m : Move α} {p : Phase α}
    {s : SpinMutex α} (hsize : v.thread < x.contest.phases.size)
    (houtside : ∀ t ≠ v.thread, x.contest.phase t = .outside) (hover : Over earlier)
    (hstep : (x.contest.step .mutex v.thread m).2 = x.contest.enter v.thread s p)
    (hlocked : s.spin.isLocked = true) (hthread : w.thread = v.thread)
    (hopen : w.ended = false)
    (hnote : Contest.note x.visits v.thread m (x.contest.phase v.thread) p = earlier ++ [w])
    (hagrees : Agrees (replay a (completed earlier)) s.value w p) :
    (x.step .mutex v.thread m).Kept a := by
  refine .visited earlier w ?_ (fun u hu => ?_) ?_ hover hopen ?_
  · rw [guarded_step hstep]
    exact hlocked
  · rw [hthread] at hu
    rw [phase_step hstep hsize, if_neg hu, houtside u hu]
  · rw [visits_step hstep hsize, hnote]
  · rw [guarded_step hstep, hthread, phase_step_self hstep hsize]
    exact hagrees

theorem Kept.leave {earlier : List (Visit α)} {v : Visit α}
    (hsize : v.thread < x.contest.phases.size)
    (houtside : ∀ t ≠ v.thread, x.contest.phase t = .outside) (hover : Over earlier)
    (hvisits : x.visits = earlier ++ [v]) (hopen : v.ended = false)
    (hphase : x.contest.phase v.thread = .written)
    (hagrees : Agrees (replay a (completed earlier)) x.contest.guarded.value v .written) :
    (x.step .mutex v.thread .release).Kept a := by
  obtain ⟨f, hupdate, hvalue⟩ := hagrees
  have hstep : (x.contest.step .mutex v.thread .release).2 =
      x.contest.enter v.thread x.contest.guarded.release .outside := by
    simp only [Contest.step, hphase]
    rfl
  have hnote : (x.step .mutex v.thread .release).visits =
      earlier ++ [{ v with ended := true }] := by
    rw [visits_step hstep hsize, hphase, hvisits]
    exact hover.amend_append hopen _
  refine .free ?_ (fun u => ?_) ?_ ?_
  · rw [guarded_step hstep, SpinMutex.release_isLocked]
  · rw [phase_step hstep hsize]
    split
    · rfl
    · rename_i hu
      exact houtside u hu
  · rw [hnote]
    exact hover.append rfl (Option.isSome_iff_exists.mpr ⟨f, hupdate⟩)
  · have hended : completed (earlier ++ [{ v with ended := true }]) = completed earlier ++ [f] :=
      completed_append_ended rfl hupdate
    rw [guarded_step hstep, hnote, hended, replay_append, ← hvalue]
    rfl

theorem Kept.step (h : x.Kept a) (ht : t < x.contest.phases.size) (m : Move α) :
    (x.step .mutex t m).Kept a := by
  cases h with
  | free hfree houtside hover hvalue =>
    have hkept : x.Kept a := .free hfree houtside hover hvalue
    have hphase := houtside t
    cases m with
    | lock => exact hkept.enter ht hfree hphase (step_of_free hfree hphase (by simp)).2
    | tryLock => exact hkept.enter ht hfree hphase (step_of_free hfree hphase (by simp)).2
    | read => exact hkept.stay (by simp only [Contest.step, hphase])
    | write f => exact hkept.stay (by simp only [Contest.step, hphase])
    | release => exact hkept.stay (by simp only [Contest.step, hphase])
  | visited earlier v hlocked houtside hvisits hover hopen hagrees =>
    have hkept : x.Kept a := .visited earlier v hlocked houtside hvisits hover hopen hagrees
    by_cases hmine : t = v.thread
    · subst hmine
      cases hphase : x.contest.phase v.thread with
      | outside =>
        rw [hphase] at hagrees
        exact hagrees.elim
      | entered =>
        rw [hphase] at hagrees
        cases m with
        | read =>
          refine .proceed (p := .informed x.contest.guarded.value) ht houtside hover ?_ hlocked rfl
            hopen ?_ ⟨hagrees.1, hagrees.2, hagrees.2⟩
          · simp only [Contest.step, hphase]
            rfl
          · rw [hphase]
            exact hvisits
        | _ => exact hkept.stay (by simp only [Contest.step, hphase])
      | informed seen =>
        rw [hphase] at hagrees
        cases m with
        | write f =>
          refine .proceed (w := { v with update := some f }) (p := .written)
            (s := x.contest.guarded.write (f seen)) ht houtside hover ?_ hlocked rfl hopen ?_
            ⟨f, rfl, congrArg f hagrees.2.2⟩
          · simp only [Contest.step, hphase]
            rfl
          · rw [hphase, hvisits]
            exact hover.amend_append hopen _
        | _ => exact hkept.stay (by simp only [Contest.step, hphase])
      | written =>
        rw [hphase] at hagrees
        cases m with
        | release => exact .leave ht houtside hover hvisits hopen hphase hagrees
        | _ => exact hkept.stay (by simp only [Contest.step, hphase])
    · have hphase := houtside t hmine
      cases m with
      | lock =>
        refine hkept.stay ?_
        simp only [Contest.step, hphase, Discipline.mutex, SpinMutex.lock?_of_locked hlocked]
      | tryLock =>
        refine hkept.stay ?_
        simp only [Contest.step, hphase, Discipline.mutex, SpinMutex.tryLock_of_locked hlocked]
      | read => exact hkept.stay (by simp only [Contest.step, hphase])
      | write f => exact hkept.stay (by simp only [Contest.step, hphase])
      | release => exact hkept.stay (by simp only [Contest.step, hphase])

theorem Kept.run {threads : Nat} (h : x.Kept a) (hsize : x.contest.phases.size = threads)
    (schedule : List (Fin threads × Move α)) : (x.run .mutex schedule).Kept a := by
  induction schedule generalizing x with
  | nil => exact h
  | cons turn rest ih =>
    have ht : turn.1.val < x.contest.phases.size := hsize ▸ turn.1.isLt
    exact ih (h.step ht turn.2) ((Contest.size_step ..).trans hsize)

/-! ## What everybody sees -/

/-- One guard is out at most, and without one the value is that of all updates so far. -/
structure Serial (a : α) (x : Chronicle (SpinMutex α) α) : Prop where
  one_guard : ∀ t u, x.contest.HasGuard t → x.contest.HasGuard u → t = u
  contended : x.contest.guarded.tryLock.1 = .error .contended ↔ ∃ t, x.contest.HasGuard t
  granted : x.contest.guarded.tryLock.1 = .ok () ↔ ∀ t, ¬x.contest.HasGuard t
  /-- While no guard is out, whoever asks for one gets it, and need not wait for it. -/
  taken : (∀ u, ¬x.contest.HasGuard u) → ∀ t < x.contest.phases.size, ∀ m ∈ [.lock, .tryLock],
    (x.contest.step .mutex t m).1 = .ok () ∧ (x.contest.step .mutex t m).2.HasGuard t ∧
      (x.contest.step .mutex t m).2.guarded.value = x.contest.guarded.value
  /-- A thread that tries, and one that has to wait, changes nothing while a guard is out. -/
  refused : ∀ t u, ¬x.contest.HasGuard t → x.contest.HasGuard u →
    x.contest.step .mutex t .tryLock = (.error .contended, x.contest) ∧
    x.contest.step .mutex t .lock = (.ok (), x.contest)
  value : (∀ t, ¬x.contest.HasGuard t) →
    x.contest.guarded.value = replay a (completed x.visits)
  /-- Every thread that came in has made its update. -/
  complete : (∀ t, ¬x.contest.HasGuard t) → (completed x.visits).length = x.visits.length

theorem Kept.serial (h : x.Kept a) : x.Serial a := by
  cases h with
  | free hfree houtside hover hvalue =>
    have hnone : ∀ t, ¬x.contest.HasGuard t := fun t hguard => hguard (houtside t)
    have hgranted : x.contest.guarded.tryLock.1 = .ok () := by
      rw [SpinMutex.tryLock_of_free hfree]
    exact {
      one_guard := fun t u ht _ => absurd ht (hnone t)
      contended := by
        rw [hgranted]
        exact ⟨nofun, fun ⟨t, ht⟩ => absurd ht (hnone t)⟩
      granted := ⟨fun _ => hnone, fun _ => hgranted⟩
      taken := fun _ t ht m hm => by
        obtain ⟨hanswer, hstep⟩ := step_of_free hfree (houtside t) hm
        rw [hanswer, hstep]
        refine ⟨rfl, ?_, rfl⟩
        rw [Contest.HasGuard, Contest.phase_enter _ ht, if_pos rfl]
        nofun
      refused := fun _ u _ hu => absurd hu (hnone u)
      value := fun _ => hvalue
      complete := fun _ => hover.length_completed }
  | visited earlier v hlocked houtside hvisits hover hopen hagrees =>
    have honly : ∀ t, x.contest.HasGuard t → t = v.thread :=
      fun t hguard => by_contra fun hne => hguard (houtside t hne)
    have hguard : x.contest.HasGuard v.thread := by
      intro hphase
      rw [hphase] at hagrees
      exact hagrees
    have hcontended : x.contest.guarded.tryLock.1 = .error .contended := by
      rw [SpinMutex.tryLock_of_locked hlocked]
    exact {
      one_guard := fun t u ht hu => (honly t ht).trans (honly u hu).symm
      contended := ⟨fun _ => ⟨v.thread, hguard⟩, fun _ => hcontended⟩
      granted := by
        rw [hcontended]
        exact ⟨nofun, fun hnone => absurd hguard (hnone v.thread)⟩
      taken := fun hnone => absurd hguard (hnone v.thread)
      refused := fun t u ht _ => by
        have hphase := not_not.mp ht
        simp only [Contest.step, hphase, Discipline.mutex, SpinMutex.tryLock_of_locked hlocked,
          SpinMutex.lock?_of_locked hlocked, and_self]
      value := fun hnone => absurd hguard (hnone v.thread)
      complete := fun hnone => absurd hguard (hnone v.thread) }

/-- Threads that take a mutex, read its value, write what they make of it and leave, in whatever
order they take these steps, exclude each other and lose no update. -/
theorem serial_run (a : α) {threads : Nat} (schedule : List (Fin threads × Move α)) :
    ((start (SpinMutex.create .none a) threads).run .mutex schedule).Serial a :=
  ((Kept.start threads).run Array.size_replicate schedule).serial

end Chronicle
end Dataplane
