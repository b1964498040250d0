import Mathlib.Data.List.Induction
import Mathlib.Logic.Function.Basic
import Mathlib.Tactic.ByContra
import Dataplane.Lock.Recursive

/-! # Nested locking

Threads share a recursive lock that no transaction can enter. They take it in all the ways there
are, wait for it or only try, keep guards of it, and give back what they have taken, in any order.
For each thread it is counted how often it has taken the lock and given it back. The three words of
the lock tell what the counts say: whether anybody has it, who, and how often.
-/
namespace Dataplane

/-- What a thread may do with a recursive lock. A guard enters by a transaction where the lock
allows it, and gives back accordingly. -/
inductive RecursiveMove
  | lock (way : Way)
  | tryLock (way : Way)
  | unlock (way : Way)
  | guard
  | tryGuard
  | dropGuard
  deriving DecidableEq, Repr

def RecursiveMove.Takes : RecursiveMove → Prop
  | lock _ => True
  | tryLock _ => True
  | guard => True
  | tryGuard => True
  | unlock _ => False
  | dropGuard => False

/-- A move of a thread. The processor has a say too: it may begin a transaction when it is asked
to. -/
structure RecursiveTurn where
  thread : Nat
  move : RecursiveMove
  begun : Bool := false

/-- A recursive lock, how often each thread has taken it and given it back, and how many guards each
thread has. -/
structure Sharing where
  lock : RecursiveLock
  taken : Nat → Nat := fun _ => 0
  returned : Nat → Nat := fun _ => 0
  guards : Nat → Nat := fun _ => 0

namespace Sharing

/-- Counts one more of a thread. -/
def bump (counts : Nat → Nat) (t : Nat) : Nat → Nat := Function.update counts t (counts t + 1)

/-- How often a thread has taken the lock and not given it back. -/
def out (u : Sharing) (t : Nat) : Nat := u.taken t - u.returned t

/-- Puts down what came of an attempt. -/
def attempt (u : Sharing) (t : Nat) : Bool × RecursiveLock → Bool × Sharing
  | (true, lock) => (true, { u with lock, taken := bump u.taken t })
  | (false, lock) => (false, { u with lock })

/-- A thread that has to wait stays where it is. -/
def await (u : Sharing) (t : Nat) : Option RecursiveLock → Bool × Sharing
  | some lock => (true, { u with lock, taken := bump u.taken t })
  | none => (false, u)

/-- A thread gives back only what it has taken. -/
def giveBack (u : Sharing) (t : Nat) (lock : RecursiveLock) : Bool × Sharing :=
  if 0 < u.out t then (true, { u with lock, returned := bump u.returned t }) else (false, u)

def keepGuard (t : Nat) : Bool × Sharing → Bool × Sharing
  | (true, u) => (true, { u with guards := bump u.guards t })
  | (false, u) => (false, u)

def loseGuard (t : Nat) : Bool × Sharing → Bool × Sharing
  | (true, u) => (true, { u with guards := Function.update u.guards t (u.guards t - 1) })
  | (false, u) => (false, u)

/-- A move, and whether it took effect. -/
def step (u : Sharing) (x : RecursiveTurn) : Bool × Sharing :=
  match x.move with
  | .lock .plain => u.await x.thread (u.lock.lock? x.thread)
  | .lock .transaction => u.await x.thread (u.lock.lockTx? x.begun x.thread)
  | .tryLock .plain => u.attempt x.thread (u.lock.tryLock x.thread)
  | .tryLock .transaction => u.attempt x.thread (u.lock.tryLockTx x.begun x.thread)
  | .unlock .plain => u.giveBack x.thread u.lock.unlock
  | .unlock .transaction => u.giveBack x.thread (u.lock.unlockTx x.thread)
  | .guard => keepGuard x.thread (u.await x.thread (u.lock.lockTx? x.begun x.thread))
  | .tryGuard => keepGuard x.thread (u.attempt x.thread (u.lock.tryLockTx x.begun x.thread))
  | .dropGuard =>
    if 0 < u.guards x.thread then
      loseGuard x.thread (u.giveBack x.thread (u.lock.unlockTx x.thread))
    else (false, u)

/-- What threads do with a lock that they find free. -/
def run (turns : List RecursiveTurn) : Sharing :=
  turns.foldl (fun u x => (u.step x).2) { lock := .create .none }

theorem run_append (turns : List RecursiveTurn) (x : RecursiveTurn) :
    run (turns ++ [x]) = ((run turns).step x).2 := List.foldl_append

end Sharing

/-! ## The words of the lock -/

namespace RecursiveLock

variable {l : RecursiveLock} {out : Nat → Nat} {t v : Nat}

theorem tryLockTx_eq (h : l.spin.elides = false) (begun : Bool) (t : Nat) :
    l.tryLockTx begun t = l.tryLock t := by
  simp [tryLockTx, h]

theorem lockTx?_eq (h : l.spin.elides = false) (begun : Bool) (t : Nat) :
    l.lockTx? begun t = l.lock? t := by
  simp [lockTx?, h]

theorem unlockTx_eq (h : l.owner = some t) : l.unlockTx t = l.unlock := by
  simp [unlockTx, isHeldBy, h]

theorem tryLock_of_free (howner : l.owner = none) (hfree : l.spin.isLocked = false) (t : Nat) :
    l.tryLock t = (true, (l.hand { l.spin with isLocked := true } t).deepen) := by
  simp [tryLock, isHeldBy, howner, SpinLock.tryLock, hfree]

theorem tryLock_of_owner (howner : l.owner = some t) : l.tryLock t = (true, l.deepen) := by
  simp [tryLock, isHeldBy, howner]

theorem tryLock_of_other (howner : l.owner = some v) (hlocked : l.spin.isLocked = true)
    (hne : v ≠ t) : l.tryLock t = (false, l) := by
  simp [tryLock, isHeldBy, howner, hne, SpinLock.tryLock, hlocked]

theorem elides_tryLock (l : RecursiveLock) (t : Nat) :
    (l.tryLock t).2.spin.elides = l.spin.elides := by
  unfold tryLock
  split
  · rfl
  · have helides := l.spin.tryLock_elides
    split
    · rfl
    · rename_i heq
      rw [heq] at helides
      exact helides

theorem elides_unlock (l : RecursiveLock) : l.unlock.spin.elides = l.spin.elides := by
  unfold unlock
  dsimp only
  split <;> rfl

/-- The lock tells how often each thread has it: nobody has it, or one thread does. -/
inductive Tells (l : RecursiveLock) (out : Nat → Nat) : Prop
  | free (owner : l.owner = none) (isFree : l.spin.isLocked = false) (depth : l.depth = 0)
      (none : ∀ t, out t = 0)
  | held (t : Nat) (owner : l.owner = some t) (isLocked : l.spin.isLocked = true)
      (depth : l.depth.toNat = out t) (pos : 0 < out t) (others : ∀ v ≠ t, out v = 0)

namespace Tells

/-- A thread can have the lock exactly if no other has it. -/
theorem tryLock_iff (h : l.Tells out) (t : Nat) :
    (l.tryLock t).1 = true ↔ ∀ v ≠ t, out v = 0 := by
  cases h with
  | free howner hfree _ hnone =>
    rw [tryLock_of_free howner hfree]
    exact ⟨fun _ v _ => hnone v, fun _ => rfl⟩
  | held v howner hlocked _ hpos hothers =>
    by_cases hv : v = t
    · subst v
      rw [tryLock_of_owner howner]
      exact ⟨fun _ => hothers, fun _ => rfl⟩
    · rw [tryLock_of_other howner hlocked hv]
      refine ⟨nofun, fun hnone => ?_⟩
      have hzero := hnone v hv
      omega

theorem eq_of_tryLock (h : l.Tells out) (hfail : (l.tryLock t).1 = false) :
    (l.tryLock t).2 = l := by
  cases h with
  | free howner hfree =>
    rw [tryLock_of_free howner hfree] at hfail
    cases hfail
  | held v howner hlocked =>
    by_cases hv : v = t
    · rw [tryLock_of_owner (hv ▸ howner)] at hfail
      cases hfail
    · rw [tryLock_of_other howner hlocked hv]

theorem acquire (h : l.Tells out) (hgot : (l.tryLock t).1 = true)
    (hshallow : out t + 1 < UInt32.size) :
    (l.tryLock t).2.Tells (Function.update out t (out t + 1)) := by
  have hothers := (h.tryLock_iff t).mp hgot
  have hrest : ∀ v ≠ t, Function.update out t (out t + 1) v = 0 := by
    intro v hv
    rw [Function.update_of_ne hv, hothers v hv]
  cases h with
  | free howner hfree hdepth hnone =>
    rw [tryLock_of_free howner hfree]
    refine .held t rfl rfl ?_ ?_ hrest
    · rw [Function.update_self, hnone, deepen, hand, hdepth]
      rfl
    · rw [Function.update_self]
      exact Nat.succ_pos _
  | held v howner hlocked hdepth hpos _ =>
    have hv : v = t := by
      by_contra hne
      have hzero := hothers v hne
      omega
    subst v
    rw [tryLock_of_owner howner]
    refine .held t howner hlocked ?_ ?_ hrest
    · rw [Function.update_self, deepen, UInt32.toNat_add, hdepth]
      exact Nat.mod_eq_of_lt hshallow
    · rw [Function.update_self]
      exact Nat.succ_pos _

theorem owner_of_pos (h : l.Tells out) (hpos : 0 < out t) : l.owner = some t := by
  cases h with
  | free _ _ _ hnone =>
    have hzero := hnone t
    omega
  | held v howner _ _ _ hothers =>
    have hv : v = t := by
      by_contra hne
      have hzero := hothers t (Ne.symm hne)
      omega
    exact hv ▸ howner

theorem owner_iff (h : l.Tells out) (t : Nat) : l.owner = some t ↔ 0 < out t := by
  refine ⟨fun howner => ?_, h.owner_of_pos⟩
  cases h with
  | free hnone => simp [hnone] at howner
  | held v hv _ _ hpos _ => exact Option.some.inj (hv.symm.trans howner) ▸ hpos

theorem depth_eq (h : l.Tells out) (hpos : 0 < out t) : l.depth.toNat = out t := by
  have howned := h.owner_of_pos hpos
  cases h with
  | free hnone => simp [hnone] at howned
  | held v hv _ hdepth _ _ => exact Option.some.inj (hv.symm.trans howned) ▸ hdepth

theorem depth_eq_zero (h : l.Tells out) (hnone : ∀ t, out t = 0) : l.depth = 0 := by
  cases h with
  | free _ _ hdepth _ => exact hdepth
  | held v _ _ _ hpos _ =>
    have hzero := hnone v
    omega

theorem isLocked_iff (h : l.Tells out) : l.isLocked = true ↔ 0 < l.depth.toNat := by
  cases h with
  | free _ hfree hdepth _ => simp [isLocked, hfree, hdepth]
  | held v _ hlocked hdepth hpos _ =>
    rw [isLocked, hlocked, hdepth]
    exact ⟨fun _ => hpos, fun _ => rfl⟩

theorem unlock (h : l.Tells out) (hmine : 0 < out t) :
    l.unlock.Tells (Function.update out t (out t - 1)) := by
  have howned := h.owner_of_pos hmine
  cases h with
  | free _ _ _ hnone =>
    have hzero := hnone t
    omega
  | held v howner hlocked hdepth hpos hothers =>
    have hv : v = t := Option.some.inj (howner.symm.trans howned)
    subst v
    have hrest : ∀ v ≠ t, Function.update out t (out t - 1) v = 0 := by
      intro v hv
      rw [Function.update_of_ne hv, hothers v hv]
    unfold RecursiveLock.unlock
    dsimp only
    -- The lock is free again exactly when the last acquisition is given back.
    by_cases hlast : l.depth = 1
    · have hone : out t = 1 := by
        rw [← hdepth, hlast]
        rfl
      rw [if_pos hlast]
      refine .free rfl rfl ?_ fun v => ?_
      · rw [hlast]
        rfl
      · by_cases hv : v = t
        · rw [hv, Function.update_self, hone]
        · exact hrest v hv
    · have hle : (1 : UInt32) ≤ l.depth := by
        rw [UInt32.le_iff_toNat_le, hdepth]
        exact hpos
      have hne : out t ≠ 1 := by
        intro hone
        exact hlast (UInt32.toNat_inj.mp (hdepth.trans hone))
      rw [if_neg hlast]
      refine .held t howner hlocked ?_ ?_ hrest
      · rw [Function.update_self, UInt32.toNat_sub_of_le _ _ hle, hdepth]
        rfl
      · rw [Function.update_self]
        omega

end Tells
end RecursiveLock

/-! ## What moves keep -/

namespace Sharing

variable {u : Sharing} {t : Nat}

structure Kept (u : Sharing) : Prop where
  plain : u.lock.spin.elides = false
  returned_le : ∀ t, u.returned t ≤ u.taken t
  tells : u.lock.Tells u.out

theorem Kept.start : Kept { lock := .create .none } :=
  ⟨rfl, fun _ => Nat.le_refl _, .free rfl rfl rfl fun _ => rfl⟩

/-- Guards are no part of what is kept. -/
theorem Kept.regard (h : u.Kept) (guards : Nat → Nat) : Kept { u with guards } :=
  ⟨h.plain, h.returned_le, h.tells⟩

/-- A thread waits where it would fail, and nothing changes by either. -/
theorem Kept.await_eq (h : u.Kept) (t : Nat) :
    u.await t (u.lock.lock? t) = u.attempt t (u.lock.tryLock t) := by
  have hfail := h.tells.eq_of_tryLock (t := t)
  rw [RecursiveLock.lock?]
  cases hr : u.lock.tryLock t with
  | mk got lock =>
    rw [hr] at hfail
    cases got with
    | true => rfl
    | false =>
      have hsame : lock = u.lock := hfail rfl
      rw [hsame]
      rfl

/-- All ways to take the lock are the same attempt. Those for guards keep one if it succeeds. -/
theorem Kept.step_takes (h : u.Kept) {x : RecursiveTurn} (hx : x.move.Takes) :
    u.step x = u.attempt x.thread (u.lock.tryLock x.thread) ∨
      u.step x = keepGuard x.thread (u.attempt x.thread (u.lock.tryLock x.thread)) := by
  obtain ⟨t, m, begun⟩ := x
  have hawait := h.await_eq t
  have htry := RecursiveLock.tryLockTx_eq h.plain begun t
  have hlock := RecursiveLock.lockTx?_eq h.plain begun t
  cases m with
  | lock way =>
    cases way with
    | plain => exact .inl hawait
    | transaction => exact .inl ((congrArg (u.await t) hlock).trans hawait)
  | tryLock way =>
    cases way with
    | plain => exact .inl rfl
    | transaction => exact .inl (congrArg (u.attempt t) htry)
  | guard => exact .inr (congrArg (keepGuard t) ((congrArg (u.await t) hlock).trans hawait))
  | tryGuard => exact .inr (congrArg (keepGuard t) (congrArg (u.attempt t) htry))
  | unlock way => exact hx.elim
  | dropGuard => exact hx.elim

/-- All ways to give the lock back are the same. -/
theorem Kept.step_gives (h : u.Kept) {x : RecursiveTurn} (hx : ¬x.move.Takes) :
    u.step x = (false, u) ∨ (0 < u.out x.thread ∧ ∃ guards, u.step x =
      (true, { u with lock := u.lock.unlock, returned := bump u.returned x.thread, guards })) := by
  obtain ⟨t, m, begun⟩ := x
  by_cases hpos : 0 < u.out t
  · have hplain : u.giveBack t u.lock.unlock =
        (true, { u with lock := u.lock.unlock, returned := bump u.returned t }) := if_pos hpos
    have htx : u.giveBack t (u.lock.unlockTx t) = u.giveBack t u.lock.unlock :=
      congrArg (u.giveBack t) (RecursiveLock.unlockTx_eq (h.tells.owner_of_pos hpos))
    cases m with
    | unlock way =>
      cases way with
      | plain => exact .inr ⟨hpos, _, hplain⟩
      | transaction => exact .inr ⟨hpos, _, htx.trans hplain⟩
    | dropGuard =>
      by_cases hguard : 0 < u.guards t
      · exact .inr ⟨hpos, _, (if_pos hguard).trans (congrArg (loseGuard t) (htx.trans hplain))⟩
      · exact .inl (if_neg hguard)
    | _ => exact absurd trivial hx
  · have hnone (l : RecursiveLock) : u.giveBack t l = (false, u) := if_neg hpos
    cases m with
    | unlock way => cases way <;> exact .inl (hnone _)
    | dropGuard =>
      by_cases hguard : 0 < u.guards t
      · exact .inl ((if_pos hguard).trans (congrArg (loseGuard t) (hnone _)))
      · exact .inl (if_neg hguard)
    | _ => exact absurd trivial hx

theorem bump_apply (counts : Nat → Nat) (t v : Nat) :
    bump counts t v = counts v + if v = t then 1 else 0 := by
  rw [bump, Function.update_apply]
  split
  · rename_i hv
    rw [hv]
  · rfl

theorem Kept.attempt (h : u.Kept) (t : Nat)
    (hshallow : (u.attempt t (u.lock.tryLock t)).2.out t < UInt32.size) :
    (u.attempt t (u.lock.tryLock t)).2.Kept := by
  have helides := (u.lock.elides_tryLock t).trans h.plain
  have hfail := h.tells.eq_of_tryLock (t := t)
  have hgot := h.tells.acquire (t := t)
  cases hr : u.lock.tryLock t with
  | mk got lock =>
    rw [hr] at helides hfail hgot hshallow
    cases got with
    | false =>
      have hsame : lock = u.lock := hfail rfl
      rw [hsame]
      exact h
    | true =>
      have hout : ∀ v, bump u.taken t v - u.returned v = bump u.out t v := by
        intro v
        have hle := h.returned_le v
        rw [bump_apply, bump_apply, out]
        omega
      have hout' : Sharing.out { u with lock, taken := bump u.taken t } = bump u.out t :=
        funext hout
      have hlt : u.out t + 1 < UInt32.size := by
        have hnew := (hout t).trans (Function.update_self t _ u.out)
        exact hnew ▸ hshallow
      refine ⟨helides, fun v => Nat.le_trans (h.returned_le v) ?_, ?_⟩
      · change u.taken v ≤ bump u.taken t v
        rw [bump_apply]
        exact Nat.le_add_right _ _
      · change lock.Tells (Sharing.out { u with lock, taken := bump u.taken t })
        rw [hout']
        exact hgot rfl hlt

theorem Kept.giveBack (h : u.Kept) (hpos : 0 < u.out t) (guards : Nat → Nat) :
    Kept { u with lock := u.lock.unlock, returned := bump u.returned t, guards } := by
  have hout : Sharing.out { u with lock := u.lock.unlock, returned := bump u.returned t, guards } =
      Function.update u.out t (u.out t - 1) := by
    funext v
    change u.taken v - bump u.returned t v = _
    rw [bump_apply, Function.update_apply, out, out]
    split
    · rename_i hv
      rw [hv, Nat.sub_sub]
    · rfl
  refine ⟨u.lock.elides_unlock.trans h.plain, fun v => ?_, ?_⟩
  · have hle := h.returned_le v
    change bump u.returned t v ≤ u.taken v
    rw [bump_apply]
    split
    · rename_i hv
      rw [out, ← hv] at hpos
      omega
    · exact hle
  · rw [hout]
    exact h.tells.unlock hpos

theorem Kept.step (h : u.Kept) (x : RecursiveTurn)
    (hshallow : (u.step x).2.out x.thread < UInt32.size) : (u.step x).2.Kept := by
  by_cases hx : x.move.Takes
  · rcases h.step_takes hx with heq | heq
    · rw [heq] at hshallow ⊢
      exact h.attempt x.thread hshallow
    · rw [heq] at hshallow ⊢
      generalize hr : u.attempt x.thread (u.lock.tryLock x.thread) = r at hshallow
      have hkept : r.2.Kept := by
        rw [← hr]
        refine h.attempt x.thread ?_
        rw [hr]
        obtain ⟨got, w⟩ := r
        cases got <;> exact hshallow
      obtain ⟨got, w⟩ := r
      cases got with
      | true => exact hkept.regard _
      | false => exact hkept
  · rcases h.step_gives hx with heq | ⟨hpos, guards, heq⟩
    · rw [heq]
      exact h
    · rw [heq]
      exact h.giveBack hpos guards

/-- Nobody has the lock more often than its counter can count. -/
def Shallow (turns : List RecursiveTurn) : Prop :=
  ∀ before, before <+: turns → ∀ t, (run before).out t < UInt32.size

theorem taken_step_le (u : Sharing) (x : RecursiveTurn) (v : Nat) :
    (u.step x).2.taken v ≤ u.taken v + 1 := by
  have hbump (t : Nat) : bump u.taken t v ≤ u.taken v + 1 := by
    rw [bump_apply]
    split <;> omega
  have hattempt (t : Nat) (r : Bool × RecursiveLock) :
      (u.attempt t r).2.taken v ≤ u.taken v + 1 := by
    obtain ⟨got, lock⟩ := r
    cases got with
    | true => exact hbump t
    | false => exact Nat.le_succ _
  have hawait (t : Nat) (r : Option RecursiveLock) :
      (u.await t r).2.taken v ≤ u.taken v + 1 := by
    cases r with
    | some lock => exact hbump t
    | none => exact Nat.le_succ _
  have hgive (t : Nat) (lock : RecursiveLock) : (u.giveBack t lock).2.taken v = u.taken v := by
    rw [giveBack]
    split <;> rfl
  have hkeep (t : Nat) (r : Bool × Sharing) : (keepGuard t r).2.taken = r.2.taken := by
    obtain ⟨got, w⟩ := r
    cases got <;> rfl
  have hlose (t : Nat) (r : Bool × Sharing) : (loseGuard t r).2.taken = r.2.taken := by
    obtain ⟨got, w⟩ := r
    cases got <;> rfl
  unfold step
  split
  · exact hawait _ _
  · exact hawait _ _
  · exact hattempt _ _
  · exact hattempt _ _
  · exact Nat.le_succ_of_le (Nat.le_of_eq (hgive _ _))
  · exact Nat.le_succ_of_le (Nat.le_of_eq (hgive _ _))
  · rw [hkeep]
    exact hawait _ _
  · rw [hkeep]
    exact hattempt _ _
  · split
    · rw [hlose, hgive]
      exact Nat.le_succ _
    · exact Nat.le_succ _

theorem shallow_of_length {turns : List RecursiveTurn} (h : turns.length < UInt32.size) :
    Shallow turns := by
  intro before hbefore t
  have htaken : (run before).taken t ≤ before.length := by
    clear hbefore
    induction before using List.reverseRecOn with
    | nil => exact Nat.le_refl 0
    | append_singleton before x ih =>
      rw [run_append, List.length_append]
      exact Nat.le_trans (taken_step_le _ x t) (Nat.add_le_add_right ih 1)
  exact Nat.lt_of_le_of_lt (Nat.le_trans (Nat.sub_le _ _)
    (Nat.le_trans htaken hbefore.length_le)) h

theorem Kept.run {turns : List RecursiveTurn} (h : Shallow turns) : (Sharing.run turns).Kept := by
  induction turns using List.reverseRecOn with
  | nil => exact .start
  | append_singleton turns x ih =>
    have hkept := ih fun before hbefore => h before (hbefore.trans (List.prefix_append turns [x]))
    have hlast := h _ (List.prefix_refl _) x.thread
    rw [run_append] at hlast ⊢
    exact hkept.step x hlast

/-! ## What the threads see -/

/-- One thread at most has the lock, and the words of the lock say which one and how often. -/
structure Exclusive (u : Sharing) : Prop where
  one_holder : ∀ t v, 0 < u.out t → 0 < u.out v → t = v
  owner : ∀ t, u.lock.owner = some t ↔ 0 < u.out t
  depth : ∀ t, 0 < u.out t → u.lock.depth.toNat = u.out t
  depth_free : (∀ t, u.out t = 0) → u.lock.depth = 0
  isLocked : u.lock.isLocked = true ↔ 0 < u.lock.depth.toNat
  isHeldBy : ∀ t, u.lock.isHeldBy t = decide (0 < u.out t)
  takes : ∀ x : RecursiveTurn, x.move.Takes →
    ((u.step x).1 = true ↔ ∀ v ≠ x.thread, u.out v = 0) ∧
    ((u.step x).1 = false → (u.step x).2 = u)
  /-- Each way to take the lock and to give it back may be replaced by the plain one. -/
  mixes : ∀ t begun, u.lock.lockTx? begun t = u.lock.lock? t ∧
    u.lock.tryLockTx begun t = u.lock.tryLock t ∧
    (0 < u.out t → u.lock.unlockTx t = u.lock.unlock)

theorem Kept.takes (h : u.Kept) {x : RecursiveTurn} (hx : x.move.Takes) :
    ((u.step x).1 = true ↔ ∀ v ≠ x.thread, u.out v = 0) ∧
    ((u.step x).1 = false → (u.step x).2 = u) := by
  have hiff := h.tells.tryLock_iff x.thread
  have hfail := h.tells.eq_of_tryLock (t := x.thread)
  have hstep := h.step_takes hx
  cases hr : u.lock.tryLock x.thread with
  | mk got lock =>
    rw [hr] at hiff hfail hstep
    cases got with
    | true => rcases hstep with heq | heq <;> (rw [heq]; exact ⟨hiff, nofun⟩)
    | false =>
      have hsame : lock = u.lock := hfail rfl
      rw [hsame] at hstep
      rcases hstep with heq | heq <;> (rw [heq]; exact ⟨hiff, fun _ => rfl⟩)

theorem Kept.exclusive (h : u.Kept) : u.Exclusive where
  one_holder _ _ ht hv :=
    Option.some.inj ((h.tells.owner_of_pos ht).symm.trans (h.tells.owner_of_pos hv))
  owner := h.tells.owner_iff
  depth _ := h.tells.depth_eq
  depth_free := h.tells.depth_eq_zero
  isLocked := h.tells.isLocked_iff
  isHeldBy t := decide_eq_decide.mpr (h.tells.owner_iff t)
  takes _ hx := h.takes hx
  mixes t begun := ⟨RecursiveLock.lockTx?_eq h.plain begun t,
    RecursiveLock.tryLockTx_eq h.plain begun t,
    fun hpos => RecursiveLock.unlockTx_eq (h.tells.owner_of_pos hpos)⟩

/-- Threads that take a recursive lock, wait for it, try it, keep guards of it and give back what
they have taken, in whatever order, exclude each other, and the lock is free again when its holder
has given it back as often as it has taken it. -/
theorem exclusive_run (turns : List RecursiveTurn) (h : Shallow turns) :
    (run turns).Exclusive := (Kept.run h).exclusive

/-- Two threads. The second one fails as long as the first one has the lock, however the first one
took it and gives it back. -/
def contested : List RecursiveTurn :=
  [⟨1, .guard, false⟩, ⟨1, .lock .transaction, true⟩, ⟨2, .tryLock .plain, false⟩,
    ⟨1, .unlock .plain, false⟩, ⟨2, .tryGuard, true⟩, ⟨1, .dropGuard, false⟩,
    ⟨2, .lock .plain, false⟩, ⟨2, .tryGuard, false⟩]

theorem exclusive_run_contested : Shallow contested ∧ (run contested).Exclusive ∧
    (run contested).out 1 = 0 ∧ (run contested).out 2 = 2 := by
  have hshallow : Shallow contested := shallow_of_length (by decide)
  exact ⟨hshallow, exclusive_run contested hshallow, by decide, by decide⟩

end Sharing
end Dataplane
