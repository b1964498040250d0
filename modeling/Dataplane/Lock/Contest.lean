import Dataplane.Lock.Mutex
import Dataplane.Lock.Recursive

/-! # Contests for a lock

Any number of threads update one value under one lock. An update is four separate steps (take the
lock, read, write a function of what was read, give the lock back), and between two steps of a
thread the others may make any number of theirs.
-/
namespace Dataplane

/-- How a value of type `α` inside `σ` is guarded. `acquire` is `none` as long as the thread has to
wait. `attempt` fails instead. -/
structure Discipline (σ α : Type) where
  acquire : Nat → σ → Option σ
  attempt : Nat → σ → Except Fault Unit × σ
  release : Nat → σ → σ
  isLocked : σ → Bool
  read : σ → α
  write : σ → α → σ

inductive Phase (α : Type)
  | outside
  | entered
  | informed (seen : α)
  | written
  deriving DecidableEq, Repr

inductive Move (α : Type)
  | lock
  | tryLock
  | read
  | write (f : α → α)
  | release

structure Contest (σ α : Type) where
  guarded : σ
  phases : Array (Phase α)

namespace Discipline

/-- A value beside a lock. -/
def beside {ℓ α : Type} (acquire : Nat → ℓ → Option ℓ) (attempt : Nat → ℓ → Bool × ℓ)
    (release : Nat → ℓ → ℓ) (isLocked : ℓ → Bool) : Discipline (ℓ × α) α where
  acquire t p := (acquire t p.1).map fun l => (l, p.2)
  attempt t p :=
    let (got, l) := attempt t p.1
    (if got then .ok () else .error .contended, l, p.2)
  release t p := (release t p.1, p.2)
  isLocked p := isLocked p.1
  read := Prod.snd
  write p a := (p.1, a)

def spin {α : Type} : Discipline (SpinLock × α) α :=
  beside (fun _ => SpinLock.lock?) (fun _ => SpinLock.tryLock) (fun _ => SpinLock.unlock)
    SpinLock.isLocked

def spinTx {α : Type} : Discipline (SpinLock × α) α :=
  beside (fun _ => SpinLock.lockTx? false) (fun _ => SpinLock.tryLockTx false)
    (fun _ => SpinLock.unlockTx false) SpinLock.isLocked

/-- Takes the lock by trying until it succeeds. -/
def trying {α : Type} : Discipline (SpinLock × α) α :=
  beside (fun _ l => if l.tryLock.1 then some l.tryLock.2 else none) (fun _ => SpinLock.tryLock)
    (fun _ => SpinLock.unlock) SpinLock.isLocked

def recursive {α : Type} : Discipline (RecursiveLock × α) α :=
  beside RecursiveLock.lock? RecursiveLock.tryLock (fun _ => RecursiveLock.unlock)
    RecursiveLock.isLocked

def mutex {α : Type} : Discipline (SpinMutex α) α where
  acquire _ := SpinMutex.lock?
  attempt _ := SpinMutex.tryLock
  release _ := SpinMutex.release
  isLocked m := m.spin.isLocked
  read := SpinMutex.value
  write := SpinMutex.write

end Discipline

namespace Contest

variable {σ α : Type}

def phase (c : Contest σ α) (t : Nat) : Phase α := c.phases.getD t .outside

def enter (c : Contest σ α) (t : Nat) (guarded : σ) (p : Phase α) : Contest σ α :=
  ⟨guarded, c.phases.setIfInBounds t p⟩

/-- One step of thread `t`. A waiting thread stays where it is, a failed attempt is reported, and a
move that does not suit the phase does nothing. -/
def step (d : Discipline σ α) (c : Contest σ α) (t : Nat) (m : Move α) :
    Except Fault Unit × Contest σ α :=
  match m, c.phase t with
  | .lock, .outside =>
    match d.acquire t c.guarded with
    | some s => (.ok (), c.enter t s .entered)
    | none => (.ok (), c)
  | .tryLock, .outside =>
    match d.attempt t c.guarded with
    | (.ok (), s) => (.ok (), c.enter t s .entered)
    | (.error e, s) => (.error e, { c with guarded := s })
  | .read, .entered => (.ok (), c.enter t c.guarded (.informed (d.read c.guarded)))
  | .write f, .informed seen => (.ok (), c.enter t (d.write c.guarded (f seen)) .written)
  | .release, .written => (.ok (), c.enter t (d.release t c.guarded) .outside)
  | _, _ => (.ok (), c)

/-- What a thread does next in an update by `f`. -/
def following (f : α → α) : Phase α → Move α
  | .outside => .lock
  | .entered => .read
  | .informed _ => .write f
  | .written => .release

/-- One turn of a thread that still has `left t` updates to begin or to end. -/
def turn (d : Discipline σ α) (f : α → α) (p : Contest σ α × Array Nat) (t : Nat) :
    Contest σ α × Array Nat :=
  let (c, left) := p
  if left.getD t 0 = 0 then p
  else
    let c' := (c.step d t (following f (c.phase t))).2
    match c.phase t with
    | .written => (c', left.modify t (· - 1))
    | _ => (c', left)

/-- Rounds of one turn each, until no thread has an update left. -/
def rounds (d : Discipline σ α) (f : α → α) : (fuel : Nat) → Contest σ α × Array Nat → Contest σ α
  | 0, p => p.1
  | fuel + 1, p =>
    if p.2.all (· = 0) then p.1
    else rounds d f fuel ((List.range p.2.size).foldl (turn d f) p)

/-- Every thread makes the same number of updates. An update takes four steps, and in every round
some thread makes one. -/
def run (d : Discipline σ α) (f : α → α) (threads updates : Nat) (s : σ) : σ :=
  (rounds d f (4 * threads * updates + 1)
    (⟨s, Array.replicate threads .outside⟩, Array.replicate threads updates)).guarded

end Contest

/-- The ways to guard a counter. -/
inductive CounterLock
  | spin
  | spinTx
  | trying
  | recursive
  | mutex
  deriving DecidableEq, Repr

/-- The counter after every thread has counted to `n`, and whether the lock is left taken. -/
def CounterLock.count (threads n : Nat) : CounterLock → Nat × Bool
  | spin => result .spin ({}, 0)
  | spinTx => result .spinTx ({}, 0)
  | trying => result .trying ({}, 0)
  | recursive => result .recursive ({}, 0)
  | mutex => result .mutex { value := 0 }
where
  result {σ : Type} (d : Discipline σ Nat) (s : σ) : Nat × Bool :=
    let s := Contest.run d (· + 1) threads n s
    (d.read s, d.isLocked s)

end Dataplane
