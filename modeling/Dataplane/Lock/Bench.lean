import Dataplane.Lock.Mutex
import Dataplane.Lock.Recursive
import Dataplane.Refusal
import Dataplane.Registers

/-! # A bench of locks

Scripts of lock operations by numbered threads, one operation at a time. Since nobody else runs
meanwhile, an operation that would have to wait is refused, as is one that a program must not make.
A lock lives as long as a guard of it does, also when its name is given to a new lock.
-/
namespace Dataplane

inductive LockKind
  | spin
  | recursive
  | mutex
  deriving DecidableEq, Repr

inductive BenchLock
  | spin (l : SpinLock)
  | recursive (l : RecursiveLock)
  | mutex (m : SpinMutex Int64)
  deriving DecidableEq, Repr

inductive LockCommand
  | create (l : String) (kind : LockKind) (caps : Capabilities) (value : Int64)
  | lock (l : String) (way : Way)
  | tryLock (l : String) (way : Way)
  | unlock (l : String) (way : Way)
  | debug (l : String)
  | elides (l : String)
  | guard (l g : String)
  | tryGuard (l g : String)
  | dropGuard (g : String)
  | get (g : String)
  | set (g : String) (value : Int64)
  | add (g : String) (value : Int64)
  /-- Adds to a mutex that nobody else can reach. -/
  | addExclusive (l : String) (value : Int64)
  /-- Takes a mutex apart and keeps its value. -/
  | consume (l : String)
  deriving Repr

inductive LockReply
  | done
  | flag (b : Bool)
  | value (n : Int64)
  | text (s : String)
  deriving DecidableEq, Repr

inductive LockOutcome
  | ok (r : LockReply)
  | fault (f : Fault)
  | refused (r : Refusal)
  deriving DecidableEq, Repr

/-- A guard belongs to the thread that made it. Each thread has names of its own for its guards. -/
structure BenchGuard where
  name : String
  thread : Nat
  lock : Nat
  deriving DecidableEq, Repr

structure Bench where
  /-- All locks ever made. -/
  locks : Array BenchLock := #[]
  names : Registers Nat := {}
  guards : List BenchGuard := []

inductive LockView
  | spin (isLocked : Bool)
  | recursive (isLocked : Bool) (depth : UInt32) (mine : Bool)
  | mutex (guards : Nat)
  deriving DecidableEq, Repr

namespace BenchLock

def create (kind : LockKind) (c : Capabilities) (value : Int64) : BenchLock :=
  match kind with
  | .spin => spin (.create c)
  | .recursive => recursive (.create c)
  | .mutex => mutex (.create c value)

def spinLock : BenchLock → SpinLock
  | spin l => l
  | recursive l => l.spin
  | mutex m => m.spin

def isMutex : BenchLock → Bool
  | mutex _ => true
  | _ => false

def debug : BenchLock → String
  | spin l => l.debug
  | recursive l => l.debug
  | mutex m => m.spin.debug

/-- The lock once `t` has it. -/
def acquire? (t : Nat) (way : Way) : BenchLock → Option BenchLock
  | spin l =>
    match way with
    | .plain => l.lock?.map spin
    | .transaction => (l.lockTx? false).map spin
  | recursive l =>
    match way with
    | .plain => (l.lock? t).map recursive
    | .transaction => (l.lockTx? false t).map recursive
  | mutex m => m.lock?.map mutex

def tryAcquire (t : Nat) (way : Way) : BenchLock → Bool × BenchLock
  | spin l =>
    let (got, l) := match way with
      | .plain => l.tryLock
      | .transaction => l.tryLockTx false
    (got, spin l)
  | recursive l =>
    let (got, l) := match way with
      | .plain => l.tryLock t
      | .transaction => l.tryLockTx false t
    (got, recursive l)
  | mutex m =>
    match m.tryLock with
    | (.ok (), m) => (true, mutex m)
    | (.error _, m) => (false, mutex m)

def giveBack (t : Nat) (way : Way) : BenchLock → BenchLock
  | spin l =>
    match way with
    | .plain => spin l.unlock
    | .transaction => spin (l.unlockTx false)
  | recursive l =>
    match way with
    | .plain => recursive l.unlock
    | .transaction => recursive (l.unlockTx t)
  | mutex m => mutex m.release

end BenchLock

namespace Bench

abbrev Step := LockOutcome × Bench

def refuse (b : Bench) (r : Refusal) : Step := (.refused r, b)

def setLock (b : Bench) (i : Nat) (l : BenchLock) : Bench :=
  { b with locks := b.locks.setIfInBounds i l }

def lockAt? (b : Bench) (l : String) : Option (Nat × BenchLock) := do
  let i ← b.names.get? l
  let lock ← b.locks[i]?
  return (i, lock)

def guardCount (b : Bench) (i : Nat) : Nat := b.guards.countP fun g => g.lock = i

def withLock (b : Bench) (l : String) (allowed : BenchLock → Bool) (k : Nat → BenchLock → Step) :
    Step :=
  match b.lockAt? l with
  | some (i, lock) => if allowed lock then k i lock else b.refuse .noLock
  | none => b.refuse .noLock

/-- Locks that allow transactions are entered only the plain way here. -/
def onWay (b : Bench) (lock : BenchLock) (way : Way) (k : Unit → Step) : Step :=
  if way = .transaction ∧ lock.spinLock.elides then b.refuse .needsTransactions else k ()

def guard? (b : Bench) (t : Nat) (g : String) : Option BenchGuard :=
  b.guards.find? fun x => x.thread = t && x.name = g

def withGuard (b : Bench) (t : Nat) (g : String) (k : BenchGuard → BenchLock → Step) : Step :=
  match b.guard? t g with
  | none => b.refuse .noGuard
  | some guard =>
    match b.locks[guard.lock]? with
    | none => b.refuse .noGuard
    | some lock => k guard lock

def withGuarded (b : Bench) (t : Nat) (g : String) (k : Nat → SpinMutex Int64 → Step) : Step :=
  b.withGuard t g fun guard lock =>
    match lock with
    | .mutex m => k guard.lock m
    | _ => b.refuse .noGuard

def mayGiveBack (t : Nat) : BenchLock → Bool
  | .spin l => l.isLocked
  | .recursive l => l.isHeldBy t
  | .mutex m => m.spin.isLocked

/-- A guard of a recursive lock is given up only by the owner of the lock. -/
def mayDrop (t : Nat) : BenchLock → Bool
  | .recursive l => l.isHeldBy t
  | _ => true

def keepGuard (b : Bench) (t i : Nat) (lock : BenchLock) (g : String) : Bench :=
  { b.setLock i lock with guards := ⟨g, t, i⟩ :: b.guards }

def forgetGuard (b : Bench) (guard : BenchGuard) : Bench :=
  { b with guards := b.guards.erase guard }

def withFreeMutex (b : Bench) (l : String) (k : Nat → SpinMutex Int64 → Step) : Step :=
  b.withLock l BenchLock.isMutex fun i lock =>
    match lock with
    | .mutex m => if b.guardCount i > 0 then b.refuse .wouldBlock else k i m
    | _ => b.refuse .noLock

def withNewGuard (b : Bench) (t : Nat) (l g : String) (k : Nat → BenchLock → Step) : Step :=
  if (b.guard? t g).isSome then b.refuse .guardInUse
  else b.withLock l (fun _ => true) fun i lock =>
    b.onWay lock .transaction fun _ => k i lock

/-- One command, run by thread `t`. -/
def exec (b : Bench) (t : Nat) : LockCommand → Step
  | .create l kind caps value =>
    (.ok .done,
      { b with
        locks := b.locks.push (.create kind caps value)
        names := b.names.put l b.locks.size })
  | .lock l way =>
    b.withLock l (!·.isMutex) fun i lock =>
      b.onWay lock way fun _ =>
        match lock.acquire? t way with
        | some lock => (.ok .done, b.setLock i lock)
        | none => b.refuse .wouldBlock
  | .tryLock l way =>
    b.withLock l (!·.isMutex) fun i lock =>
      b.onWay lock way fun _ =>
        let (got, lock) := lock.tryAcquire t way
        (.ok (.flag got), b.setLock i lock)
  | .unlock l way =>
    b.withLock l (!·.isMutex) fun i lock =>
      b.onWay lock way fun _ =>
        if mayGiveBack t lock then (.ok .done, b.setLock i (lock.giveBack t way))
        else b.refuse .notHeld
  | .debug l => b.withLock l (!·.isMutex) fun _ lock => (.ok (.text lock.debug), b)
  | .elides l =>
    b.withLock l (fun lock => match lock with | .spin _ => true | _ => false) fun _ lock =>
      (.ok (.flag lock.spinLock.elides), b)
  | .guard l g =>
    b.withNewGuard t l g fun i lock =>
      match lock.acquire? t .transaction with
      | some lock => (.ok (.flag true), b.keepGuard t i lock g)
      | none => b.refuse .wouldBlock
  | .tryGuard l g =>
    b.withNewGuard t l g fun i lock =>
      match lock.tryAcquire t .transaction with
      | (true, lock) => (.ok (.flag true), b.keepGuard t i lock g)
      | (false, _) => (.fault .contended, b)
  | .dropGuard g =>
    b.withGuard t g fun guard lock =>
      if mayDrop t lock then
        (.ok .done,
          (b.setLock guard.lock (lock.giveBack t .transaction)).forgetGuard guard)
      else b.refuse .notHeld
  | .get g => b.withGuarded t g fun _ m => (.ok (.value m.value), b)
  | .set g value =>
    b.withGuarded t g fun i m => (.ok (.value value), b.setLock i (.mutex (m.write value)))
  | .add g value =>
    b.withGuarded t g fun i m =>
      let m := m.write (m.value + value)
      (.ok (.value m.value), b.setLock i (.mutex m))
  | .addExclusive l value =>
    b.withFreeMutex l fun i m =>
      let m := m.write (m.value + value)
      (.ok (.value m.value), b.setLock i (.mutex m))
  | .consume l =>
    b.withFreeMutex l fun _ m => (.ok (.value m.value), { b with names := b.names.erase l })

def views (b : Bench) (t : Nat) : List (String × LockView) :=
  b.names.entries.filterMap fun (name, i) =>
    b.locks[i]?.map fun lock =>
      (name, match lock with
        | .spin l => .spin l.isLocked
        | .recursive l => .recursive l.isLocked l.depth (l.isHeldBy t)
        | .mutex _ => .mutex (b.guardCount i))

end Bench
end Dataplane
