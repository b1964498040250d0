import Dataplane.Lock.Spin

/-! # Recursive spin locks

A spin lock that its owner may take again. It counts how often the owner has taken it, and is free
when the owner has given it back as often. Threads are numbered.
-/
namespace Dataplane

structure RecursiveLock where
  spin : SpinLock := {}
  owner : Option Nat := none
  depth : UInt32 := 0
  deriving DecidableEq, Repr

namespace RecursiveLock

def create (c : Capabilities) : RecursiveLock := { spin := .create c }

def isLocked (l : RecursiveLock) : Bool := l.spin.isLocked

def isHeldBy (l : RecursiveLock) (t : Nat) : Bool := l.owner = some t

/-- Counts one more acquisition by the owner. -/
def deepen (l : RecursiveLock) : RecursiveLock := { l with depth := l.depth + 1 }

/-- Hands the lock to a thread that has just taken the spin lock in it. -/
def hand (l : RecursiveLock) (spin : SpinLock) (t : Nat) : RecursiveLock :=
  { l with spin, owner := some t }

def tryLock (t : Nat) (l : RecursiveLock) : Bool × RecursiveLock :=
  if l.isHeldBy t then (true, l.deepen)
  else
    match l.spin.tryLock with
    | (false, _) => (false, l)
    | (true, spin) => (true, (l.hand spin t).deepen)

/-- The lock once `t` has it. `none` as long as `t` has to wait. -/
def lock? (t : Nat) (l : RecursiveLock) : Option RecursiveLock :=
  match l.tryLock t with
  | (true, l) => some l
  | (false, _) => none

/-- Gives back one acquisition. Only the owner may do so. -/
def unlock (l : RecursiveLock) : RecursiveLock :=
  let l' := { l with depth := l.depth - 1 }
  if l.depth = 1 then { l' with owner := none, spin := l.spin.unlock } else l'

/-- Enters by a transaction if the processor has begun one and the thread is not the owner. -/
def tryLockTx (begun : Bool) (t : Nat) (l : RecursiveLock) : Bool × RecursiveLock :=
  if l.spin.elides && !l.isHeldBy t && begun then (true, l) else l.tryLock t

def lockTx? (begun : Bool) (t : Nat) (l : RecursiveLock) : Option RecursiveLock :=
  if l.spin.elides && !l.isHeldBy t && begun then some l else l.lock? t

/-- Gives back one acquisition of the owner. Any other thread only ends its transaction. -/
def unlockTx (t : Nat) (l : RecursiveLock) : RecursiveLock :=
  if l.isHeldBy t then l.unlock else l

def debug (l : RecursiveLock) : String :=
  s!"RecursiveSpinLock \x7b locked: {l.isLocked}, depth: {l.depth} \x7d"

end RecursiveLock
end Dataplane
