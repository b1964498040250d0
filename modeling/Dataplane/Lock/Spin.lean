import Dataplane.Platform

/-! # Spin locks

A lock is one word that is taken or free. A lock built for a processor with transactions can also be
entered without taking it: the processor then watches the word, and says whether it began such a
transaction and whether one is still going on.
-/
namespace Dataplane

structure SpinLock where
  isLocked : Bool := false
  /-- Whether the lock may be entered by a transaction. -/
  elides : Bool := false
  deriving DecidableEq, Repr

/-- The plain way into a lock, or the one through a transaction where the lock allows it. -/
inductive Way
  | plain
  | transaction
  deriving DecidableEq, Repr

namespace SpinLock

def create (c : Capabilities) : SpinLock := { elides := c.transactions }

def tryLock (l : SpinLock) : Bool × SpinLock :=
  if l.isLocked then (false, l) else (true, { l with isLocked := true })

/-- The lock once it is taken. `none` as long as the caller has to wait. -/
def lock? (l : SpinLock) : Option SpinLock :=
  match l.tryLock with
  | (true, l) => some l
  | (false, _) => none

def unlock (l : SpinLock) : SpinLock := { l with isLocked := false }

/-- Enters by a transaction if the processor has begun one, else takes the lock. -/
def tryLockTx (begun : Bool) (l : SpinLock) : Bool × SpinLock :=
  if l.elides && begun then (true, l) else l.tryLock

def lockTx? (begun : Bool) (l : SpinLock) : Option SpinLock :=
  if l.elides && begun then some l else l.lock?

/-- Ends the transaction that entered the lock, or gives the lock back. -/
def unlockTx (inside : Bool) (l : SpinLock) : SpinLock :=
  if l.elides && inside && !l.isLocked then l else l.unlock

def debug (l : SpinLock) : String :=
  s!"SpinLock \x7b locked: {l.isLocked}, elide: {l.elides} \x7d"

@[simp] theorem tryLock_elides (l : SpinLock) : l.tryLock.2.elides = l.elides := by
  cases h : l.isLocked <;> simp [tryLock, h]

end SpinLock
end Dataplane
