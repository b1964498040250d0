import Dataplane.Lock.Spin

/-! # Spin mutexes

A value behind a spin lock. Whoever takes the lock gets a guard, and only through a guard is the
value read and written; giving up the guard gives back the lock.
-/
namespace Dataplane

structure SpinMutex (α : Type) where
  spin : SpinLock := {}
  value : α
  deriving DecidableEq, Repr

namespace SpinMutex

variable {α : Type}

def create (c : Capabilities) (a : α) : SpinMutex α := ⟨.create c, a⟩

/-- The mutex with a guard out. `none` as long as the caller has to wait. -/
def lock? (m : SpinMutex α) : Option (SpinMutex α) :=
  (m.spin.lockTx? false).map fun spin => { m with spin }

/-- The mutex with a guard out, or unchanged if a guard is out already. -/
def tryLock (m : SpinMutex α) : Except Fault Unit × SpinMutex α :=
  match m.spin.tryLockTx false with
  | (true, spin) => (.ok (), { m with spin })
  | (false, _) => (.error .contended, m)

/-- What a guard does when it is given up. -/
def release (m : SpinMutex α) : SpinMutex α := { m with spin := m.spin.unlockTx false }

def write (m : SpinMutex α) (a : α) : SpinMutex α := { m with value := a }

@[simp] theorem release_isLocked (m : SpinMutex α) : m.release.spin.isLocked = false := by
  simp [release, SpinLock.unlockTx, SpinLock.unlock]

end SpinMutex
end Dataplane
