import Dataplane.Flat.Basic

/-! # Locks through the flat interface

There is one thread, so a spin lock that is taken never becomes free while a call waits for it: such
a call is refused.
-/
namespace Dataplane
namespace Flat

def intOf (b : Bool) : Int32 := if b then 1 else 0

def withSpin (f : Flat) (l : String) (null : FlatReply) (k : SpinLock → Step) : Step :=
  match f.spins.get? l with
  | some x => k x
  | none => (null, f.failNull)

def withRecursive (f : Flat) (l : String) (null : FlatReply) (k : RecursiveLock → Step) : Step :=
  match f.recursives.get? l with
  | some x => k x
  | none => (null, f.failNull)

def setSpin (f : Flat) (l : String) (x : SpinLock) : Flat := { f with spins := f.spins.put l x }

def setRecursive (f : Flat) (l : String) (x : RecursiveLock) : Flat :=
  { f with recursives := f.recursives.put l x }

def runLock (f : Flat) : FlatLockCall → Step
  | .create l => (.handle false, f.setSpin l (.create f.machine.capabilities))
  | .free l => (.void, { f with spins := f.spins.erase l })
  | .lock l way =>
    f.withSpin l .void fun x =>
      let taken := match way with
        | .plain => x.lock?
        | .transaction => x.lockTx? false
      match taken with
      | some x => (.void, f.setSpin l x)
      | none => (.refused .wouldBlock, f)
  | .tryLock l way =>
    f.withSpin l (.int Fault.nullHandle) fun x =>
      let (got, x) := match way with
        | .plain => x.tryLock
        | .transaction => x.tryLockTx false
      (.int (intOf got), f.setSpin l x)
  | .unlock l way =>
    f.withSpin l .void fun x =>
      match way with
      | .plain => (.void, f.setSpin l x.unlock)
      | .transaction => (.void, f.setSpin l (x.unlockTx false))
  | .isLocked l =>
    f.withSpin l (.int Fault.nullHandle) fun x => (.int (intOf x.isLocked), f)
  | .createRecursive l => (.handle false, f.setRecursive l (.create f.machine.capabilities))
  | .freeRecursive l => (.void, { f with recursives := f.recursives.erase l })
  | .lockRecursive l way =>
    f.withRecursive l .void fun x =>
      let taken := match way with
        | .plain => x.lock? caller
        | .transaction => x.lockTx? false caller
      match taken with
      | some x => (.void, f.setRecursive l x)
      | none => (.refused .wouldBlock, f)
  | .tryLockRecursive l way =>
    f.withRecursive l (.int Fault.nullHandle) fun x =>
      let (got, x) := match way with
        | .plain => x.tryLock caller
        | .transaction => x.tryLockTx false caller
      (.int (intOf got), f.setRecursive l x)
  | .unlockRecursive l way =>
    f.withRecursive l .void fun x =>
      if x.isHeldBy caller then
        let x := match way with
          | .plain => x.unlock
          | .transaction => x.unlockTx caller
        (.depth x.depth x.isLocked, f.setRecursive l x)
      else (.refused .notHeld, f)

end Flat
end Dataplane
