/-! # Refusals

Why a scripted command is not run. A refusal is no fault of the library: it says that the script
names something that is not there, or asks for what a program must not do or could never finish.
-/
namespace Dataplane

inductive Refusal
  /-- A register is empty. -/
  | noSuch
  | outOfRange
  /-- The caller would wait for itself. -/
  | wouldBlock
  | notHeld
  | noLock
  | noGuard
  | needsTransactions
  | guardInUse
  | noLcore
  /-- The operation gave up without returning. -/
  | panicked
  deriving DecidableEq, Repr

end Dataplane
