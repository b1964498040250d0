import Dataplane.Fault
import Dataplane.Lcore

/-! # Workers

Runs tasks on lcores and collects their results. A task that panics has no result, and whoever
waits for it learns the lcore instead.
-/
namespace Dataplane

structure Worker (α : Type) where
  lcore : Lcore
  result : Option α

namespace Worker

variable {α : Type}

def launch (l : Lcore) (task : Thread → Option α) : Worker α := ⟨l, task (({} : Thread).onLcore l)⟩

def wait (w : Worker α) : Except Fault α :=
  match w.result with
  | some a => .ok a
  | none => .error (.workerPanicked w.lcore.number)

/-- The results in order, or the first failure. -/
def waitAll : List (Worker α) → Except Fault (List α)
  | [] => .ok []
  | w :: rest => do
    let a ← w.wait
    let others ← waitAll rest
    return a :: others

end Worker

inductive Task
  | lcore
  | isMain
  | add (a b : UInt64)
  | panic
  deriving DecidableEq, Repr

inductive Task.Value
  | number (n : UInt64)
  | flag (b : Bool)
  deriving DecidableEq, Repr

def Task.run (task : Task) (t : Thread) : Option Task.Value :=
  match task with
  | lcore => some (.number (UInt64.ofNat ((t.lcore.map Lcore.number).getD Lcore.anyNumber)))
  | isMain => some (.flag t.isMain)
  | add a b => some (.number (a + b))
  | panic => none

end Dataplane
