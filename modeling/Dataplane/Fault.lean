import Dataplane.Text.Quoted

/-! # Faults

Why an operation fails. Each cause has one sentence for people (`message`), one negative number for
callers that only see numbers (`code`), and one debug form. Nothing else in the library words an
error.
-/
namespace Dataplane

inductive Resource
  | pool
  | queue
  deriving DecidableEq, Repr

inductive Fault
  | exhausted (what : Resource)
  | window (requested available : Nat)
  | contended
  | unsupported (feature : String)
  | badHandle (what : String)
  | badState (what : String)
  | shared
  | config (what : String)
  | workerPanicked (lcore : Nat)
  /-- A failure reported by the operating system under its own number. -/
  | system (number : Int32)
  /-- A failure of input or output that has no number. -/
  | other (text : String)
  deriving DecidableEq, Repr

namespace Resource

def label : Resource → String
  | pool => "Pool"
  | queue => "Queue"

def noun : Resource → String
  | pool => "buffer pool"
  | queue => "queue"

end Resource

namespace Fault

def message : Fault → String
  | exhausted what => s!"{what.noun} exhausted"
  | window requested available =>
    s!"invalid data window: {requested} bytes requested, {available} available"
  | contended => "lock is held by another owner"
  | unsupported feature => s!"unsupported feature: {feature}"
  | badHandle what => s!"invalid handle: {what}"
  | badState what => s!"invalid state: {what}"
  | shared => "buffer is shared with another handle"
  | config what => s!"invalid configuration: {what}"
  | workerPanicked lcore => s!"worker on lcore {lcore} panicked"
  | system number => s!"os error {number.toInt}"
  | other text => text

/-- The positive number of the cause. Numbers of the operating system pass unchanged. -/
def number : Fault → Int32
  | exhausted _ => 105
  | window _ _ => 22
  | config _ => 22
  | contended => 16
  | badState _ => 16
  | unsupported _ => 95
  | badHandle _ => 19
  | shared => 1
  | workerPanicked _ => 125
  | system number => number
  | other _ => 5

/-- The number that callers see. -/
def code (f : Fault) : Int32 := -f.number

/-- What a missing handle is reported as. -/
def nullHandle : Int32 := -22

def label : Fault → String
  | exhausted _ => "ResourceExhausted"
  | window _ _ => "InvalidWindow"
  | contended => "LockContended"
  | unsupported _ => "UnsupportedFeature"
  | badHandle _ => "InvalidHandle"
  | badState _ => "InvalidState"
  | shared => "SharedBuffer"
  | config _ => "Config"
  | workerPanicked _ => "WorkerPanicked"
  | system _ => "Io"
  | other _ => "Io"

def debug (f : Fault) : String :=
  match f with
  | exhausted what => s!"{f.label}({what.label})"
  | window requested available =>
    s!"{f.label} \x7b requested: {requested}, available: {available} \x7d"
  | contended => f.label
  | shared => f.label
  | unsupported text => s!"{f.label}({Text.quote text})"
  | badHandle text => s!"{f.label}({Text.quote text})"
  | badState text => s!"{f.label}({Text.quote text})"
  | config text => s!"{f.label}({Text.quote text})"
  | workerPanicked lcore => s!"{f.label}({lcore})"
  | system number => s!"{f.label}(Os \x7b code: {number.toInt} \x7d)"
  | other text =>
    s!"{f.label}(Custom \x7b kind: Other, error: {Text.quote text} \x7d)"

end Fault
end Dataplane
