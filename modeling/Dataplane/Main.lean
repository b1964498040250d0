import Dataplane.Demo.Report
import Dataplane.Platform

/-! # The demos as a program

Reads the command line, sets the demo up, and lets its workers take turns. Once a second it prints
how far the counters have moved, and it ends when the duration is over.
-/
namespace Dataplane
namespace Demo

def usage : String :=
  "Usage: burstio <COMMAND>\n\nCommands:\n"
    ++ "  forward  Generate traffic on one ring port and forward it back from the other\n"
    ++ "  meter    Generate traffic on one ring port and count it on the other\n"
    ++ "  help     Print this message\n\nOptions:\n"
    ++ "  --nb-bufs <N>  --cache-size <N>  --nb-desc <N>  --payload <N>  --duration <SECONDS>\n"
    ++ "  forward: --no-mac-updating\n"
    ++ "  meter: -q, --queues <N>  -d, --debug"

def complaint : UsageError → String
  | .noCommand => "a command is needed"
  | .unknownCommand => "unrecognized command"
  | .help => usage
  | .version => version
  | .unknownArgument => "unexpected argument"
  | .missingValue => "an option needs a value"
  | .badValue => "a value is not a number of its kind"
  | .repeated => "an option is given twice"
  | .needlessValue => "an option takes no value"

/-- Prints what the workers have printed since the last time. -/
def flush (r : Rig) : IO Rig := do
  r.printed.forM IO.println
  return { r with printed := [] }

/-- Lets the workers take turns until the duration is over. -/
partial def attend (i : Invocation) (elapsed next : Nat) (before : List (String × Nat)) (r : Rig) :
    IO Rig := do
  let r ← flush r.round
  if (← IO.monoMsNow) < next then attend i elapsed next before r
  else
    IO.println (rates before r)
    if i.settings.duration.any (· ≤ elapsed + 1) then return r
    else attend i (elapsed + 1) (next + 1000) (counters r) r

def drawOctets : IO (Vector UInt8 6) := do
  let bytes ← IO.getRandomBytes 6
  return .ofFn fun i => bytes.data.getD i 0

def start (i : Invocation) : IO UInt32 := do
  (header i).forM IO.println
  let host := { hasMemory := true, first := ← drawOctets, second := ← drawOctets }
  match Rig.create host i with
  | .error e =>
    IO.eprintln s!"Error: {e.message}"
    return 1
  | .ok r =>
    let r ← attend i 0 ((← IO.monoMsNow) + 1000) [] r
    let report := conclude r
    report.printed.forM IO.println
    match report.outcome with
    | .ok _ => return 0
    | .error e =>
      IO.eprintln s!"Error: {e.message}"
      return 1

end Demo
end Dataplane

def main (args : List String) : IO UInt32 :=
  match Dataplane.Invocation.parse args with
  | .ok i => Dataplane.Demo.start i
  | .error .help => IO.println Dataplane.Demo.usage *> pure 0
  | .error .version => IO.println Dataplane.version *> pure 0
  | .error e => IO.eprintln s!"error: {Dataplane.Demo.complaint e}" *> pure 2
