import Dataplane.Demo.Rig

/-! # Running a demo

A demo prints what it was told, runs its workers, and at the end prints the counters of its ports
and closes them. What it printed before a failure stays printed.
-/
namespace Dataplane

/-- What a demo printed, and the fabric that it left or why it failed. -/
structure Report where
  printed : List String
  outcome : Except DemoFault Fabric

namespace Demo

def switchText (on : Bool) : String := if on then "ON" else "OFF"

def settingsLines (s : DemoSettings) : List String :=
  [s!"* pool: {s.buffers} buffers, cache {s.cacheSize}",
    s!"* ring: {s.descriptors} descriptors",
    s!"* payload: {s.payload} bytes",
    match s.duration with
    | some d => s!"* duration: {d}s"
    | none => "* duration: until Ctrl-C"]

def header : Invocation → List String
  | .forward s updating =>
    "Starting packet forwarder:" :: settingsLines s ++ [s!"* mac updating: {switchText updating}"]
  | .meter s queues debug =>
    "Test ring0 -> ring1 started with parameters:" :: settingsLines s
      ++ [s!"* queues: {queues}", s!"* debug: {switchText debug}"]

def portLine (p : Port) : String :=
  let s := p.stats
  s!"{p.name}: rx {s.receivedFrames} pkts {s.receivedBytes} bytes ({s.receiveErrors} errors), "
    ++ s!"tx {s.sentFrames} pkts {s.sentBytes} bytes ({s.sendErrors} errors)"

/-- Stops and closes ports one after another. Each line is printed before its port is stopped. -/
def shutdown (f : Fabric) : List Nat → List String × Except DemoFault Fabric
  | [] => ([], .ok f)
  | p :: rest =>
    let line := portLine (f.port p)
    match Rig.settled (f.stop p) >>= fun f => Rig.settled (f.close p) with
    | .error e => ([line], .error e)
    | .ok f =>
      let (lines, outcome) := shutdown f rest
      (line :: lines, outcome)

/-- The end of a demo whose workers have been told to stop. -/
def conclude (r : Rig) : Report :=
  let f := r.finish
  match r.failures with
  | e :: _ => ⟨r.printed, .error (.library e)⟩
  | [] =>
    let (lines, outcome) := shutdown f f.registered
    ⟨r.printed ++ lines, outcome⟩

/-- A demo whose workers make `rounds` turns each before they are told to stop. -/
def run (host : DemoHost) (rounds : Nat) (i : Invocation) : Report :=
  match Rig.create host i with
  | .error e => ⟨header i, .error e⟩
  | .ok r =>
    let report := conclude (r.rounds rounds)
    { report with printed := header i ++ report.printed }

/-- After so many rounds every counter that ever moves has moved. -/
def enoughRounds : Nat := 8

/-- The counters that a running demo shows, by name. -/
def counters (r : Rig) : List (String × Nat) :=
  let sent := (r.generators.toList.filterMap Except.toOption).foldl (fun n g => n + g.sent) 0
  let forwarded :=
    (r.forwarders.toList.filterMap Except.toOption).foldl (fun n w => n + w.forwarded) 0
  let received := r.sinks.toList.foldl (fun n w => n + w.received) 0
  if r.forwarders.isEmpty then [("gen", sent), ("pkt", received)]
  else [("gen", sent), ("fwd", forwarded), ("rcv", received)]

/-- How far the counters have moved since they stood at `before`. -/
def rates (before : List (String × Nat)) (r : Rig) : String :=
  " ".intercalate ((counters r).map fun (name, n) =>
    s!"{name}/sec: {n - (before.lookup name).getD 0}")

end Demo
end Dataplane
