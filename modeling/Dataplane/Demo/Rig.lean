import Dataplane.Demo.CommandLine
import Dataplane.Frame.Udp
import Dataplane.Port.Lifecycle
import Dataplane.Port.Registry
import Dataplane.Traffic.Forwarder
import Dataplane.Traffic.Generator

/-! # Rigs

A rig is a demo that is set up: a pool, two ports wired back to back, and the workers that hold
their queues. Setting it up stops at the first thing that fails.
-/
namespace Dataplane

inductive DemoFault
  | noQueues
  | library (f : Fault)
  | frame (f : Frame.TooLong)
  deriving DecidableEq, Repr

def DemoFault.message : DemoFault → String
  | noQueues => "at least one queue is needed"
  | library f => f.message
  | frame f => f.message

/-- What the host decides: whether there is memory for the pool, and the octets that the addresses
of the two ports are made of. -/
structure DemoHost where
  hasMemory : Bool
  first : Vector UInt8 6
  second : Vector UInt8 6
  deriving DecidableEq, Repr

/-- A worker that failed has ended and given up what it held. -/
structure Rig where
  fabric : Fabric
  frame : List UInt8
  generators : Array (Except Fault Generator) := #[]
  forwarders : Array (Except Fault Forwarder) := #[]
  sinks : Array Sink := #[]
  /-- Whether the sinks print what they receive. -/
  talkative : Bool := false
  /-- What the sinks have printed. -/
  printed : List String := []

namespace Rig

/-- Goes on with the fabric that an operation left behind. -/
def attempt {α : Type} (r : Except Fault α × Fabric) : Except DemoFault (α × Fabric) :=
  match r with
  | (.ok a, f) => .ok (a, f)
  | (.error e, _) => .error (.library e)

def settled (r : Except Fault Unit × Fabric) : Except DemoFault Fabric := Prod.snd <$> attempt r

def openPool (host : DemoHost) (s : DemoSettings) : Except DemoFault (Nat × Store) :=
  match ({} : Store).create "demo" { buffers := s.buffers, cacheSize := s.cacheSize }
    host.hasMemory with
  | .ok r => .ok r
  | .error e => .error (.library e)

def setupQueue (p descriptors : Nat) (f : Fabric) (q : Nat) : Except DemoFault Fabric := do
  let f ← settled (f.setupRx p q descriptors)
  settled (f.setupTx p q descriptors)

/-- Configures a port with `n` queues in each direction, all of which receive foreign frames too,
and starts it. -/
def bringUp (n descriptors : Nat) (f : Fabric) (p : Nat) : Except DemoFault Fabric := do
  let f ← settled (f.configure p n n { promiscuous := true })
  let f ← (List.range n).foldlM (setupQueue p descriptors) f
  settled (f.start p)

def firstPort : Nat := 0

def secondPort : Nat := 1

/-- Two started ports with one queue in each direction. -/
def ringPair (host : DemoHost) (f : Fabric) (descriptors : Nat) : Except DemoFault Fabric := do
  let (_, f) ← attempt (f.createPair "ring0" "ring1" (.drawn host.first) (.drawn host.second))
  [firstPort, secondPort].foldlM (bringUp 1 descriptors) f

/-- Stops a port and starts it again with more queues. -/
def widen (n descriptors : Nat) (f : Fabric) (p : Nat) : Except DemoFault Fabric := do
  let f ← settled (f.stop p)
  bringUp n descriptors f p

def makeFrame (f : Fabric) (payload : Nat) : Except DemoFault (List UInt8) :=
  match Frame.udp (f.port firstPort).mac (f.port secondPort).mac payload with
  | .ok frame => .ok frame
  | .error e => .error (.frame e)

/-- Lets the first port receive only its own frames, and says what a forwarder has to write into
frames that go there. -/
def redirect (f : Fabric) : Except DemoFault (Redirection × Fabric) := do
  let f := f.setPromiscuous firstPort false
  let own := Mac.forwarding (f.port firstPort).number
  let f ← settled (f.setMac firstPort own)
  return (⟨(f.port secondPort).mac, own⟩, f)

/-- Sends from the first port to the second and from there back, and counts what comes back. -/
def forward (host : DemoHost) (s : DemoSettings) (updating : Bool) : Except DemoFault Rig := do
  let (p, store) ← openPool host s
  let f ← ringPair host { store } s.descriptors
  let (redirection, f) ← if updating then
      (fun r => (some r.1, r.2)) <$> redirect f
    else pure (none, f)
  let frame ← makeFrame f s.payload
  let (tx, f) ← attempt (f.takeTx firstPort 0)
  let (back, f) ← attempt (f.takeRx firstPort 0)
  let (rx, f) ← attempt (f.takeRx secondPort 0)
  let (out, f) ← attempt (f.takeTx secondPort 0)
  return {
    fabric := f
    frame
    generators := #[.ok { cache := Cache.create f.store p, tx }]
    forwarders := #[.ok { rx, tx := out, redirection }]
    sinks := #[{ rx := back }] }

def addLane (p : Nat) (r : Rig) (q : Nat) : Except DemoFault Rig := do
  let (tx, f) ← attempt (r.fabric.takeTx firstPort q)
  let (rx, f) ← attempt (f.takeRx secondPort q)
  return { r with
    fabric := f
    generators := r.generators.push (.ok { cache := Cache.create f.store p, tx })
    sinks := r.sinks.push { rx } }

/-- Sends from the first port to the second on any number of queues, and counts what arrives. -/
def meter (host : DemoHost) (s : DemoSettings) (queues : Nat) (talkative : Bool) :
    Except DemoFault Rig := do
  if queues = 0 then throw .noQueues
  let (p, store) ← openPool host s
  let f ← ringPair host { store } s.descriptors
  let f ← if queues > 1 then
      [firstPort, secondPort].foldlM (widen queues s.descriptors) f
    else pure f
  let frame ← makeFrame f s.payload
  (List.range queues).foldlM (addLane p) { fabric := f, frame, talkative }

def create (host : DemoHost) : Invocation → Except DemoFault Rig
  | .forward s updating => forward host s updating
  | .meter s queues debug => meter host s queues debug

/-- What a worker does next. Workers are numbered within their kind. -/
inductive Turn
  | generate (i : Nat)
  | forward (i : Nat)
  | receive (i : Nat)
  deriving DecidableEq, Repr

def generate (r : Rig) (i : Nat) (g : Generator) : Rig :=
  match g.step r.frame r.fabric with
  | (.error e, g, f) =>
    { r with fabric := g.finish f, generators := r.generators.setIfInBounds i (.error e) }
  | (.ok (), g, f) => { r with fabric := f, generators := r.generators.setIfInBounds i (.ok g) }

def forwardOn (r : Rig) (i : Nat) (w : Forwarder) : Rig :=
  match w.step r.fabric with
  | (.error e, w, f) =>
    { r with fabric := w.finish f, forwarders := r.forwarders.setIfInBounds i (.error e) }
  | (.ok (), w, f) => { r with fabric := f, forwarders := r.forwarders.setIfInBounds i (.ok w) }

def receive (r : Rig) (i : Nat) (w : Sink) : Rig :=
  let (frames, w, f) := w.step r.fabric
  let lines := if r.talkative then frames.map w.report else []
  { r with fabric := f, sinks := r.sinks.setIfInBounds i w, printed := r.printed ++ lines }

/-- One turn of one worker. A worker that is not there, or has ended, does nothing. -/
def turn (r : Rig) : Turn → Rig
  | .generate i =>
    match r.generators[i]? with
    | some (.ok g) => r.generate i g
    | _ => r
  | .forward i =>
    match r.forwarders[i]? with
    | some (.ok w) => r.forwardOn i w
    | _ => r
  | .receive i =>
    match r.sinks[i]? with
    | some w => r.receive i w
    | none => r

def round (r : Rig) : Rig :=
  let turns := (List.range r.generators.size).map Turn.generate
    ++ (List.range r.forwarders.size).map Turn.forward
    ++ (List.range r.sinks.size).map Turn.receive
  turns.foldl turn r

def rounds : (n : Nat) → Rig → Rig
  | 0, r => r
  | n + 1, r => rounds n r.round

/-- Why the workers that failed did so, the one launched first at the front. -/
def failures (r : Rig) : List Fault :=
  r.generators.toList.filterMap failure? ++ r.forwarders.toList.filterMap failure?
where
  failure? {α : Type} : Except Fault α → Option Fault
    | .error e => some e
    | .ok _ => none

def finish (r : Rig) : Fabric :=
  let f := (r.generators.toList.filterMap Except.toOption).foldl (fun f g => g.finish f) r.fabric
  let f := (r.forwarders.toList.filterMap Except.toOption).foldl (fun f w => w.finish f) f
  r.sinks.toList.foldl (fun f w => w.finish f) f

end Rig
end Dataplane
