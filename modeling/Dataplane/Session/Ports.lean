import Dataplane.Port.Lifecycle
import Dataplane.Session.Basic
import Dataplane.Session.Command

/-! # Commands on ports -/
namespace Dataplane
namespace Session

/-- Runs an operation that has nothing to say when it succeeds. -/
def settlePort (s : Session) (r : Except Fault Unit × Fabric) : Step :=
  match r with
  | (.error e, fabric) => (.fault e, { s with fabric })
  | (.ok (), fabric) => (.ok .done, { s with fabric })

/-- Makes ports with numbered names until one cannot be made. The last one is the answer. -/
def addLoopbacks (f : Fabric) (name : String) (first : Nat) :
    (draws : List (Vector UInt8 6)) → (last : Option Nat) → Except Fault (Option Nat) × Fabric
  | [], last => (.ok last, f)
  | octets :: draws, _ =>
    match f.createLoopback s!"{name}{first}" (.drawn octets) with
    | (.error e, f) => (.error e, f)
    | (.ok number, f) => addLoopbacks f name (first + 1) draws (some number)

def runPort (s : Session) : PortCommand → Step
  | .renew => (.ok .done, { s with fabric := s.fabric.renew s.refersTo })
  | .pair a b first second =>
    match s.fabric.createPair a b (.drawn first) (.drawn second) with
    | (.error e, fabric) => (.fault e, { s with fabric })
    | (.ok (first, second), fabric) => (.ok (.pair first second), { s with fabric })
  | .loopback name octets =>
    match s.fabric.createLoopback name (.drawn octets) with
    | (.error e, fabric) => (.fault e, { s with fabric })
    | (.ok number, fabric) => (.ok (.text (portText number)), { s with fabric })
  | .loopbacks name draws =>
    match addLoopbacks s.fabric name 0 draws none with
    | (.error e, fabric) => (.fault e, { s with fabric })
    | (.ok none, fabric) => (.ok .done, { s with fabric })
    | (.ok (some number), fabric) => (.ok (.text (portText number)), { s with fabric })
  | .identify port => s.withPort port fun p => (.ok (.text (portText (s.fabric.port p).number)), s)
  | .find name => (.ok (.number? (s.fabric.find? name)), s)
  | .countOpen => (.ok (.number s.fabric.openCount), s)
  | .numbers => (.ok (.numbers (s.fabric.registered.map fun p => (s.fabric.port p).number)), s)
  | .registryDebug => (.ok (.text s.fabric.registryDebug), s)
  | .debug port => s.withPort port fun p => (.ok (.text (s.fabric.portDebug p)), s)
  | .info port =>
    s.withPort port fun p => (.ok (.port (s.fabric.port p) (s.fabric.peerNumber p)), s)
  | .configure port rx tx config =>
    s.withPort port fun p => s.settlePort (s.fabric.configure p rx tx config)
  | .setupRx port queue descriptors =>
    s.withPort port fun p => s.settlePort (s.fabric.setupRx p queue descriptors)
  | .setupTx port queue descriptors =>
    s.withPort port fun p => s.settlePort (s.fabric.setupTx p queue descriptors)
  | .start port => s.withPort port fun p => s.settlePort (s.fabric.start p)
  | .stop port => s.withPort port fun p => s.settlePort (s.fabric.stop p)
  | .close port => s.withPort port fun p => s.settlePort (s.fabric.close p)
  | .setLink port up => s.withPort port fun p => s.settlePort (s.fabric.setLink p up)
  | .pauseRx port queue paused =>
    s.withPort port fun p => s.settlePort (s.fabric.pauseRx p queue paused)
  | .pauseTx port queue paused =>
    s.withPort port fun p => s.settlePort (s.fabric.pauseTx p queue paused)
  | .setMac port mac => s.withPort port fun p => s.settlePort (s.fabric.setMac p mac)
  | .mac port => s.withPort port fun p => (.ok (.text (s.fabric.port p).mac.text), s)
  | .macKind port =>
    s.withPort port fun p =>
      let mac := (s.fabric.port p).mac
      (.ok (.macKind mac.isLocal (!mac.isGroup)), s)
  | .setMtu port mtu => s.withPort port fun p => s.settlePort (s.fabric.setMtu p mtu)
  | .setPromiscuous port on =>
    s.withPort port fun p =>
      let fabric := s.fabric.setPromiscuous p on
      (.ok (.flag (fabric.port p).promiscuous), { s with fabric })
  | .stats port => s.withPort port fun p => (.ok (.stats (s.fabric.port p).stats), s)
  | .resetStats port =>
    s.withPort port fun p => (.ok .done, { s with fabric := s.fabric.resetStats p })
  | .forwardingMac port =>
    s.withPort port fun p => (.ok (.text (Mac.forwarding (s.fabric.port p).number).text), s)

end Session
end Dataplane
