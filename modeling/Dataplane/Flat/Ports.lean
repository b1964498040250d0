import Dataplane.Flat.Basic
import Dataplane.Port.Lifecycle

/-! # Ports through the flat interface

A missing pointer for results is reported before the port is looked up. Results that were not
written keep the zeros that the caller put there.
-/
namespace Dataplane
namespace Flat

def onPort (f : Flat) (number : Nat) (g : Nat → Except Fault Unit × Fabric) : Step :=
  match f.fabric.portOf number with
  | .error e => f.status (.error e)
  | .ok p =>
    let (r, fabric) := g p
    (f.setFabric fabric).status r

/-- Reads something off a port. `out` makes the reply of a result and of what was written. -/
def readPort {α : Type} (f : Flat) (number : Nat) (hasOut : Bool)
    (out : Int32 → Option α → FlatReply) (g : Port → α) : Step :=
  if hasOut then
    match f.fabric.portOf number with
    | .error e => (out e.code none, f.fail e)
    | .ok p => (out 0 (some (g (f.fabric.port p))), f)
  else (out Fault.nullHandle none, f.failNull)

/-- Runs what makes or finds a port. The result is its number or the code of the failure. -/
def numbered (f : Flat) (r : Except Fault Nat × Fabric) : Step :=
  match r with
  | (.error e, fabric) => (.int e.code, (f.setFabric fabric).fail e)
  | (.ok number, fabric) => (.int (Int32.ofNat number), f.setFabric fabric)

def intOfPort (f : Flat) (number : Nat) (g : Port → Nat) : Step :=
  match f.fabric.portOf number with
  | .error e => (.int e.code, f.fail e)
  | .ok p => (.int (Int32.ofNat (g (f.fabric.port p))), f)

def withName (f : Flat) (name : Option (List UInt8)) (k : String → Step) : Step :=
  match name with
  | some octets => k (nameText octets)
  | none => (.int Fault.nullHandle, f.failNull)

def createPair (f : Flat) (a b : Option (List UInt8)) (hasOut : Bool)
    (first second : Vector UInt8 6) : Step :=
  match a, b with
  | some a, some b =>
    match f.fabric.createPair (nameText a) (nameText b) (.drawn first) (.drawn second) with
    | (.error e, fabric) => (.ports e.code none, (f.setFabric fabric).fail e)
    | (.ok numbers, fabric) =>
      (.ports 0 (if hasOut then some numbers else none), f.setFabric fabric)
  | _, _ => (.ports Fault.nullHandle none, f.failNull)

def findPort (f : Flat) (name : String) : Except Fault Nat :=
  match f.fabric.find? name with
  | some number => .ok number
  | none => .error (.badHandle name)

def runPort (f : Flat) : FlatPortCall → Step
  | .countOpen => (.unsigned (UInt16.ofNat f.fabric.openCount).toNat, f)
  | .createPair a b hasOut first second => f.createPair a b hasOut first second
  | .createLoopback name octets =>
    f.withName name fun name => f.numbered (f.fabric.createLoopback name (.drawn octets))
  | .find name => f.withName name fun name => f.numbered (f.findPort name, f.fabric)
  | .configure port rx tx => f.onPort port fun p => f.fabric.configure p rx tx {}
  | .setupRx port queue descriptors => f.onPort port fun p => f.fabric.setupRx p queue descriptors
  | .setupTx port queue descriptors => f.onPort port fun p => f.fabric.setupTx p queue descriptors
  | .start port => f.onPort port f.fabric.start
  | .stop port => f.onPort port f.fabric.stop
  | .close port => f.onPort port f.fabric.close
  | .setLink port up => f.onPort port fun p => f.fabric.setLink p up
  | .pauseRx port queue paused => f.onPort port fun p => f.fabric.pauseRx p queue paused
  | .pauseTx port queue paused => f.onPort port fun p => f.fabric.pauseTx p queue paused
  | .info port hasOut => f.readPort port hasOut .info id
  | .socket port => f.intOfPort port Port.socket
  | .mac port hasOut => f.readPort port hasOut .mac Port.mac
  | .setMac port mac =>
    match mac with
    | none => (.int Fault.nullHandle, f.failNull)
    | some mac => f.onPort port fun p => f.fabric.setMac p mac
  | .mtu port hasOut => f.readPort port hasOut (fun n mtu => .mtu n (mtu.getD 0)) Port.mtu
  | .setMtu port mtu => f.onPort port fun p => f.fabric.setMtu p mtu
  | .setPromiscuous port on => f.onPort port fun p => (.ok (), f.fabric.setPromiscuous p on)
  | .promiscuous port => f.intOfPort port fun p => if p.promiscuous then 1 else 0
  | .link port hasOut =>
    f.readPort port hasOut
      (fun n link => .link n ((link.map Prod.fst).getD false) ((link.map Prod.snd).getD 0))
      fun p => (p.linkUp, p.linkSpeed)
  | .stats port hasOut =>
    f.readPort port hasOut (fun n stats => .stats n (stats.getD {})) Port.stats
  | .resetStats port => f.onPort port fun p => (.ok (), f.fabric.resetStats p)

end Flat
end Dataplane
