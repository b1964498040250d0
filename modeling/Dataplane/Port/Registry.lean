import Dataplane.Fabric
import Dataplane.Text.Quoted

/-! # The registry of ports

Ports are made in pairs wired back to back or alone with their own ends joined. They are numbered
in the order of making, names are never used twice, and a closed port keeps both.
-/
namespace Dataplane

/-- Port numbers are 16-bit words. -/
def maxPorts : Nat := 65536

namespace Fabric

def portCount (f : Fabric) : Nat := f.ports.size - f.base

def registered (f : Fabric) : List Nat := (List.range f.portCount).map (f.base + ·)

def portOf (f : Fabric) (number : Nat) : Except Fault Nat :=
  if number < f.portCount then .ok (f.base + number) else .error (.badHandle (portText number))

/-- The number of the first of `n` ports from `p` on that has a name. -/
def seek (ports : Array Port) (name : String) : (n p : Nat) → Option Nat
  | 0, _ => none
  | n + 1, p =>
    if h : p < ports.size then
      if ports[p].name = name then some ports[p].number else seek ports name n (p + 1)
    else none

def find? (f : Fabric) (name : String) : Option Nat := seek f.ports name f.portCount f.base

def openCount (f : Fabric) : Nat :=
  f.registered.countP fun p => (f.port p).stage ≠ .closed

def checkName (f : Fabric) (name : String) : Except Fault Unit :=
  if (f.find? name).isSome then .error (.config s!"port name {name} already in use") else .ok ()

def checkRoom (f : Fabric) (n : Nat) : Except Fault Unit :=
  if f.portCount + n > maxPorts then .error (.config "too many ports") else .ok ()

def addPort (f : Fabric) (name : String) (peer : Nat) (mac : Mac) : Fabric :=
  { f with ports := f.ports.push { number := f.portCount, name, peer, mac } }

def createPair (f : Fabric) (a b : String) (macA macB : Mac) :
    Except Fault (Nat × Nat) × Fabric :=
  let check : Except Fault Unit := do
    f.checkName a
    f.checkName b
    if a = b then throw (.config s!"port name {a} used twice")
    f.checkRoom 2
  match check with
  | .error e => (.error e, f)
  | .ok () =>
    let first := f.ports.size
    (.ok (f.portCount, f.portCount + 1),
      (f.addPort a (first + 1) macA).addPort b first macB)

def createLoopback (f : Fabric) (name : String) (mac : Mac) : Except Fault Nat × Fabric :=
  let check : Except Fault Unit := do
    f.checkName name
    f.checkRoom 1
  match check with
  | .error e => (.error e, f)
  | .ok () => (.ok f.portCount, f.addPort name f.ports.size mac)

def peerNumber (f : Fabric) (p : Nat) : Nat := (f.port (f.port p).peer).number

def portDebug (f : Fabric) (p : Nat) : String :=
  let port := f.port p
  s!"EthDev \x7b id: PortId({port.number}), name: {Text.quote port.name}, "
    ++ s!"state: {port.stage.label}, peer: PortId({f.peerNumber p}) \x7d"

def registryDebug (f : Fabric) : String :=
  "Ports \x7b devs: [" ++ ", ".intercalate (f.registered.map f.portDebug) ++ "] \x7d"

/-- Gives up the queue tables of a port of a registry that is gone, unless a handle in somebody's
hands still refers to the port. -/
def abandon (f : Fabric) (inUse : Nat → Bool) (p : Nat) : Fabric :=
  if p < f.base ∧ !inUse p then f.resetQueues p 0 0 else f

/-- Starts an empty registry. The later port of a pair is given up before the earlier one. -/
def renew (f : Fabric) (inUse : Nat → Bool) : Fabric :=
  let old := f.registered
  let f := { f with base := f.ports.size }
  old.foldl
    (fun f p =>
      let peer := (f.port p).peer
      if peer ≤ p then (f.abandon inUse p).abandon inUse peer else f)
    f

end Fabric
end Dataplane
