import Dataplane.Buffer.Basic
import Dataplane.Port.Basic

/-! # The fabric

Everything that packets move through: the pools, the ports and the rings between them. A ring has a
sending and a receiving end with owners of their own. Frames that nobody fetched are dropped when
both ends of their ring are gone.
-/
namespace Dataplane

/-- A bounded queue of frames, the oldest first. -/
structure Ring where
  capacity : Nat
  frames : List Buffer := []
  hasProducer : Bool := true
  hasConsumer : Bool := true
  deriving DecidableEq, Repr

instance : Inhabited Ring := ⟨⟨0, [], false, false⟩⟩

def Ring.vacancy (r : Ring) : Nat := r.capacity - r.frames.length

structure Fabric where
  store : Store := {}
  /-- All ports ever made. Those before `base` belong to registries that are gone. -/
  ports : Array Port := #[]
  base : Nat := 0
  /-- All rings ever made. -/
  rings : Array Ring := #[]
  deriving DecidableEq, Repr

namespace Fabric

def port (f : Fabric) (p : Nat) : Port := f.ports.getD p default

def ring (f : Fabric) (r : Nat) : Ring := f.rings.getD r default

def updateStore (f : Fabric) (g : Store → Store) : Fabric := { f with store := g f.store }

def updatePort (f : Fabric) (p : Nat) (g : Port → Port) : Fabric :=
  { f with ports := f.ports.modify p g }

def updateRing (f : Fabric) (r : Nat) (g : Ring → Ring) : Fabric :=
  { f with rings := f.rings.modify r g }

/-- Drops the frames of a ring that has lost both ends. -/
def settle (f : Fabric) (r : Nat) : Fabric :=
  let ring := f.ring r
  if ring.hasProducer || ring.hasConsumer then f
  else (f.updateRing r fun ring => { ring with frames := [] }).updateStore (·.dropAll ring.frames)

def dropProducer (f : Fabric) (r : Nat) : Fabric :=
  (f.updateRing r fun ring => { ring with hasProducer := false }).settle r

def dropConsumer (f : Fabric) (r : Nat) : Fabric :=
  (f.updateRing r fun ring => { ring with hasConsumer := false }).settle r

/-- A new ring with both ends in the caller's hands. -/
def addRing (f : Fabric) (capacity : Nat) : Nat × Fabric :=
  (f.rings.size, { f with rings := f.rings.push { capacity } })

/-- Drops the ends that a table of receive queues and its inbox held. -/
def dropEnds (f : Fabric) (rx : List (QueueEnd Nat)) (inbox : List Inbox) : Fabric :=
  let f := (rx.filterMap QueueEnd.parked?).foldl dropConsumer f
  (inbox.filterMap Inbox.producer).foldl dropProducer f

def resetQueues (f : Fabric) (p rx tx : Nat) : Fabric :=
  let old := f.port p
  let f := f.updatePort p fun port =>
    { port with
      rx := List.replicate rx .absent
      tx := List.replicate tx .absent
      inbox := List.replicate rx {} }
  f.dropEnds old.rx old.inbox

/-- Puts a new ring behind a receive queue. The epoch of the queue is new too. -/
def installRing (f : Fabric) (p q capacity : Nat) : Fabric :=
  let old := f.port p
  let (r, f) := f.addRing capacity
  let f := f.updatePort p fun port =>
    { port.setRx q (.parked r) |>.setInbox q ⟨port.epoch + 1, some r⟩ with
      epoch := port.epoch + 1 }
  f.dropEnds (old.rx[q]?.toList) (old.inbox[q]?.toList)

def checked (f : Fabric) (check : Except Fault Unit) (effect : Fabric → Fabric) :
    Except Fault Unit × Fabric :=
  match check with
  | .error e => (.error e, f)
  | .ok () => (.ok (), effect f)

end Fabric
end Dataplane
