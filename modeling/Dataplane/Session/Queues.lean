import Dataplane.Session.Basic
import Dataplane.Session.Command
import Dataplane.Traffic.Generator

/-! # Commands on queue handles -/
namespace Dataplane
namespace Session

/-- What is answered when a handle is given back. A port named beside it must exist, but the handle
is given back in any case. -/
def givenBack (s : Session) (port : Option Nat) : Outcome :=
  match port with
  | none => .ok .done
  | some number =>
    match s.fabric.portOf number with
    | .ok _ => .ok .done
    | .error e => .fault e

/-- A generator that was stopped before its first turn sends nothing. -/
def generate (f : Fabric) (p : Nat) (tx : TxQueue) (frame : List UInt8) (goal : Nat)
    (stopped : Bool) : Except Fault Unit × Nat × Fabric :=
  if stopped then (.ok (), 0, f.putTx tx) else Generator.run frame goal p tx f

def runQueue (s : Session) : QueueCommand → Step
  | .takeRx port queue h =>
    s.withPort port fun p =>
      match s.fabric.takeRx p queue with
      | (.error e, fabric) => (.fault e, { s with fabric })
      | (.ok x, fabric) =>
        (.ok (.text (x.text fabric)), { s with fabric }.keepRx h x)
  | .takeTx port queue h =>
    s.withPort port fun p =>
      match s.fabric.takeTx p queue with
      | (.error e, fabric) => (.fault e, { s with fabric })
      | (.ok x, fabric) =>
        (.ok (.text (x.text fabric)), { s with fabric }.keepTx h x)
  | .putRx h port =>
    s.withRx h fun x => (s.givenBack port, { s with rxs := s.rxs.erase h }.releaseRx x)
  | .putTx h port =>
    s.withTx h fun x => (s.givenBack port, { s with txs := s.txs.erase h }.releaseTx x)
  | .pending h => s.withRx h fun x => (.ok (.number (s.fabric.pending x)), s)
  | .freeSlots h => s.withTx h fun x => (.ok (.number (s.fabric.freeSlots x)), s)
  | .receive h v max =>
    s.withRx h fun x =>
      let (bs, fabric) := s.fabric.rxBurst x max
      (.ok (.received (bs.map fabric.store.frameView) (fabric.pending x)),
        { s with fabric }.setBatch v (s.batch v ++ bs))
  | .send h v =>
    s.withTx h fun x =>
      let (n, left, fabric) := s.fabric.txBurst x (s.batch v)
      (.ok (.sent n (slotsOf left) (fabric.freeSlots x)), { s with fabric }.setBatch v left)
  | .retry h v attempts =>
    s.withTx h fun x =>
      let (outcome, left, fabric) :=
        Fabric.txRetry (fun _ f => f) x attempts s.fabric (s.batch v)
      let s := { s with fabric }.setBatch v left
      match outcome with
      | .error e => (.faultLeft e (slotsOf left), s)
      | .ok () => (.ok (.retried (fabric.freeSlots x)), s)
  | .generate p h frame goal stopped =>
    s.withPool p fun n =>
      s.withTx h fun x =>
        let s := { s with txs := s.txs.erase h }
        let (outcome, sent, fabric) := generate s.fabric n x frame goal stopped
        let fabric := (fabric.abandon s.refersTo x.port).abandon s.refersTo x.peer
        let failed := match outcome with
          | .error e => some e
          | .ok () => none
        (.ok (.generated sent failed), { s with fabric })

end Session
end Dataplane
