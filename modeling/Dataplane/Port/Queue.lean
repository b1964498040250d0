import Dataplane.Fabric

/-! # Queue handles

A started port hands out its queues. At most one handle of a queue is out at a time, and giving it
back parks its end of the ring again. A send handle holds the sending end of the ring behind the
peer's receive queue of the same number, together with the epoch of that ring.
-/
namespace Dataplane

structure RxQueue where
  port : Nat
  queue : Nat
  ring : Nat
  deriving DecidableEq, Repr

structure TxQueue where
  port : Nat
  peer : Nat
  queue : Nat
  ring : Nat
  epoch : Nat
  deriving DecidableEq, Repr

namespace Fabric

def takeable (p : Port) (q count : Nat) : Except Fault Unit := do
  p.requireStage [.started] "queues are available only while started"
  p.checkQueue q count

def takeRx (f : Fabric) (p q : Nat) : Except Fault RxQueue × Fabric :=
  match takeable (f.port p) q (f.port p).rxCount with
  | .error e => (.error e, f)
  | .ok () =>
    match (f.port p).rx[q]? with
    | some (.parked r) => (.ok ⟨p, q, r⟩, f.updatePort p (·.setRx q .out))
    | _ => (.error (.badState "rx queue already taken"), f)

/-- Takes the table entry first and puts it back if the peer has no end to give. -/
def takeTx (f : Fabric) (p q : Nat) : Except Fault TxQueue × Fabric :=
  match takeable (f.port p) q (f.port p).txCount with
  | .error e => (.error e, f)
  | .ok () =>
    match (f.port p).tx[q]? with
    | some (.parked ()) =>
      let peer := (f.port p).peer
      let f := f.updatePort p (·.setTx q .out)
      match (f.port peer).inbox[q]? with
      | some ⟨epoch, some r⟩ =>
        (.ok ⟨p, peer, q, r, epoch⟩, f.updatePort peer (·.setInbox q ⟨epoch, none⟩))
      | _ =>
        (.error (.badState "peer rx queue not set up or in use"),
          f.updatePort p (·.setTx q (.parked ())))
    | _ => (.error (.badState "tx queue already taken"), f)

def putRx (f : Fabric) (h : RxQueue) : Fabric :=
  match (f.port h.port).rx[h.queue]? with
  | some .out => f.updatePort h.port (·.setRx h.queue (.parked h.ring))
  | _ => f.dropConsumer h.ring

/-- Parks the sending end if the peer still waits for that very end. -/
def putProducer (f : Fabric) (h : TxQueue) : Fabric :=
  match (f.port h.peer).inbox[h.queue]? with
  | some ⟨epoch, none⟩ =>
    if epoch = h.epoch then
      f.updatePort h.peer (·.setInbox h.queue ⟨epoch, some h.ring⟩)
    else f.dropProducer h.ring
  | _ => f.dropProducer h.ring

def putTx (f : Fabric) (h : TxQueue) : Fabric :=
  let f := f.putProducer h
  match (f.port h.port).tx[h.queue]? with
  | some .out => f.updatePort h.port (·.setTx h.queue (.parked ()))
  | _ => f

def pending (f : Fabric) (h : RxQueue) : Nat := (f.ring h.ring).frames.length

def freeSlots (f : Fabric) (h : TxQueue) : Nat := (f.ring h.ring).vacancy

end Fabric

def RxQueue.text (f : Fabric) (h : RxQueue) : String :=
  s!"{portText (f.port h.port).number}/{queueText h.queue}"

def TxQueue.text (f : Fabric) (h : TxQueue) : String :=
  s!"{portText (f.port h.port).number}/{queueText h.queue}"

end Dataplane
