import Dataplane.Flat.Basic
import Dataplane.Port.Burst

/-! # Queues and bursts through the flat interface

A burst moves all buffers out of their registers first. Those that were sent are gone, and those
that were left go back to the registers that they came from.
-/
namespace Dataplane
namespace Flat

/-- The buffers behind the entries of an array, all of which must be there. -/
def entries? (f : Flat) (array : List (Option String)) : Option (List (String × Buffer)) :=
  array.mapM fun entry => do
    let m ← entry
    let b ← f.buffers.get? m
    return (m, b)

/-- Moves the buffers out of registers. -/
def forget (f : Flat) (ms : List String) : Flat :=
  { f with buffers := ms.foldl Registers.erase f.buffers }

/-- Moves buffers into registers, one after another. -/
def refill (f : Flat) (entries : List (String × Buffer)) : Flat :=
  entries.foldl (fun f e => f.setBuffer e.1 e.2) f

def sendEntries (f : Flat) (h : TxQueue) (entries : List (String × Buffer)) : Step :=
  let ms := entries.map Prod.fst
  let (n, left, fabric) := f.fabric.txBurst h (entries.map Prod.snd)
  (.sent (UInt16.ofNat n), ((f.setFabric fabric).forget ms).refill ((ms.drop n).zip left))

def send (f : Flat) (h : TxQueue) (array : Option (List (Option String))) (count : UInt16) : Step :=
  if count = 0 then (.sent 0, f)
  else
    match array with
    | none => (.sent 0, f.failNull)
    | some array =>
      match f.entries? (array.take count.toNat) with
      | none => (.sent 0, f.failNull)
      | some entries => f.sendEntries h entries

def receive (f : Flat) (h : RxQueue) (array : String) (count : UInt16) : Step :=
  let (bs, fabric) := f.fabric.rxBurst h count.toNat
  (.received (UInt16.ofNat bs.length) bs.length, (f.setFabric fabric).keepArray array 0 bs)

def dropRx (f : Flat) (h : Option RxQueue) : Flat :=
  f.setFabric (h.toList.foldl Fabric.putRx f.fabric)

def dropTx (f : Flat) (h : Option TxQueue) : Flat :=
  f.setFabric (h.toList.foldl Fabric.putTx f.fabric)

def takeRx (f : Flat) (number queue : Nat) (h : String) : Step :=
  match f.fabric.portOf number with
  | .error e => (.handle true, f.fail e)
  | .ok p =>
    match f.fabric.takeRx p queue with
    | (.error e, fabric) => (.handle true, (f.setFabric fabric).fail e)
    | (.ok x, fabric) =>
      (.handle false,
        { f.setFabric fabric with rxs := f.rxs.put h x }.dropRx (f.rxs.get? h))

def takeTx (f : Flat) (number queue : Nat) (h : String) : Step :=
  match f.fabric.portOf number with
  | .error e => (.handle true, f.fail e)
  | .ok p =>
    match f.fabric.takeTx p queue with
    | (.error e, fabric) => (.handle true, (f.setFabric fabric).fail e)
    | (.ok x, fabric) =>
      (.handle false,
        { f.setFabric fabric with txs := f.txs.put h x }.dropTx (f.txs.get? h))

def runQueue (f : Flat) : FlatQueueCall → Step
  | .takeRx port queue h => f.takeRx port queue h
  | .takeTx port queue h => f.takeTx port queue h
  | .putRx h => (.void, { f with rxs := f.rxs.erase h }.dropRx (f.rxs.get? h))
  | .putTx h => (.void, { f with txs := f.txs.erase h }.dropTx (f.txs.get? h))
  | .receive h array count =>
    match f.rxs.get? h, array with
    | some x, some array => f.receive x array count
    | _, _ => (.received 0 0, f.failNull)
  | .send h array count =>
    match f.txs.get? h with
    | some x => f.send x array count
    | none => (.sent 0, f.failNull)

end Flat
end Dataplane
