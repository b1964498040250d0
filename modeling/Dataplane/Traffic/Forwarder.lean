import Dataplane.Buffer.Content
import Dataplane.Frame.Headers
import Dataplane.Port.Burst

/-! # Forwarders and sinks

A forwarder sends the frames that it receives out again, with new station addresses if it is told
to; frames that do not fit into the sending queue are dropped. A sink counts what it receives.
-/
namespace Dataplane

/-- The station addresses written into a forwarded frame. -/
structure Redirection where
  source : Mac
  destination : Mac
  deriving DecidableEq, Repr

namespace Redirection

/-- Writes both addresses over the first twelve octets. A shorter frame stays as it is. -/
def apply (r : Redirection) (frame : List UInt8) : List UInt8 :=
  if frame.length < 12 then frame
  else overwrite (overwrite frame 0 r.destination.bytes) 6 r.source.bytes

/-- The same on the frame in a buffer, which is first made private. -/
def applyTo (r : Redirection) (s : Store) (b : Buffer) : Except Fault (Buffer × Store) := do
  let (b, s) ← s.unshare b
  return (b, s.write b 0 (r.apply (s.data b)))

/-- Redirects a burst front to back. On a failure the buffers are as far redirected as they got. -/
def applyAll (r : Redirection) :
    (s : Store) → List Buffer → Except Fault Unit × List Buffer × Store
  | s, [] => (.ok (), [], s)
  | s, b :: rest =>
    match r.applyTo s b with
    | .error e => (.error e, b :: rest, s)
    | .ok (b, s) =>
      let (outcome, rest, s) := applyAll r s rest
      (outcome, b :: rest, s)

end Redirection

structure Forwarder where
  rx : RxQueue
  tx : TxQueue
  redirection : Option Redirection
  forwarded : Nat := 0
  deriving DecidableEq, Repr

namespace Forwarder

def prepare (w : Forwarder) (s : Store) (burst : List Buffer) :
    Except Fault Unit × List Buffer × Store :=
  match w.redirection with
  | none => (.ok (), burst, s)
  | some r => r.applyAll s burst

def step (w : Forwarder) (f : Fabric) : Except Fault Unit × Forwarder × Fabric :=
  let (burst, f) := f.rxBurst w.rx burstSize
  if burst.isEmpty then (.ok (), w, f)
  else
    match w.prepare f.store burst with
    | (.error e, burst, store) => (.error e, w, { f with store := store.dropAll burst })
    | (.ok (), burst, store) =>
      let (n, left, f) := { f with store }.txBurst w.tx burst
      (.ok (), { w with forwarded := w.forwarded + n }, f.updateStore (·.dropAll left))

def finish (w : Forwarder) (f : Fabric) : Fabric := (f.putTx w.tx).putRx w.rx

end Forwarder

structure Sink where
  rx : RxQueue
  received : Nat := 0
  deriving DecidableEq, Repr

namespace Sink

/-- One turn. Says what the frames of the burst were. -/
def step (w : Sink) (f : Fabric) : List (List UInt8) × Sink × Fabric :=
  let (burst, f) := f.rxBurst w.rx burstSize
  (burst.map f.store.data, { w with received := w.received + burst.length },
    f.updateStore (·.dropAll burst))

def report (w : Sink) (frame : List UInt8) : String :=
  let line := match Frame.addressLine frame with
    | .ok line => line
    | .error e => e.message
  s!"{queueText w.rx.queue}: {line}"

def finish (w : Sink) (f : Fabric) : Fabric := f.putRx w.rx

end Sink
end Dataplane
