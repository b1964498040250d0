import Dataplane.Port.Queue

/-! # Bursts

Frames move in bursts. A call moves what can be moved now and returns; a short burst is no failure.
Receiving drops frames that are too long or meant for another station, and goes on until enough were
delivered or the ring is empty. Sending fills the ring, or loses everything when a link is down.
-/
namespace Dataplane

def burstSize : Nat := 32

inductive Verdict
  | deliver
  | overlong
  | foreign
  deriving DecidableEq, Repr

/-- Whether a frame is meant for the station: it names a group or the station itself, or is too
short to name anyone. -/
def addressed (mac : Mac) (frame : List UInt8) : Bool :=
  match frame with
  | a :: b :: c :: d :: e :: g :: _ => a &&& 1 != 0 || [a, b, c, d, e, g] == mac.bytes
  | _ => true

def Port.judge (p : Port) (s : Store) (b : Buffer) : Verdict :=
  if b.window.size > p.maxFrame then .overlong
  else if !p.promiscuous && !addressed p.mac (s.head b 6) then .foreign
  else .deliver

structure Harvest where
  delivered : List Buffer := []
  dropped : List Buffer := []
  overlong : Nat := 0
  rest : List Buffer := []
  deriving DecidableEq, Repr

/-- Takes frames until `max` are delivered or none is left. -/
def harvest (judge : Buffer → Verdict) : (max : Nat) → List Buffer → Harvest
  | 0, frames => { rest := frames }
  | _ + 1, [] => {}
  | max + 1, b :: frames =>
    match judge b with
    | .deliver =>
      let h := harvest judge max frames
      { h with delivered := b :: h.delivered }
    | .overlong =>
      let h := harvest judge (max + 1) frames
      { h with dropped := b :: h.dropped, overlong := h.overlong + 1 }
    | .foreign =>
      let h := harvest judge (max + 1) frames
      { h with dropped := b :: h.dropped }

/-- Hands the buffers to `burst` until none is left or the attempts are used up. `burst` is told how
many attempts are to go, and says which buffers it has left. -/
def retrying {σ : Type} (burst : Nat → σ → List Buffer → List Buffer × σ) :
    (attempts : Nat) → σ → List Buffer → Except Fault Unit × List Buffer × σ
  | _, s, [] => (.ok (), [], s)
  | 0, s, bufs => (.error (.exhausted .queue), bufs, s)
  | attempts + 1, s, bufs =>
    let (left, s) := burst attempts s bufs
    retrying burst attempts s left

def totalSize (bs : List Buffer) : Nat := bs.foldr (fun b n => b.window.size + n) 0

def Stats.received (s : Stats) (h : Harvest) : Stats :=
  { s with
    receivedFrames := s.receivedFrames + h.delivered.length
    receivedBytes := s.receivedBytes + totalSize h.delivered
    receiveErrors := s.receiveErrors + h.overlong }

def Stats.sent (s : Stats) (bs : List Buffer) : Stats :=
  { s with
    sentFrames := s.sentFrames + bs.length
    sentBytes := s.sentBytes + totalSize bs }

def Stats.lost (s : Stats) (n : Nat) : Stats := { s with sendErrors := s.sendErrors + n }

namespace Fabric

/-- Up to `max` frames in the order of arrival. A paused queue delivers none and keeps its
frames. -/
def rxBurst (f : Fabric) (h : RxQueue) (max : Nat) : List Buffer × Fabric :=
  let port := f.port h.port
  if isPaused port.rxPaused h.queue then ([], f)
  else
    let got := harvest (port.judge f.store) max (f.ring h.ring).frames
    let f := f.updateRing h.ring fun r => { r with frames := got.rest }
    let f := f.updateStore (·.dropAll got.dropped)
    (got.delivered, f.updatePort h.port fun p => { p with stats := p.stats.received got })

/-- Sends from the front of `bufs`. Says how many were taken, and which were left. A paused queue
takes none. A queue whose link or whose peer's link is down takes all of them and loses them. -/
def txBurst (f : Fabric) (h : TxQueue) (bufs : List Buffer) : Nat × List Buffer × Fabric :=
  let port := f.port h.port
  if isPaused port.txPaused h.queue then (0, bufs, f)
  else if !(port.linkUp && (f.port h.peer).linkUp) then
    let f := f.updateStore (·.dropAll bufs)
    (bufs.length, [],
      f.updatePort h.port fun p => { p with stats := p.stats.lost bufs.length })
  else
    let n := min bufs.length (f.freeSlots h)
    let f := f.updateRing h.ring fun r => { r with frames := r.frames ++ bufs.take n }
    (n, bufs.drop n,
      f.updatePort h.port fun p => { p with stats := p.stats.sent (bufs.take n) })

/-- Sends again until nothing is left or the attempts are used up. What others do to the fabric
after the attempt with `n` attempts to go is `between n`. -/
def txRetry (between : Nat → Fabric → Fabric) (h : TxQueue) :
    (attempts : Nat) → Fabric → List Buffer → Except Fault Unit × List Buffer × Fabric :=
  retrying fun n f bufs =>
    let (_, left, f) := f.txBurst h bufs
    (left, between n f)

end Fabric
end Dataplane
