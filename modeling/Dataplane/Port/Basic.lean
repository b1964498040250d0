import Dataplane.Fault
import Dataplane.Frame.Mac

/-! # Ports

A port has a stage of life, settings, counters, and a table entry for each of its queues. The entry
of a queue says whether its end of a ring is parked there or out in somebody's hands. Port and queue
numbers count from zero.
-/
namespace Dataplane

def etherHeaderLength : Nat := 14

def defaultMtu : Nat := 1500

def minMtu : Nat := 68

def maxMtu : Nat := 9600

def maxQueues : Nat := 64

def maxDescriptors : Nat := 16384

def defaultDescriptors : Nat := 1024

/-- Speed of a link that is up, in megabits per second. -/
def ringLinkSpeed : Nat := 10000

def ringDriverName : String := "net_ring"

def portText (number : Nat) : String := s!"port{number}"

def queueText (number : Nat) : String := s!"queue{number}"

def queueDebug (number : Nat) : String := s!"QueueId({number})"

inductive Stage
  | unconfigured
  | configured
  | started
  | stopped
  | closed
  deriving DecidableEq, Repr

def Stage.label : Stage → String
  | unconfigured => "Unconfigured"
  | configured => "Configured"
  | started => "Started"
  | stopped => "Stopped"
  | closed => "Closed"

/-- One end of a queue, as the port's table shows it. -/
inductive QueueEnd (α : Type)
  | absent
  | parked (a : α)
  | out
  deriving DecidableEq, Repr

namespace QueueEnd

variable {α : Type}

def isParked : QueueEnd α → Bool
  | parked _ => true
  | _ => false

def isOut : QueueEnd α → Bool
  | out => true
  | _ => false

def parked? : QueueEnd α → Option α
  | parked a => some a
  | _ => none

end QueueEnd

/-- Where the sending end of a receive ring is parked. The epoch changes whenever the ring is
replaced, so that an end of an older ring is recognised and not parked again. -/
structure Inbox where
  epoch : Nat := 0
  producer : Option Nat := none
  deriving DecidableEq, Repr

structure Stats where
  receivedFrames : Nat := 0
  sentFrames : Nat := 0
  receivedBytes : Nat := 0
  sentBytes : Nat := 0
  /-- Frames dropped on receipt because they were too long. -/
  receiveErrors : Nat := 0
  /-- Frames lost on sending because a link was down. -/
  sendErrors : Nat := 0
  deriving DecidableEq, Repr

structure PortConfig where
  mtu : Nat := defaultMtu
  promiscuous : Bool := false
  deriving DecidableEq, Repr

structure Port where
  number : Nat
  name : String
  /-- The port whose receive queues this one's send queues feed. -/
  peer : Nat
  mac : Mac
  stage : Stage := .unconfigured
  rxCount : Nat := 0
  txCount : Nat := 0
  socket : Nat := 0
  mtu : Nat := defaultMtu
  promiscuous : Bool := false
  linkUp : Bool := false
  /-- One bit for every paused queue. -/
  rxPaused : UInt64 := 0
  txPaused : UInt64 := 0
  stats : Stats := {}
  /-- The epoch of the newest ring. -/
  epoch : Nat := 0
  rx : List (QueueEnd Nat) := []
  tx : List (QueueEnd Unit) := []
  inbox : List Inbox := []
  deriving DecidableEq, Repr

def queueBit (q : Nat) : UInt64 := 1 <<< UInt64.ofNat q

def isPaused (mask : UInt64) (q : Nat) : Bool := mask &&& queueBit q != 0

namespace Port

instance : Inhabited Port := ⟨⟨0, "", 0, .forwarding 0, .unconfigured, 0, 0, 0, defaultMtu, false,
  false, 0, 0, {}, 0, [], [], []⟩⟩

def linkSpeed (p : Port) : Nat := if p.linkUp then ringLinkSpeed else 0

def maxFrame (p : Port) : Nat := p.mtu + etherHeaderLength

def anyOut (p : Port) : Bool := p.rx.any QueueEnd.isOut || p.tx.any QueueEnd.isOut

def allParked (p : Port) : Bool := p.rx.all QueueEnd.isParked && p.tx.all QueueEnd.isParked

def setRx (p : Port) (q : Nat) (e : QueueEnd Nat) : Port := { p with rx := p.rx.set q e }

def setTx (p : Port) (q : Nat) (e : QueueEnd Unit) : Port := { p with tx := p.tx.set q e }

def setInbox (p : Port) (q : Nat) (i : Inbox) : Port := { p with inbox := p.inbox.set q i }

def requireStage (p : Port) (allowed : List Stage) (what : String) : Except Fault Unit :=
  if p.stage ∈ allowed then .ok () else .error (.badState what)

def checkQueue (p : Port) (q count : Nat) : Except Fault Unit :=
  if q ≥ count then .error (.badHandle s!"{portText p.number} {queueText q}") else .ok ()

end Port

def checkMtu (mtu : Nat) : Except Fault Unit :=
  if mtu < minMtu ∨ mtu > maxMtu then .error (.config s!"mtu {mtu} not in {minMtu}..={maxMtu}")
  else .ok ()

def checkDescriptors (n : Nat) : Except Fault Unit :=
  if n = 0 ∨ n > maxDescriptors then
    .error (.config s!"descriptor count {n} not in 1..={maxDescriptors}")
  else .ok ()

def checkQueueCounts (rx tx : Nat) : Except Fault Unit :=
  if rx = 0 ∨ tx = 0 ∨ rx > maxQueues ∨ tx > maxQueues then
    .error (.config s!"queue counts {rx}/{tx} not in 1..={maxQueues}")
  else .ok ()

def checkStation (mac : Mac) : Except Fault Unit :=
  if mac.isGroup then .error (.config s!"{mac.text} is not a unicast address") else .ok ()

end Dataplane
