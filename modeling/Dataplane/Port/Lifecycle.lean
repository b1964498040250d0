import Dataplane.Fabric

/-! # The life of a port

A port is configured, gets its queues set up, and is started; only then are its queues handed out.
It is stopped when every queue is back, and closed when it is stopped. Every operation checks the
stage first, then its arguments in order, and changes nothing unless all checks pass.
-/
namespace Dataplane

namespace Port

def configurable (p : Port) (rx tx : Nat) (c : PortConfig) : Except Fault Unit := do
  p.requireStage [.unconfigured, .configured, .stopped] "configure needs a stopped port"
  checkQueueCounts rx tx
  checkMtu c.mtu

def settable (p : Port) (q count descriptors : Nat) : Except Fault Unit := do
  p.requireStage [.configured, .stopped] "queue setup needs a configured, stopped port"
  p.checkQueue q count
  checkDescriptors descriptors

def startable (p : Port) : Except Fault Unit := do
  p.requireStage [.configured, .stopped] "port is not configured or already started"
  if !p.allParked then throw (.badState "all queues must be set up before start")

def stoppable (p : Port) : Except Fault Unit := do
  p.requireStage [.started] "port is not started"
  if p.anyOut then throw (.badState "queue handles still in use")

def closable (p : Port) : Except Fault Unit :=
  p.requireStage [.unconfigured, .configured, .stopped] "stop the port before closing it"

def linkable (p : Port) : Except Fault Unit :=
  p.requireStage [.started] "link control needs a started port"

def pausable (p : Port) (q count : Nat) : Except Fault Unit := do
  p.requireStage [.started] "queue control needs a started port"
  p.checkQueue q count

end Port

namespace Fabric

/-- Sets the numbers of queues and the settings. Queues set up before are discarded. -/
def configure (f : Fabric) (p rx tx : Nat) (c : PortConfig) : Except Fault Unit × Fabric :=
  f.checked ((f.port p).configurable rx tx c) fun f =>
    (f.resetQueues p rx tx).updatePort p fun port =>
      { port with
        rxPaused := 0
        txPaused := 0
        mtu := c.mtu
        promiscuous := c.promiscuous
        rxCount := rx
        txCount := tx
        stage := .configured }

def setupRx (f : Fabric) (p q descriptors : Nat) : Except Fault Unit × Fabric :=
  f.checked ((f.port p).settable q (f.port p).rxCount descriptors) fun f =>
    f.installRing p q descriptors

/-- Sets up send queue `q`. What it holds is up to the receive queue it feeds. -/
def setupTx (f : Fabric) (p q descriptors : Nat) : Except Fault Unit × Fabric :=
  f.checked ((f.port p).settable q (f.port p).txCount descriptors) fun f =>
    f.updatePort p (·.setTx q (.parked ()))

def start (f : Fabric) (p : Nat) : Except Fault Unit × Fabric :=
  f.checked (f.port p).startable fun f =>
    f.updatePort p fun port =>
      { port with rxPaused := 0, txPaused := 0, linkUp := true, stage := .started }

def stop (f : Fabric) (p : Nat) : Except Fault Unit × Fabric :=
  f.checked (f.port p).stoppable fun f =>
    f.updatePort p fun port => { port with linkUp := false, stage := .stopped }

/-- Gives up the queues. A closed port is never used again. -/
def close (f : Fabric) (p : Nat) : Except Fault Unit × Fabric :=
  f.checked (f.port p).closable fun f =>
    (f.resetQueues p 0 0).updatePort p fun port =>
      { port with epoch := port.epoch + 1, rxCount := 0, txCount := 0, stage := .closed }

def setLink (f : Fabric) (p : Nat) (up : Bool) : Except Fault Unit × Fabric :=
  f.checked (f.port p).linkable fun f => f.updatePort p fun port => { port with linkUp := up }

/-- The mask with the bit of one queue set or cleared. -/
def pauseBit (mask : UInt64) (q : Nat) (paused : Bool) : UInt64 :=
  if paused then mask ||| queueBit q else mask &&& ~~~(queueBit q)

def pauseRx (f : Fabric) (p q : Nat) (paused : Bool) : Except Fault Unit × Fabric :=
  f.checked ((f.port p).pausable q (f.port p).rxCount) fun f =>
    f.updatePort p fun port => { port with rxPaused := pauseBit port.rxPaused q paused }

def pauseTx (f : Fabric) (p q : Nat) (paused : Bool) : Except Fault Unit × Fabric :=
  f.checked ((f.port p).pausable q (f.port p).txCount) fun f =>
    f.updatePort p fun port => { port with txPaused := pauseBit port.txPaused q paused }

def setMac (f : Fabric) (p : Nat) (mac : Mac) : Except Fault Unit × Fabric :=
  f.checked (checkStation mac) fun f => f.updatePort p fun port => { port with mac }

def setMtu (f : Fabric) (p mtu : Nat) : Except Fault Unit × Fabric :=
  f.checked (checkMtu mtu) fun f => f.updatePort p fun port => { port with mtu }

def setPromiscuous (f : Fabric) (p : Nat) (on : Bool) : Fabric :=
  f.updatePort p fun port => { port with promiscuous := on }

def resetStats (f : Fabric) (p : Nat) : Fabric :=
  f.updatePort p fun port => { port with stats := {} }

end Fabric
end Dataplane
