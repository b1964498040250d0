import Dataplane.Flat.Buffers
import Dataplane.Flat.Locks
import Dataplane.Flat.Ports
import Dataplane.Flat.Queues

/-! # Running flat calls -/
namespace Dataplane
namespace Flat

def nodeOf (f : Flat) (lcore : Nat) : Step :=
  match f.machine.topology.lcore? lcore with
  | some _ => (.int 0, f)
  | none => (.int Fault.nullHandle, f.failNull)

def runQuery (f : Flat) : FlatQuery → Step
  | .init => (.int 0, f)
  | .lastError => (.int f.lastError, f)
  | .version => (.text version, f)
  | .cacheLine => (.unsigned cacheLine.toNat, f)
  | .transactions => (.int (intOf f.machine.capabilities.transactions), f)
  | .lcoreCount => (.unsigned f.machine.topology.processors, f)
  | .lcoreNumber =>
    (.unsigned ((f.machine.thread.lcore.map Lcore.number).getD Lcore.anyNumber), f)
  | .nodeOf lcore => f.nodeOf lcore
  | .clock reading => (.unsigned reading.toNat, f)
  | .delay => (.void, f)

def exec (f : Flat) : FlatCall → Step
  | .query c => f.runQuery c
  | .lock c => f.runLock c
  | .buffer c => f.runBuffer c
  | .use c => f.runUse c
  | .port c => f.runPort c
  | .queue c => f.runQueue c

def run (f : Flat) (cs : List FlatCall) : Flat := cs.foldl (fun f c => (f.exec c).2) f

end Flat
end Dataplane
