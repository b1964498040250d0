import Dataplane.Session.Buffers
import Dataplane.Session.Pools
import Dataplane.Session.Ports
import Dataplane.Session.Queues

/-! # Running a session

A session runs one command after another. Each command gives one answer and leaves a session for
the next.
-/
namespace Dataplane
namespace Session

def exec (s : Session) : Command → Step
  | .pool c => s.runPool c
  | .cache c => s.runCache c
  | .buffer c => s.runBuffer c
  | .port c => s.runPort c
  | .queue c => s.runQueue c

def run (s : Session) (cs : List Command) : Session := cs.foldl (fun s c => (s.exec c).2) s

end Session
end Dataplane
