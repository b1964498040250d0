import Dataplane.Buffer.Content
import Dataplane.Pool.Cache
import Dataplane.Port.Burst

/-! # Traffic generators

A generator sends copies of one frame. In every turn it fills its burst with copies, as far as the
pool allows, and sends what the queue takes; the rest stays for the next turn.
-/
namespace Dataplane

structure Generator where
  cache : Cache
  tx : TxQueue
  burst : List Buffer := []
  sent : Nat := 0
  deriving DecidableEq, Repr

namespace Generator

/-- Adds up to `n` copies of a frame. A buffer that the frame does not fit is given back. -/
def fill (frame : List UInt8) :
    (n : Nat) → Generator → Fabric → Except Fault Unit × Generator × Fabric
  | 0, g, f => (.ok (), g, f)
  | n + 1, g, f =>
    match g.cache.alloc f.store with
    | .error _ => (.ok (), g, f)
    | .ok (b, cache, store) =>
      match store.extend b frame with
      | .error e => (.error e, { g with cache }, { f with store := store.drop b })
      | .ok (b, store) =>
        fill frame n { g with cache, burst := g.burst ++ [b] } { f with store }

def step (frame : List UInt8) (g : Generator) (f : Fabric) :
    Except Fault Unit × Generator × Fabric :=
  match fill frame (burstSize - g.burst.length) g f with
  | (.error e, g, f) => (.error e, g, f)
  | (.ok (), g, f) =>
    let (n, burst, f) := f.txBurst g.tx g.burst
    (.ok (), { g with burst, sent := g.sent + n }, f)

/-- Gives up what the generator holds: its burst, its cache and its queue. -/
def finish (g : Generator) (f : Fabric) : Fabric :=
  let store := f.store.dropAll g.burst
  let (_, store) := g.cache.flush store
  { f with store }.putTx g.tx

/-- Takes turns until a turn sends none, the frame does not fit, or `goal` frames are sent. The
word to stop comes when the goal is reached. By then the next turn has begun, so it is taken too. -/
def sendAll (frame : List UInt8) (goal : Nat) :
    (turns : Nat) → Generator → Fabric → Except Fault Unit × Generator × Fabric
  | 0, g, f => (.ok (), g, f)
  | turns + 1, g, f =>
    match g.step frame f with
    | (.error e, g, f) => (.error e, g, f)
    | (.ok (), g', f) =>
      if g'.sent = g.sent ∨ goal ≤ g.sent then (.ok (), g', f)
      else sendAll frame goal turns g' f

/-- Every turn but the last sends a frame, so a goal needs no more turns than this. A goal of 0 is
reached before the first turn. -/
def turnsFor (goal : Nat) : Nat := if goal = 0 then 0 else goal + 1

def run (frame : List UInt8) (goal p : Nat) (tx : TxQueue) (f : Fabric) :
    Except Fault Unit × Nat × Fabric :=
  let g : Generator := { cache := Cache.create f.store p, tx }
  let (outcome, g, f) := sendAll frame goal (turnsFor goal) g f
  (outcome, g.sent, g.finish f)

end Generator
end Dataplane
