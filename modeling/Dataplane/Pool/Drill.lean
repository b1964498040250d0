import Dataplane.Pool.Crowd

/-! # Pool drill

Every worker repeats the same exercise: it allocates a batch through its cache, as far as the pool
allows, and frees the batch through the cache again. At the end it empties its cache. Workers take
turns, one atomic step each.
-/
namespace Dataplane

inductive DrillPhase
  | filling
  | draining
  | flushing
  | finished
  deriving DecidableEq, Repr

structure DrillState where
  rounds : Nat
  phase : DrillPhase
  deriving DecidableEq, Repr

namespace Drill

/-- The state before the last `rounds` rounds. Rounds of no buffers at all are passed over. -/
def start (batch rounds : Nat) : DrillState :=
  ⟨rounds, if rounds = 0 ∨ batch = 0 then .flushing else .filling⟩

/-- The next request of a worker without an errand, if it still has one. -/
def next (batch : Nat) (d : DrillState) (w : PoolWorker) : DrillState × Option PoolRequest :=
  match d.phase with
  | .filling =>
    if w.held.length < batch ∧ !w.starved then (d, some .cacheAlloc)
    else if w.held.isEmpty then
      let d := start batch (d.rounds - 1)
      (d, if d.phase = .filling then some .cacheAlloc else some .flush)
    else ({ d with phase := .draining }, some (.cacheFree 0))
  | .draining =>
    if w.held.isEmpty then
      let d := start batch (d.rounds - 1)
      (d, if d.phase = .filling then some .cacheAlloc else some .flush)
    else (d, some (.cacheFree 0))
  | .flushing => ({ d with phase := .finished }, some .flush)
  | .finished => (d, none)

def turn (batch : Nat) (p : Crowd × Array DrillState) (w : Nat) : Crowd × Array DrillState :=
  let (c, ds) := p
  if (c.worker w).errand = .none then
    match next batch (ds.getD w ⟨0, .finished⟩) (c.worker w) with
    | (d, some r) => (c.request w r, ds.setIfInBounds w d)
    | (d, none) => (c, ds.setIfInBounds w d)
  else (c.advance w, ds)

def isFinished (p : Crowd × Array DrillState) : Bool :=
  p.2.all (fun d => d.phase = .finished) && p.1.workers.all fun w => w.errand = .none

def rounds (batch : Nat) : (fuel : Nat) → Crowd × Array DrillState → Crowd × Array DrillState
  | 0, p => p
  | fuel + 1, p =>
    if isFinished p then p
    else rounds batch fuel ((List.range p.1.workers.size).foldl (turn batch) p)

/-- The turns of one worker: each buffer takes a pop and a claim to get and a count and a push to
give back, and each round ends once. -/
def fuel (cacheSize iterations batch : Nat) : Nat :=
  (iterations + 1) * (8 * batch + 2 * cacheSize + 8)

/-- The pool after `threads` workers have done the exercise `iterations` times. -/
def run (p : Pool) (threads iterations batch : Nat) : Pool :=
  let size := min p.config.cacheSize maxCacheSize
  let crowd : Crowd := ⟨p, size, Array.replicate threads {}⟩
  (rounds batch (fuel size iterations batch)
    (crowd, Array.replicate threads (start batch iterations))).1.pool

end Drill
end Dataplane
