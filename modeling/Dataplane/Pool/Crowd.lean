import Dataplane.Pool.Cache

/-! # Many workers on one pool

Workers share a pool and keep a cache each. What a worker does is cut into atomic steps: one pop or
push of the shared queue, or one change of a slot's count of holders. Between two steps of a worker
the others may make any number of theirs, so a slot can be in transit: taken off the queue and not
yet held, or given up and not yet pushed.
-/
namespace Dataplane

/-- What a worker is in the middle of. -/
inductive Errand
  | none
  /-- Filling the empty cache from the queue. -/
  | refill
  /-- About to pop the queue for one buffer. -/
  | pop
  /-- Has a slot that nobody holds yet. -/
  | claim (slot : Nat)
  /-- About to give up one hold, and to free the slot if it was the last. -/
  | drop (slot : Nat)
  /-- About to give up one hold, and to keep the slot in the cache if it was the last. -/
  | recycle (slot : Nat)
  /-- About to push slots onto the queue, in this order. -/
  | push (slots : List Nat)
  deriving DecidableEq, Repr

structure PoolWorker where
  /-- The slots in the worker's cache, the one to be taken next first. -/
  stack : List Nat := []
  /-- One entry for every hold. -/
  held : List Nat := []
  errand : Errand := .none
  /-- Whether the last allocation found the pool empty. -/
  starved : Bool := false
  deriving DecidableEq, Repr

/-- A pool and the workers that share it. -/
structure Crowd where
  pool : Pool
  cacheSize : Nat
  workers : Array PoolWorker
  deriving DecidableEq, Repr

/-- What a worker without an errand sets out to do. Holds are named by their place in `held`. -/
inductive PoolRequest
  | alloc
  | cacheAlloc
  | clone (hold : Nat)
  | drop (hold : Nat)
  | cacheFree (hold : Nat)
  | flush
  | give (hold : Nat) (receiver : Nat)
  deriving DecidableEq, Repr

namespace PoolWorker

instance : Inhabited PoolWorker := ⟨{}⟩

/-- Takes a slot from the cache, or goes to the queue for one. -/
def popCache (w : PoolWorker) : PoolWorker :=
  match w.stack with
  | i :: rest => { w with stack := rest, errand := .claim i }
  | [] => { w with errand := .pop }

def giveUp (w : PoolWorker) (hold : Nat) (errand : Nat → Errand) : PoolWorker :=
  match w.held[hold]? with
  | some i => { w with held := w.held.eraseIdx hold, errand := errand i }
  | Option.none => w

def hold (w : PoolWorker) (i : Nat) : PoolWorker :=
  { w with held := w.held ++ [i], errand := .none, starved := false }

/-- Keeps a slot in the cache, which spills when it has grown too long. -/
def keep (w : PoolWorker) (size i : Nat) : PoolWorker :=
  let stack := i :: w.stack
  if stack.length ≥ size + size / 2 then
    let surplus := stack.length - size
    { w with stack := stack.drop surplus, errand := .push (stack.take surplus) }
  else { w with stack, errand := .none }

end PoolWorker

namespace Crowd

def worker (c : Crowd) (w : Nat) : PoolWorker := c.workers.getD w default

def setWorker (c : Crowd) (w : Nat) (x : PoolWorker) : Crowd :=
  { c with workers := c.workers.setIfInBounds w x }

/-- Sets out on a request. Only `clone` and `give` are done at once: the first is one change of a
count, and the second touches nothing shared. -/
def request (c : Crowd) (w : Nat) : PoolRequest → Crowd
  | .alloc => c.setWorker w { c.worker w with errand := .pop }
  | .cacheAlloc =>
    let x := c.worker w
    c.setWorker w (if x.stack.isEmpty then { x with errand := .refill } else x.popCache)
  | .clone hold =>
    match (c.worker w).held[hold]? with
    | some i => { c with pool := c.pool.retain i }.setWorker w ((c.worker w).hold i)
    | none => c
  | .drop hold => c.setWorker w ((c.worker w).giveUp hold .drop)
  | .cacheFree hold =>
    c.setWorker w ((c.worker w).giveUp hold (if c.cacheSize = 0 then .drop else .recycle))
  | .flush =>
    let x := c.worker w
    c.setWorker w { x with stack := [], errand := .push x.stack.reverse }
  | .give hold receiver =>
    match (c.worker w).held[hold]? with
    | some i =>
      if receiver < c.workers.size then
        let c := c.setWorker w ((c.worker w).giveUp hold fun _ => .none)
        let y := c.worker receiver
        c.setWorker receiver { y with held := y.held ++ [i] }
      else c
    | none => c

/-- One atomic step of a worker that is on an errand. -/
def advance (c : Crowd) (w : Nat) : Crowd :=
  let x := c.worker w
  match x.errand with
  | .none => c
  | .refill =>
    if x.stack.length < c.cacheSize then
      match c.pool.take? with
      | some (i, pool) => { c with pool }.setWorker w { x with stack := i :: x.stack }
      | none => c.setWorker w x.popCache
    else c.setWorker w x.popCache
  | .pop =>
    match c.pool.take? with
    | some (i, pool) => { c with pool }.setWorker w { x with errand := .claim i }
    | none => c.setWorker w { x with errand := .none, starved := true }
  | .claim i => { c with pool := c.pool.setHolders i 1 }.setWorker w (x.hold i)
  | .drop i =>
    let (last, pool) := c.pool.relinquish i
    { c with pool }.setWorker w { x with errand := if last then .push [i] else .none }
  | .recycle i =>
    let (last, pool) := c.pool.relinquish i
    { c with pool }.setWorker w (if last then x.keep c.cacheSize i else { x with errand := .none })
  | .push [] => c.setWorker w { x with errand := .none }
  | .push (i :: rest) =>
    { c with pool := c.pool.release i }.setWorker w
      { x with errand := if rest.isEmpty then .none else .push rest }

/-- A worker goes on with its errand, or sets out on a new one if it has none. -/
def step (c : Crowd) (w : Nat) (r : PoolRequest) : Crowd :=
  if (c.worker w).errand = .none then c.request w r else c.advance w

end Crowd
end Dataplane
