import Dataplane.Fabric
import Dataplane.Refusal

/-! # Replies

What a command answers: a reply, a fault of the library, or a refusal to run the command at all.
Views are what can be seen of an object at the time of the reply.
-/
namespace Dataplane

structure BufferView where
  slot : Nat
  headroom : Nat
  size : Nat
  tailroom : Nat
  holders : Nat
  deriving DecidableEq, Repr

structure PoolView where
  number : Nat
  name : String
  config : PoolConfig
  capacity : Nat
  available : Nat
  inUse : Nat
  deriving DecidableEq, Repr

/-- A frame: its slot, its length, and its first octets. -/
structure FrameView where
  slot : Nat
  size : Nat
  start : List UInt8
  deriving DecidableEq, Repr

inductive Reply
  | done
  | flag (b : Bool)
  | number (n : Nat)
  | number? (n : Option Nat)
  | numbers (ns : List Nat)
  | text (s : String)
  | bytes (bs : List UInt8)
  | bytes? (bs : Option (List UInt8))
  | buffer (v : BufferView)
  | bufferInfo (v : BufferView) (length : Nat)
  | pool (v : PoolView)
  | occupancy (available inUse : Nat)
  | batch (slots : List Nat)
  | grown (got : Nat) (slots : List Nat)
  | cache (length : Nat) (pool : String)
  | cacheLength (length : Nat)
  | cacheLengths (lengths : List Nat)
  | cached (v : BufferView) (length : Nat)
  | cachedBatch (got : Nat) (slots : List Nat) (length : Nat)
  | frames (slots : List Nat) (frames : List FrameView)
  | received (frames : List FrameView) (pending : Nat)
  | sent (n : Nat) (left : List Nat) (free : Nat)
  | retried (free : Nat)
  | generated (sent : Nat) (failed : Option Fault)
  | pair (first second : Nat)
  | port (p : Port) (peer : Nat)
  | macKind (isLocal isUnicast : Bool)
  | stats (s : Stats)
  deriving DecidableEq, Repr

inductive Outcome
  | ok (r : Reply)
  | fault (f : Fault)
  /-- A fault together with the buffer that it concerns. -/
  | faultOn (f : Fault) (v : BufferView)
  /-- A fault together with the buffers that were left. -/
  | faultLeft (f : Fault) (left : List Nat)
  | refused (r : Refusal)
  deriving DecidableEq, Repr

def Store.view (s : Store) (b : Buffer) : BufferView :=
  ⟨b.slot, b.window.headroom, b.window.size, s.tailroom b, s.holders b⟩

def Store.poolView (s : Store) (p : Nat) : PoolView :=
  let pool := s.pool p
  ⟨p, pool.name, pool.config, pool.capacity, pool.available, pool.inUse⟩

def viewedOctets : Nat := 8

def Store.frameView (s : Store) (b : Buffer) : FrameView :=
  ⟨b.slot, b.window.size, s.head b viewedOctets⟩

def slotsOf (bs : List Buffer) : List Nat := bs.map Buffer.slot

end Dataplane
