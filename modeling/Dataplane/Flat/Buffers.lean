import Dataplane.Buffer.Content
import Dataplane.Flat.Basic
import Dataplane.Pool.Bulk

/-! # Pools and buffers through the flat interface

A pointer for writing is given out only into a slot that the handle holds alone: a shared handle is
first moved to a private copy, which it keeps even if the call then fails.
-/
namespace Dataplane
namespace Flat

/-- The settings of a pool. A negative socket stands for the caller's own. -/
def poolConfig (f : Flat) (buffers cacheSize : Nat) (dataRoom : UInt16) (socket : Int) :
    PoolConfig where
  buffers
  cacheSize
  dataRoom
  socket := if socket < 0 then f.machine.thread.node fun _ => 0 else socket.toNat

/-- Puts a new pool into a register and frees the handle that was there. A call that fails leaves
the register as it is. -/
def createPool (f : Flat) (p : String) (name : Option (List UInt8)) (config : PoolConfig)
    (hasMemory : Bool) : Step :=
  match name with
  | none => (.pool none, f.failNull)
  | some octets =>
    match f.store.create (nameText octets) config hasMemory with
    | .error e => (.pool none, f.fail e)
    | .ok (n, store) =>
      (.pool (some ((store.pool n).name, (store.pool n).config)),
        { f.setStore store with pools := f.pools.put p n })

/-- Stores a new handle, or nothing if there is none. -/
def keepHandle (f : Flat) (m : String) (r : Except Fault (Buffer × Store)) : Step :=
  match r with
  | .error e => (.handle true, f.fail e)
  | .ok (b, store) => (.handle false, (f.setStore store).keepBuffer m b)

def allocBulk (f : Flat) (p : Nat) (array : String) (count : Nat) : Step :=
  match f.store.allocExact? p count with
  | none => (.refused .panicked, f)
  | some (.error e, store) => (.filled e.code 0, (f.setStore store).fail e)
  | some (.ok bs, store) => (.filled 0 bs.length, (f.setStore store).keepArray array 0 bs)

def allocPartial (f : Flat) (p : Nat) (array : String) (count : Nat) : Step :=
  let (bs, store) := f.store.allocUpTo p count
  (.filled (Int32.ofNat bs.length) bs.length, (f.setStore store).keepArray array 0 bs)

/-- Goes on with a handle that holds its slot alone. -/
def withPrivate (f : Flat) (m : String) (k : Flat → Buffer → Step) : Step :=
  f.withBuffer m (.place none) fun b =>
    match f.store.unshare b with
    | .error e => (.place none, f.fail e)
    | .ok (b, store) => k ((f.setStore store).setBuffer m b) b

/-- Moves the window of a handle and answers a pointer `distance` behind the start of its data. -/
def moveWindow (f : Flat) (m : String) (distance : Nat) (moved : Except Fault Buffer) : Step :=
  match moved with
  | .error e => (.place none, f.fail e)
  | .ok b => (.place (some distance), f.setBuffer m b)

def count32 (f : Flat) (p : String) (g : Pool → Nat) : Step :=
  f.withPool p (.unsigned 0) fun n => (.unsigned (UInt32.ofNat (g (f.store.pool n))).toNat, f)

def count16 (f : Flat) (m : String) (g : Buffer → Nat) : UInt16 × Flat :=
  match f.buffers.get? m with
  | some b => (UInt16.ofNat (g b), f)
  | none => (0, f.failNull)

def size16 (f : Flat) (m : String) : UInt16 × Flat := f.count16 m fun b => b.window.size

def headroom16 (f : Flat) (m : String) : UInt16 × Flat := f.count16 m fun b => b.window.headroom

def tailroom16 (f : Flat) (m : String) : UInt16 × Flat := f.count16 m f.store.tailroom

def holders16 (f : Flat) (m : String) : UInt16 × Flat := f.count16 m f.store.holders

def unsigned16 (r : UInt16 × Flat) : Step := (.unsigned r.1.toNat, r.2)

def runBuffer (f : Flat) : FlatBufferCall → Step
  | .createPool p name buffers cacheSize dataRoom socket hasMemory =>
    f.createPool p name (f.poolConfig buffers cacheSize dataRoom socket) hasMemory
  | .freePool p => (.void, { f with pools := f.pools.erase p })
  | .available p => f.count32 p Pool.available
  | .inUse p => f.count32 p Pool.inUse
  | .alloc p m => f.withPool p (.handle true) fun n => f.keepHandle m (f.store.alloc n)
  | .allocBulk p array count =>
    f.withPool p (.filled Fault.nullHandle 0) fun n =>
      match array with
      | none => (.filled Fault.nullHandle 0, f.failNull)
      | some array => f.allocBulk n array count
  | .allocPartial p array count =>
    f.withPool p (.filled Fault.nullHandle 0) fun n =>
      match array with
      | none => (.filled Fault.nullHandle 0, f.failNull)
      | some array => f.allocPartial n array count
  | .free m =>
    let old := f.buffers.get? m
    let f := { f with buffers := f.buffers.erase m }
    (.void, f.setStore (f.store.dropAll old.toList))
  | .clone m target =>
    f.withBuffer m (.handle true) fun b => f.keepHandle target (.ok (f.store.clone b))
  | .copy m target =>
    f.withBuffer m (.handle true) fun b => f.keepHandle target (f.store.duplicate b)
  | .data m => f.withBuffer m (.handle true) fun _ => (.handle false, f)
  | .writableData m => f.withPrivate m fun f _ => (.place (some 0), f)
  | .prepend m n => f.withPrivate m fun f b => f.moveWindow m 0 (b.prepend n)
  | .append m n => f.withPrivate m fun f b => f.moveWindow m b.window.size (b.append f.store n)
  | .adj m n => f.withPrivate m fun f b => f.moveWindow m 0 (b.adj n)
  | .trim m n =>
    f.withBuffer m (.int Fault.nullHandle) fun b =>
      match b.trim n with
      | .error e => (.int e.code, f.fail e)
      | .ok b => (.int 0, f.setBuffer m b)
  | .reset m => f.withBuffer m .void fun b => (.void, f.setBuffer m (b.reset f.store))
  | .size m => unsigned16 (f.size16 m)
  | .headroom m => unsigned16 (f.headroom16 m)
  | .tailroom m => unsigned16 (f.tailroom16 m)
  | .holders m => unsigned16 (f.holders16 m)

/-- A pointer for reading: the place that the data starts at. -/
def address (f : Flat) (m : String) : Option (Nat × UInt64) × Flat :=
  match f.buffers.get? m with
  | some b => (some (f.store.address b), f)
  | none => (none, f.failNull)

def writeAt (f : Flat) (m : String) (start : Nat) (bytes : List UInt8) : Step :=
  match f.withPrivate m fun f _ => (.place (some 0), f) with
  | (.place (some _), f) =>
    match f.buffers.get? m with
    | some b => (.written true, f.setStore (f.store.write b start bytes))
    | none => (.written false, f)
  | (_, f) => (.written false, f)

def runUse (f : Flat) : FlatUse → Step
  | .inspect m =>
    let (size, f) := f.size16 m
    let (headroom, f) := f.headroom16 m
    let (tailroom, f) := f.tailroom16 m
    let (holders, f) := f.holders16 m
    (.counts size headroom tailroom holders, f)
  | .compare m other =>
    let (a, f) := f.address m
    let (b, f) := f.address other
    (.flag (a = b), f)
  | .peek m => f.withBuffer m (.bytes none) fun b => (.bytes (some (f.store.data b)), f)
  | .poke m start bytes =>
    let (size, f) := f.size16 m
    if start + bytes.length > size.toNat then (.refused .outOfRange, f)
    else f.writeAt m start bytes

end Flat
end Dataplane
