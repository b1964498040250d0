import Dataplane.Proofs.Flat.Limits

/-! # How calls report that they fail

A call fails if a handle, an array or another thing it needs is null, or else if the operation
behind it fails. Both are said here without the call itself: what a call needs (`lacks`), and what
the operation returns (`fault?`). From these follow what the call records and how its result shows
it. A call that succeeds leaves the record alone, so that the record is the code of the last
failure.
-/
namespace Dataplane

/-- How a result shows that the call has failed: by a negative number, by null, or not at all. -/
inductive ResultKind
  | int
  | pointer
  | plain
  deriving DecidableEq

/-- The kind of result of a call. Reading the record is no call that can fail, questions about
lcores are left out, and what callers do with several calls has no result of its own. -/
def FlatCall.kind : FlatCall → Option ResultKind
  | .query .init | .query .transactions => some .int
  | .query .version => some .pointer
  | .query .cacheLine | .query (.clock _) | .query .delay => some .plain
  | .query _ => none
  | .lock (.create _) | .lock (.createRecursive _) => some .pointer
  | .lock (.tryLock _ _) | .lock (.tryLockRecursive _ _) | .lock (.isLocked _) => some .int
  | .lock _ => some .plain
  | .buffer (.createPool ..) | .buffer (.alloc ..) | .buffer (.clone ..) | .buffer (.copy ..)
  | .buffer (.data _) | .buffer (.writableData _) | .buffer (.prepend ..) | .buffer (.append ..)
  | .buffer (.adj ..) => some .pointer
  | .buffer (.allocBulk ..) | .buffer (.allocPartial ..) | .buffer (.trim ..) => some .int
  | .buffer _ => some .plain
  | .use _ => none
  | .port .countOpen => some .plain
  | .port _ => some .int
  | .queue (.takeRx ..) | .queue (.takeTx ..) => some .pointer
  | .queue _ => some .plain

namespace FlatReply

def int? : FlatReply → Option Int32
  | .int n | .filled n _ | .ports n _ | .info n _ | .mac n _ | .mtu n _ | .link n _ _
  | .stats n _ => some n
  | _ => none

def isNull? : FlatReply → Option Bool
  | .text _ => some false
  | .handle isNull => some isNull
  | .pool p => some p.isNone
  | .place p => some p.isNone
  | _ => none

end FlatReply

namespace Flat

variable (f : Flat)

/-! ## What a call needs, and what may go wrong behind it -/

def lacksLock : FlatLockCall → Bool
  | .lock l _ | .tryLock l _ | .unlock l _ | .isLocked l => (f.spins.get? l).isNone
  | .lockRecursive l _ | .tryLockRecursive l _ | .unlockRecursive l _ =>
    (f.recursives.get? l).isNone
  | _ => false

def lacksBuffer : FlatBufferCall → Bool
  | .createPool _ name _ _ _ _ _ => name.isNone
  | .available p | .inUse p | .alloc p _ => (f.pools.get? p).isNone
  | .allocBulk p array _ | .allocPartial p array _ => (f.pools.get? p).isNone || array.isNone
  | .freePool _ | .free _ => false
  | .clone m _ | .copy m _ | .data m | .writableData m | .prepend m _ | .append m _ | .adj m _
  | .trim m _ | .reset m | .size m | .headroom m | .tailroom m | .holders m =>
    (f.buffers.get? m).isNone

def lacksUse : FlatUse → Bool
  | .inspect m | .peek m | .poke m _ _ => (f.buffers.get? m).isNone
  | .compare m other => (f.buffers.get? m).isNone || (f.buffers.get? other).isNone

def lacksPort : FlatPortCall → Bool
  | .createPair a b _ _ _ => a.isNone || b.isNone
  | .createLoopback name _ | .find name => name.isNone
  | .info _ hasOut | .mac _ hasOut | .mtu _ hasOut | .link _ hasOut | .stats _ hasOut => !hasOut
  | .setMac _ station => station.isNone
  | _ => false

/-- A burst of nothing needs no array to send from. -/
def lacksQueue : FlatQueueCall → Bool
  | .receive h array _ => (f.rxs.get? h).isNone || array.isNone
  | .send h array count => (f.txs.get? h).isNone ||
    (count != 0 &&
      (array.map fun a => (a.take count.toNat).any fun e => (f.behind e).isNone).getD true)
  | _ => false

/-- Whether something that the call needs is null. An lcore that is not there counts as null. -/
def lacks : FlatCall → Bool
  | .query (.nodeOf lcore) => (f.machine.topology.lcore? lcore).isNone
  | .query _ => false
  | .lock c => f.lacksLock c
  | .buffer c => f.lacksBuffer c
  | .use c => f.lacksUse c
  | .port c => lacksPort c
  | .queue c => f.lacksQueue c

def faultOn {α : Type} (m : String) (k : Buffer → Except Fault α) : Option Fault :=
  (f.buffers.get? m).bind fun b => Fault.of? (k b)

def faultBuffer : FlatBufferCall → Option Fault
  | .createPool _ name buffers cacheSize dataRoom socket hasMemory => name.bind fun octets =>
    Fault.of? (f.store.create (nameText octets) (f.poolConfig buffers cacheSize dataRoom socket)
      hasMemory)
  | .alloc p _ => (f.pools.get? p).bind fun i => Fault.of? (f.store.alloc i)
  | .allocBulk p _ count => (f.pools.get? p).bind fun i =>
    (f.store.allocExact? i count).bind fun r => Fault.of? r.1
  | .copy m _ => f.faultOn m f.store.duplicate
  | .writableData m => f.faultOn m f.store.unshare
  | .prepend m n => f.faultOn m fun b => do (← f.store.unshare b).1.prepend n
  | .append m n => f.faultOn m fun b => do
    let r ← f.store.unshare b
    r.1.append r.2 n
  | .adj m n => f.faultOn m fun b => do (← f.store.unshare b).1.adj n
  | .trim m n => f.faultOn m fun b => b.trim n
  | _ => none

/-- A write goes through a pointer for writing, unless it is seen first that it would not fit. -/
def faultUse : FlatUse → Option Fault
  | .poke m start bytes => f.faultOn m fun b =>
    if start + bytes.length > (UInt16.ofNat b.window.size).toNat then .ok (b, f.store)
    else f.store.unshare b
  | _ => none

def faultPort (c : FlatPortCall) : Option Fault :=
  match c.onPort? with
  | some (port, pc) => Fault.of? (f.fabric.portOf port >>= fun p => (pc.run f.fabric p).1)
  | none =>
    match c with
    | .createPair (some a) (some b) _ first second =>
      Fault.of? (f.fabric.createPair (nameText a) (nameText b) (.drawn first) (.drawn second)).1
    | .createLoopback name octets => name.bind fun name =>
      Fault.of? (f.fabric.createLoopback (nameText name) (.drawn octets)).1
    | .find name => name.bind fun octets => Fault.of? (f.findPort (nameText octets))
    | .info port _ | .mac port _ | .mtu port _ | .link port _ | .stats port _ | .socket port
    | .promiscuous port => Fault.of? (f.fabric.portOf port)
    | _ => none

def faultQueue : FlatQueueCall → Option Fault
  | .takeRx port queue _ => Fault.of? (f.fabric.portOf port >>= fun p => (f.fabric.takeRx p queue).1)
  | .takeTx port queue _ => Fault.of? (f.fabric.portOf port >>= fun p => (f.fabric.takeTx p queue).1)
  | _ => none

/-- The fault that the operation behind a call returns. -/
def fault? : FlatCall → Option Fault
  | .buffer c => f.faultBuffer c
  | .use c => f.faultUse c
  | .port c => f.faultPort c
  | .queue c => f.faultQueue c
  | _ => none

end Flat

/-- The code of a failure. That something is null is seen first. -/
def failureOf (lacks : Bool) (fault : Option Fault) : Option Int32 :=
  if lacks then some Fault.nullHandle else fault.map Fault.code

def Flat.failure? (f : Flat) (c : FlatCall) : Option Int32 := failureOf (f.lacks c) (f.fault? c)

/-! ## What a step records and returns -/

/-- A step from `f` records a failure, and shows it in a result of kind `k`. -/
structure Told (f : Flat) (lacks : Bool) (fault : Option Fault) (k : Option ResultKind)
    (r : Flat.Step) : Prop where
  record : r.2.lastError = (failureOf lacks fault).getD f.lastError
  int : k = some .int → ∃ n, r.1.int? = some n ∧ ((failureOf lacks fault).isSome ↔ n < 0) ∧
    ∀ e, failureOf lacks fault = some e → n = e
  pointer : k = some .pointer → r.1.isNull? = some (failureOf lacks fault).isSome
  plain : k = some .plain → fault = none

namespace Told

variable {f g : Flat} {fault : Option Fault} {e : Fault} {r : FlatReply} {n : Int32}

theorem nullInt (hr : r.int? = some Fault.nullHandle) :
    Told f true fault (some .int) (r, f.failNull) where
  record := rfl
  int _ := ⟨_, hr, ⟨fun _ => by decide, fun _ => rfl⟩, fun _ h => Option.some.inj h⟩
  pointer h := nomatch h
  plain h := nomatch h

theorem nullPointer (hr : r.isNull? = some true) :
    Told f true fault (some .pointer) (r, f.failNull) where
  record := rfl
  int h := nomatch h
  pointer _ := hr
  plain h := nomatch h

theorem nullPlain : Told f true none (some .plain) (r, f.failNull) where
  record := rfl
  int h := nomatch h
  pointer h := nomatch h
  plain _ := rfl

theorem doneInt (hg : g.lastError = f.lastError) (hr : r.int? = some n) (hn : 0 ≤ n) :
    Told f false none (some .int) (r, g) where
  record := hg
  int _ := ⟨n, hr, by simp [failureOf, Int32.not_lt.mpr hn], fun _ h => nomatch h⟩
  pointer h := nomatch h
  plain h := nomatch h

theorem donePointer (hg : g.lastError = f.lastError) (hr : r.isNull? = some false) :
    Told f false none (some .pointer) (r, g) where
  record := hg
  int h := nomatch h
  pointer _ := hr
  plain h := nomatch h

theorem donePlain {r : Flat.Step} (hr : r.2.lastError = f.lastError) :
    Told f false none (some .plain) r where
  record := hr
  int h := nomatch h
  pointer h := nomatch h
  plain _ := rfl

theorem failedInt (he : e.code < 0) (hr : r.int? = some e.code) :
    Told f false (some e) (some .int) (r, g.fail e) where
  record := rfl
  int _ := ⟨_, hr, by simpa [failureOf] using he, fun _ h => Option.some.inj h⟩
  pointer h := nomatch h
  plain h := nomatch h

theorem failedPointer (hr : r.isNull? = some true) :
    Told f false (some e) (some .pointer) (r, g.fail e) where
  record := rfl
  int h := nomatch h
  pointer _ := hr
  plain h := nomatch h

/-- What callers do with several calls has no result of its own. -/
theorem composite {lacks : Bool} {r : Flat.Step}
    (h : r.2.lastError = (failureOf lacks fault).getD f.lastError) :
    Told f lacks fault none r where
  record := h
  int h := nomatch h
  pointer h := nomatch h
  plain h := nomatch h

end Told

namespace Flat

variable {f : Flat}

/-- Numbers below 2^31 are no codes. -/
theorem ofNat_nonneg {n : Nat} (h : n < 2147483648) : 0 ≤ Int32.ofNat n := by
  rw [Int32.le_iff_toInt_le, Int32.toInt_ofNat_of_lt h]
  exact Int.natCast_nonneg n

theorem intOf_nonneg (b : Bool) : 0 ≤ intOf b := by
  cases b <;> decide

/-! ## Ways to return -/

theorem told_status {g : Flat} {r : Except Fault Unit} (hg : g.lastError = f.lastError)
    (hr : Fault.Own r) : Told f false (Fault.of? r) (some .int) (g.status r) := by
  cases r with
  | error e => exact .failedInt (Fault.code_neg (hr e rfl)) rfl
  | ok _ => exact .doneInt hg rfl (Int32.le_refl 0)

theorem told_numbered {r : Except Fault Nat × Fabric} (hr : Fault.Own r.1)
    (hsmall : ∀ n, r.1 = .ok n → n < 2147483648) :
    Told f false (Fault.of? r.1) (some .int) (f.numbered r) := by
  obtain ⟨_ | n, g⟩ := r
  · exact .failedInt (Fault.code_neg (hr _ rfl)) rfl
  · exact .doneInt rfl rfl (ofNat_nonneg (hsmall n rfl))

theorem told_keepHandle (m : String) (r : Except Fault (Buffer × Store)) :
    Told f false (Fault.of? r) (some .pointer) (f.keepHandle m r) := by
  cases r with
  | error e => exact .failedPointer rfl
  | ok r => exact .donePointer rfl rfl

theorem told_moveWindow {g : Flat} (m : String) (distance : Nat) (r : Except Fault Buffer)
    (hg : g.lastError = f.lastError) :
    Told f false (Fault.of? r) (some .pointer) (g.moveWindow m distance r) := by
  cases r with
  | error e => exact .failedPointer rfl
  | ok b => exact .donePointer hg rfl

/-! ## What is looked at first -/

theorem told_withPool {p : String} {null : FlatReply} {next : Nat → Step} {k : Option ResultKind}
    (hnull : Told f true none k (null, f.failNull))
    (hnext : ∀ i, Told f false none k (next i)) :
    Told f (f.pools.get? p).isNone none k (f.withPool p null next) := by
  unfold withPool
  cases f.pools.get? p with
  | none => exact hnull
  | some i => exact hnext i

theorem told_withBuffer {m : String} {null : FlatReply} {next : Buffer → Step}
    {k : Option ResultKind} (hnull : Told f true none k (null, f.failNull))
    (hnext : ∀ b, Told f false none k (next b)) :
    Told f (f.buffers.get? m).isNone none k (f.withBuffer m null next) := by
  unfold withBuffer
  cases f.buffers.get? m with
  | none => exact hnull
  | some b => exact hnext b

theorem told_onBuffer {α : Type} {m : String} {null : FlatReply} {next : Buffer → Step}
    {g : Buffer → Except Fault α} {k : Option ResultKind}
    (hnull : Told f true none k (null, f.failNull))
    (hnext : ∀ b, Told f false (Fault.of? (g b)) k (next b)) :
    Told f (f.buffers.get? m).isNone (f.faultOn m g) k (f.withBuffer m null next) := by
  unfold withBuffer faultOn
  cases f.buffers.get? m with
  | none => exact hnull
  | some b => exact hnext b

theorem told_withSpin {l : String} {null : FlatReply} {next : SpinLock → Step}
    {k : Option ResultKind} (hnull : Told f true none k (null, f.failNull))
    (hnext : ∀ x, Told f false none k (next x)) :
    Told f (f.spins.get? l).isNone none k (f.withSpin l null next) := by
  unfold withSpin
  cases f.spins.get? l with
  | none => exact hnull
  | some x => exact hnext x

theorem told_withRecursive {l : String} {null : FlatReply} {next : RecursiveLock → Step}
    {k : Option ResultKind} (hnull : Told f true none k (null, f.failNull))
    (hnext : ∀ x, Told f false none k (next x)) :
    Told f (f.recursives.get? l).isNone none k (f.withRecursive l null next) := by
  unfold withRecursive
  cases f.recursives.get? l with
  | none => exact hnull
  | some x => exact hnext x

theorem told_withName {name : Option (List UInt8)} {next : String → Step}
    {fault : List UInt8 → Option Fault}
    (hnext : ∀ octets, Told f false (fault octets) (some .int) (next (nameText octets))) :
    Told f name.isNone (name.bind fault) (some .int) (f.withName name next) := by
  cases name with
  | none => exact .nullInt rfl
  | some octets => exact hnext octets

/-- A handle gets its private copy first, and what comes after that may fail as well. -/
theorem told_withPrivate {α : Type} {m : String} {next : Flat → Buffer → Step}
    {g : Buffer × Store → Except Fault α}
    (hnext : ∀ b s, Told f false (Fault.of? (g (b, s))) (some .pointer)
      (next ((f.setStore s).setBuffer m b) b)) :
    Told f (f.buffers.get? m).isNone (f.faultOn m fun b => f.store.unshare b >>= g)
      (some .pointer) (f.withPrivate m next) := by
  refine told_onBuffer (.nullPointer rfl) fun b => ?_
  cases f.store.unshare b with
  | error e => exact .failedPointer rfl
  | ok r => exact hnext r.1 r.2

theorem told_writable (m : String) :
    Told f (f.buffers.get? m).isNone (f.faultOn m f.store.unshare) (some .pointer)
      (f.withPrivate m fun g _ => (.place (some 0), g)) := by
  refine told_onBuffer (.nullPointer rfl) fun b => ?_
  cases f.store.unshare b with
  | error e => exact .failedPointer rfl
  | ok r => exact .donePointer rfl rfl

theorem told_unsigned16 (m : String) (g : Buffer → Nat) :
    Told f (f.buffers.get? m).isNone none (some .plain) (unsigned16 (f.count16 m g)) := by
  unfold count16
  cases f.buffers.get? m with
  | none => exact .nullPlain
  | some b => exact .donePlain rfl

theorem told_onPort {number : Nat} {g : Nat → Except Fault Unit × Fabric}
    (hg : ∀ p, Fault.Own (g p).1) :
    Told f false (Fault.of? (f.fabric.portOf number >>= fun p => (g p).1)) (some .int)
      (f.onPort number g) := by
  unfold onPort
  cases hp : f.fabric.portOf number with
  | error e => exact .failedInt (Fault.code_neg (Fault.Own.portOf _ _ e hp)) rfl
  | ok p => exact told_status (g := f.setFabric (g p).2) rfl (hg p)

theorem told_readPort {α : Type} {number : Nat} {hasOut : Bool}
    {out : Int32 → Option α → FlatReply} {g : Port → α} (hout : ∀ n a, (out n a).int? = some n) :
    Told f (!hasOut) (Fault.of? (f.fabric.portOf number)) (some .int)
      (f.readPort number hasOut out g) := by
  cases hasOut with
  | false => exact .nullInt (hout _ _)
  | true =>
    simp only [readPort, if_true]
    cases hp : f.fabric.portOf number with
    | error e => exact .failedInt (Fault.code_neg (Fault.Own.portOf _ _ e hp)) (hout _ _)
    | ok p => exact .doneInt rfl (hout _ _) (Int32.le_refl 0)

theorem told_intOfPort {number : Nat} {g : Port → Nat}
    (hsmall : ∀ p, g (f.fabric.port p) < 2147483648) :
    Told f false (Fault.of? (f.fabric.portOf number)) (some .int) (f.intOfPort number g) := by
  unfold intOfPort
  cases hp : f.fabric.portOf number with
  | error e => exact .failedInt (Fault.code_neg (Fault.Own.portOf _ _ e hp)) rfl
  | ok p => exact .doneInt rfl rfl (ofNat_nonneg (hsmall p))

/-! ## Locks -/

theorem told_runLock (c : FlatLockCall) :
    Told f (f.lacksLock c) none (FlatCall.lock c).kind (f.runLock c) := by
  cases c with
  | create l => exact .donePointer rfl rfl
  | free l => exact .donePlain rfl
  | createRecursive l => exact .donePointer rfl rfl
  | freeRecursive l => exact .donePlain rfl
  | tryLock l way =>
    exact told_withSpin (.nullInt rfl) fun x => .doneInt rfl rfl (intOf_nonneg _)
  | isLocked l => exact told_withSpin (.nullInt rfl) fun x => .doneInt rfl rfl (intOf_nonneg _)
  | tryLockRecursive l way =>
    exact told_withRecursive (.nullInt rfl) fun x => .doneInt rfl rfl (intOf_nonneg _)
  | lock l way =>
    refine told_withSpin .nullPlain fun x => ?_
    dsimp only
    split
    · exact .donePlain rfl
    · exact .donePlain rfl
  | unlock l way =>
    refine told_withSpin .nullPlain fun x => ?_
    cases way with
    | plain => exact .donePlain rfl
    | transaction => exact .donePlain rfl
  | lockRecursive l way =>
    refine told_withRecursive .nullPlain fun x => ?_
    dsimp only
    split
    · exact .donePlain rfl
    · exact .donePlain rfl
  | unlockRecursive l way =>
    refine told_withRecursive .nullPlain fun x => ?_
    dsimp only
    split
    · exact .donePlain rfl
    · exact .donePlain rfl

/-! ## Pools and buffers -/

theorem told_createPool (p : String) (name : Option (List UInt8)) (c : PoolConfig)
    (hasMemory : Bool) :
    Told f name.isNone
      (name.bind fun octets => Fault.of? (f.store.create (nameText octets) c hasMemory))
      (some .pointer) (f.createPool p name c hasMemory) := by
  cases name with
  | none => exact .nullPointer rfl
  | some octets =>
    simp only [createPool, Option.bind_some]
    cases f.store.create (nameText octets) c hasMemory with
    | error e => exact .failedPointer rfl
    | ok r => exact .donePointer rfl rfl

theorem lastError_keepArray (g : Flat) (array : String) (first : Nat) (bs : List Buffer) :
    (g.keepArray array first bs).lastError = g.lastError := by
  rw [keepArray_eq]
  rfl

/-- The length of every array fits what can be reserved. -/
theorem told_allocBulk (p : Nat) (array : String) {count : Nat} (hcount : count < 4294967296) :
    Told f false ((f.store.allocExact? p count).bind fun r => Fault.of? r.1) (some .int)
      (f.allocBulk p array count) := by
  have hfits : ¬ count > maxReserved := by
    unfold maxReserved
    omega
  have hsome : (f.store.allocExact? p count).isSome := by
    simp [Store.allocExact?, Store.allocBulk?, hfits]
  obtain ⟨⟨r, s⟩, hr⟩ := Option.isSome_iff_exists.mp hsome
  simp only [allocBulk, hr, Option.bind_some]
  cases r with
  | error e => exact .failedInt (Fault.code_neg (Fault.Own.allocExact hr e rfl)) rfl
  | ok bs => exact .doneInt (lastError_keepArray _ _ _ _) rfl (Int32.le_refl 0)

theorem told_allocPartial (h : f.fabric.Modest 2147483648) (p : Nat) (array : String)
    (count : Nat) : Told f false none (some .int) (f.allocPartial p array count) := by
  have hlength := Store.length_allocUpTo_le f.store p count
  obtain ⟨hfree, hsmall⟩ := h.pools p
  refine .doneInt (lastError_keepArray _ _ _ _) rfl (ofNat_nonneg ?_)
  exact (hlength.trans hfree).trans_lt hsmall

theorem told_trim (m : String) (n : Nat) :
    Told f (f.buffers.get? m).isNone (f.faultOn m fun b => b.trim n) (some .int)
      (f.runBuffer (.trim m n)) := by
  refine told_onBuffer (.nullInt rfl) fun b => ?_
  cases htrim : b.trim n with
  | error e => exact .failedInt (Fault.code_neg (Fault.Own.moved _ _ _ _ e htrim)) rfl
  | ok b => exact .doneInt rfl rfl (Int32.le_refl 0)

theorem told_runBuffer (h : f.fabric.Modest 2147483648) {c : FlatBufferCall}
    (hc : (FlatCall.buffer c).Sized 2147483648) :
    Told f (f.lacksBuffer c) (f.faultBuffer c) (FlatCall.buffer c).kind (f.runBuffer c) := by
  cases c with
  | createPool p name buffers cacheSize dataRoom socket hasMemory =>
    exact told_createPool p name _ hasMemory
  | freePool p => exact .donePlain rfl
  | available p => exact told_withPool .nullPlain fun i => .donePlain rfl
  | inUse p => exact told_withPool .nullPlain fun i => .donePlain rfl
  | alloc p m =>
    simp only [runBuffer, lacksBuffer, faultBuffer, withPool]
    cases f.pools.get? p with
    | none => exact .nullPointer rfl
    | some i => exact told_keepHandle m _
  | allocBulk p array count =>
    simp only [runBuffer, lacksBuffer, faultBuffer, withPool]
    cases f.pools.get? p with
    | none => exact .nullInt rfl
    | some i =>
      cases array with
      | none => exact .nullInt rfl
      | some array => exact told_allocBulk i array hc
  | allocPartial p array count =>
    simp only [runBuffer, lacksBuffer, faultBuffer, withPool]
    cases f.pools.get? p with
    | none => exact .nullInt rfl
    | some i =>
      cases array with
      | none => exact .nullInt rfl
      | some array => exact told_allocPartial h i array count
  | free m => exact .donePlain rfl
  | clone m target => exact told_withBuffer (.nullPointer rfl) fun b => .donePointer rfl rfl
  | copy m target => exact told_onBuffer (.nullPointer rfl) fun b => told_keepHandle target _
  | data m => exact told_withBuffer (.nullPointer rfl) fun b => .donePointer rfl rfl
  | writableData m => exact told_writable m
  | prepend m n =>
    simp only [runBuffer, lacksBuffer, faultBuffer]
    exact told_withPrivate (g := fun r => r.1.prepend n) fun _ _ => told_moveWindow m 0 _ rfl
  | append m n =>
    simp only [runBuffer, lacksBuffer, faultBuffer]
    exact told_withPrivate (g := fun r => r.1.append r.2 n) fun _ _ => told_moveWindow m _ _ rfl
  | adj m n =>
    simp only [runBuffer, lacksBuffer, faultBuffer]
    exact told_withPrivate (g := fun r => r.1.adj n) fun _ _ => told_moveWindow m 0 _ rfl
  | trim m n => exact told_trim m n
  | reset m => exact told_withBuffer .nullPlain fun b => .donePlain rfl
  | size m => exact told_unsigned16 m _
  | headroom m => exact told_unsigned16 m _
  | tailroom m => exact told_unsigned16 m _
  | holders m => exact told_unsigned16 m _

/-! ## Several calls at once -/

theorem lastError_writeAt (m : String) (start : Nat) (bytes : List UInt8) :
    (f.writeAt m start bytes).2.lastError =
      (f.withPrivate m fun g _ => (.place (some 0), g)).2.lastError := by
  unfold writeAt
  split
  · rename_i heq
    rw [heq]
    split <;> rfl
  · rename_i heq
    rw [heq]

theorem lastError_address (m : String) :
    (f.address m).2.lastError =
      if (f.buffers.get? m).isNone then Fault.nullHandle else f.lastError := by
  unfold address
  cases f.buffers.get? m <;> rfl

theorem told_runUse (c : FlatUse) :
    Told f (f.lacksUse c) (f.faultUse c) (FlatCall.use c).kind (f.runUse c) := by
  cases c with
  | inspect m =>
    refine .composite ?_
    simp only [runUse, size16, headroom16, tailroom16, holders16, count16, lacksUse, faultUse]
    cases hm : f.buffers.get? m with
    | none => simp [failNull, hm, failureOf]
    | some b => simp [hm, failureOf]
  | compare m other =>
    refine .composite ?_
    have hbuffers : (f.address m).2.buffers = f.buffers := by
      unfold address
      split <;> rfl
    simp only [runUse, lacksUse, faultUse, lastError_address, hbuffers]
    cases f.buffers.get? m <;> cases f.buffers.get? other <;> rfl
  | peek m =>
    refine .composite ?_
    simp only [runUse, withBuffer, lacksUse, faultUse]
    cases f.buffers.get? m <;> rfl
  | poke m start bytes =>
    refine .composite ?_
    -- The size is asked for first, and of a null handle it is zero: a write of nothing goes on.
    cases hm : f.buffers.get? m with
    | none =>
      have hsize : f.size16 m = (0, f.failNull) := by
        simp only [size16, count16, hm]
      simp only [runUse, hsize, lacksUse, faultUse, faultOn, hm]
      split
      · rfl
      · rw [lastError_writeAt]
        simp [withPrivate, withBuffer, failNull, hm, failureOf]
    | some b =>
      have hsize : f.size16 m = (UInt16.ofNat b.window.size, f) := by
        simp only [size16, count16, hm]
      simp only [runUse, hsize, lacksUse, faultUse, faultOn, hm, Option.bind_some]
      split
      · rfl
      · rw [lastError_writeAt, (told_writable m).record, faultOn, hm]
        rfl

/-! ## Ports and queues -/

theorem told_createPair (a b : Option (List UInt8)) (hasOut : Bool)
    (first second : Vector UInt8 6) :
    Told f (a.isNone || b.isNone) (f.faultPort (.createPair a b hasOut first second)) (some .int)
      (f.createPair a b hasOut first second) := by
  cases a with
  | none => exact .nullInt rfl
  | some a =>
    cases b with
    | none => exact .nullInt rfl
    | some b =>
      have hown := Fault.Own.createPair f.fabric (nameText a) (nameText b) (.drawn first)
        (.drawn second)
      simp only [createPair, faultPort, FlatPortCall.onPort?]
      generalize f.fabric.createPair _ _ _ _ = r at hown
      obtain ⟨_ | numbers, g⟩ := r
      · exact .failedInt (Fault.code_neg (hown _ rfl)) rfl
      · exact .doneInt rfl rfl (Int32.le_refl 0)

theorem maxPorts_lt : maxPorts < 2147483648 := by
  unfold maxPorts
  omega

theorem findPort_lt (h : f.fabric.Modest 2147483648) {name : String} {n : Nat}
    (hn : f.findPort name = .ok n) : n < maxPorts := by
  unfold findPort at hn
  split at hn
  · rename_i number hfound
    cases hn
    obtain ⟨p, -, -, rfl⟩ := Fabric.exists_of_find? hfound
    exact h.number _
  · cases hn

theorem told_runPort (h : f.fabric.Modest 2147483648) (c : FlatPortCall) :
    Told f (lacksPort c) (f.faultPort c) (FlatCall.port c).kind (f.runPort c) := by
  -- Most calls only run something on one port, and these are one case.
  cases hon : c.onPort? with
  | some r =>
    obtain ⟨port, pc⟩ := r
    have hlacks : lacksPort c = false := by
      cases c with
      | setMac port station =>
        cases station with
        | none => cases hon
        | some _ => rfl
      | _ => first | rfl | cases hon
    have hkind : (FlatCall.port c).kind = some .int := by
      cases c with
      | countOpen => cases hon
      | _ => rfl
    simp only [runPort_eq hon, hlacks, hkind, faultPort, hon]
    exact told_onPort fun p => .runPort _ p pc
  | none =>
    cases c with
    | countOpen => exact .donePlain rfl
    | createPair a b hasOut first second => exact told_createPair a b hasOut first second
    | createLoopback name octets =>
      simp only [runPort, lacksPort, faultPort, FlatPortCall.onPort?]
      refine told_withName fun name => told_numbered (.createLoopback _ _ _) fun n hn => ?_
      rcases f.fabric.createLoopback_cases (nameText name) (.drawn octets)
        with ⟨e, heq⟩ | ⟨-, hroom, heq⟩
      · rw [heq] at hn
        cases hn
      · rw [heq] at hn
        cases hn
        exact Nat.lt_trans hroom maxPorts_lt
    | find name =>
      simp only [runPort, lacksPort, faultPort, FlatPortCall.onPort?]
      refine told_withName fun octets => ?_
      refine told_numbered (r := (f.findPort _, f.fabric)) (.findPort f _) fun n hn => ?_
      exact Nat.lt_trans (findPort_lt h hn) maxPorts_lt
    | setMac port station =>
      cases station with
      | none => exact .nullInt rfl
      | some _ => cases hon
    | socket port =>
      refine told_intOfPort fun p => ?_
      rw [h.socket p]
      decide
    | promiscuous port =>
      simp only [runPort, lacksPort, faultPort, FlatPortCall.onPort?]
      refine told_intOfPort fun p => ?_
      split <;> decide
    | info port hasOut => exact told_readPort fun _ _ => rfl
    | mac port hasOut => exact told_readPort fun _ _ => rfl
    | mtu port hasOut =>
      simp only [runPort, lacksPort, faultPort, FlatPortCall.onPort?]
      exact told_readPort fun _ _ => rfl
    | link port hasOut =>
      simp only [runPort, lacksPort, faultPort, FlatPortCall.onPort?]
      exact told_readPort fun _ _ => rfl
    | stats port hasOut =>
      simp only [runPort, lacksPort, faultPort, FlatPortCall.onPort?]
      exact told_readPort fun _ _ => rfl
    | _ => cases hon

theorem told_takeRx (port queue : Nat) (x : String) :
    Told f false (f.faultQueue (.takeRx port queue x)) (some .pointer) (f.takeRx port queue x) := by
  simp only [takeRx, faultQueue]
  cases f.fabric.portOf port with
  | error e => exact .failedPointer rfl
  | ok p =>
    dsimp only [bind, Except.bind]
    generalize f.fabric.takeRx p queue = r
    obtain ⟨_ | y, g⟩ := r
    · exact .failedPointer rfl
    · exact .donePointer rfl rfl

theorem told_takeTx (port queue : Nat) (x : String) :
    Told f false (f.faultQueue (.takeTx port queue x)) (some .pointer) (f.takeTx port queue x) := by
  simp only [takeTx, faultQueue]
  cases f.fabric.portOf port with
  | error e => exact .failedPointer rfl
  | ok p =>
    dsimp only [bind, Except.bind]
    generalize f.fabric.takeTx p queue = r
    obtain ⟨_ | y, g⟩ := r
    · exact .failedPointer rfl
    · exact .donePointer rfl rfl

theorem isNone_entries? (array : List (Option String)) :
    (f.entries? array).isNone = array.any fun e => (f.behind e).isNone := by
  rw [Bool.eq_iff_iff, Option.isNone_iff_eq_none, entries?_eq_none_iff, List.any_eq_true]
  simp only [Option.isNone_iff_eq_none]

theorem lastError_sendEntries (x : TxQueue) (entries : List (String × Buffer)) :
    (f.sendEntries x entries).2.lastError = f.lastError := by
  unfold sendEntries
  dsimp only
  rw [refill_eq]
  rfl

theorem told_send (x : TxQueue) (array : Option (List (Option String))) (count : UInt16) :
    Told f (count != 0 &&
      (array.map fun a => (a.take count.toNat).any fun e => (f.behind e).isNone).getD true) none
      (some .plain) (f.send x array count) := by
  unfold send
  by_cases hcount : count = 0
  · rw [if_pos hcount, hcount]
    exact .donePlain rfl
  · have hsome : (count != 0) = true := bne_iff_ne.mpr hcount
    rw [if_neg hcount, hsome, Bool.true_and]
    cases array with
    | none => exact .nullPlain
    | some array =>
      simp only [Option.map_some, Option.getD_some, ← isNone_entries?]
      cases f.entries? (array.take count.toNat) with
      | none => exact .nullPlain
      | some entries =>
        exact .donePlain (lastError_sendEntries x entries)

theorem told_runQueue (c : FlatQueueCall) :
    Told f (f.lacksQueue c) (f.faultQueue c) (FlatCall.queue c).kind (f.runQueue c) := by
  cases c with
  | takeRx port queue x => exact told_takeRx port queue x
  | takeTx port queue x => exact told_takeTx port queue x
  | putRx x => exact .donePlain rfl
  | putTx x => exact .donePlain rfl
  | receive x array count =>
    simp only [runQueue, lacksQueue, faultQueue]
    cases f.rxs.get? x with
    | none => exact .nullPlain
    | some y =>
      cases array with
      | none => exact .nullPlain
      | some array => exact .donePlain (lastError_keepArray _ _ _ _)
  | send x array count =>
    simp only [runQueue, lacksQueue, faultQueue]
    cases f.txs.get? x with
    | none => exact .nullPlain
    | some y => exact told_send y array count

/-! ## All calls -/

theorem told_runQuery (c : FlatQuery) :
    Told f (f.lacks (.query c)) none (FlatCall.query c).kind (f.runQuery c) := by
  cases c with
  | init => exact .doneInt rfl rfl (Int32.le_refl 0)
  | version => exact .donePointer rfl rfl
  | transactions => exact .doneInt rfl rfl (intOf_nonneg _)
  | cacheLine => exact .donePlain rfl
  | clock reading => exact .donePlain rfl
  | delay => exact .donePlain rfl
  | nodeOf lcore =>
    refine .composite ?_
    simp only [runQuery, nodeOf, lacks]
    cases f.machine.topology.lcore? lcore <;> rfl
  | _ => exact .composite rfl

/-- Every call records its failure, if it has one, and shows it. -/
theorem told_exec (h : f.fabric.Modest 2147483648) {c : FlatCall} (hc : c.Sized 2147483648) :
    Told f (f.lacks c) (f.fault? c) c.kind (f.exec c) := by
  cases c with
  | query c => exact told_runQuery c
  | lock c => exact told_runLock c
  | buffer c => exact told_runBuffer h hc
  | use c => exact told_runUse c
  | port c => exact told_runPort h c
  | queue c => exact told_runQueue c

end Flat
end Dataplane
