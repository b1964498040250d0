import Mathlib.Data.Multiset.AddSub
import Dataplane.Buffer.Content
import Dataplane.Pool.Bulk
import Dataplane.Pool.Cache
import Dataplane.Port.Burst
import Dataplane.Port.Lifecycle
import Dataplane.Port.Registry

/-! # Clients

A client is any program that uses the library, reduced to the handles in its hands. A handle is made
by a call, used by calls, and gone when a call gives it up; equal handles are told apart by nobody,
so that hands are multisets. A call with a handle that is not in the hands, or with a port that is
not registered, does nothing: no program can make it. Reachable states are those of `Client.run`.
-/
namespace Dataplane

structure Client where
  fabric : Fabric := {}
  buffers : Multiset Buffer := 0
  caches : Multiset Cache := 0
  rxs : Multiset RxQueue := 0
  txs : Multiset TxQueue := 0

inductive PoolCall
  | create (name : String) (config : PoolConfig) (hasMemory : Bool)
  | alloc (p : Nat)
  | allocInto (p n : Nat)
  | allocBulk (p n : Nat)
  | allocExact (p n : Nat)
  | free (bs : List Buffer)

inductive CacheCall
  | create (p : Nat)
  | alloc (c : Cache)
  | allocInto (c : Cache) (n : Nat)
  | free (c : Cache) (b : Buffer)
  | flush (c : Cache)
  | drop (c : Cache)

/-- What is done through one handle to a buffer. -/
inductive Edit
  | prepend (n : Nat)
  | append (n : Nat)
  | adj (n : Nat)
  | trim (n : Nat)
  | reset
  | resetHeadroom
  | write (start : Nat) (bytes : List UInt8)
  | writeCopy (start : Nat) (bytes : List UInt8)
  | extend (bytes : List UInt8)
  | prependBytes (bytes : List UInt8)
  | clone
  | duplicate
  | drop

inductive RegistryCall
  | createPair (a b : String) (macA macB : Mac)
  | createLoopback (name : String) (mac : Mac)
  | renew

inductive PortCall
  | configure (rx tx : Nat) (config : PortConfig)
  | setupRx (q descriptors : Nat)
  | setupTx (q descriptors : Nat)
  | start
  | stop
  | close
  | setLink (up : Bool)
  | pauseRx (q : Nat) (paused : Bool)
  | pauseTx (q : Nat) (paused : Bool)
  | setMac (mac : Mac)
  | setMtu (mtu : Nat)
  | setPromiscuous (on : Bool)
  | resetStats

inductive QueueCall
  | takeRx (p q : Nat)
  | takeTx (p q : Nat)
  | putRx (h : RxQueue)
  | putTx (h : TxQueue)
  | receive (h : RxQueue) (max : Nat)
  | send (h : TxQueue) (bs : List Buffer)

inductive Call
  | pool (c : PoolCall)
  | cache (c : CacheCall)
  | buffer (b : Buffer) (e : Edit)
  | registry (c : RegistryCall)
  | port (p : Nat) (c : PortCall)
  | queue (c : QueueCall)

namespace Edit

/-- The moved handle, or the old one if it cannot be moved. -/
def moved (s : Store) (b : Buffer) (r : Except Fault Buffer) : List Buffer × Store :=
  match r with
  | .ok c => ([c], s)
  | .error _ => ([b], s)

/-- The handle that takes the place of the old one, or the old one if there is none. -/
def replaced (s : Store) (b : Buffer) (r : Except Fault (Buffer × Store)) : List Buffer × Store :=
  match r with
  | .ok (c, t) => ([c], t)
  | .error _ => ([b], s)

/-- A write through a view of the window. Bytes that do not fit are not written. -/
def fill (s : Store) (b : Buffer) (start : Nat) (bytes : List UInt8) : Store :=
  if start + bytes.length ≤ b.window.size then s.write b start bytes else s

/-- The handles that there are in place of `b` afterwards, and the store. -/
def run (s : Store) (b : Buffer) : Edit → List Buffer × Store
  | .prepend n => moved s b (b.prepend n)
  | .append n => moved s b (b.append s n)
  | .adj n => moved s b (b.adj n)
  | .trim n => moved s b (b.trim n)
  | .reset => ([b.reset s], s)
  | .resetHeadroom => ([b.resetHeadroom s], s)
  | .write start bytes =>
    match s.writable b with
    | .ok () => ([b], fill s b start bytes)
    | .error _ => ([b], s)
  | .writeCopy start bytes =>
    match s.unshare b with
    | .ok (c, t) => ([c], fill t c start bytes)
    | .error _ => ([b], s)
  | .extend bytes => replaced s b (s.extend b bytes)
  | .prependBytes bytes => replaced s b (s.prependBytes b bytes)
  | .clone => ([b, (s.clone b).1], (s.clone b).2)
  | .duplicate =>
    match s.duplicate b with
    | .ok (c, t) => ([b, c], t)
    | .error _ => ([b], s)
  | .drop => ([], s.drop b)

end Edit

def PortCall.run (f : Fabric) (p : Nat) : PortCall → Except Fault Unit × Fabric
  | .configure rx tx config => f.configure p rx tx config
  | .setupRx q descriptors => f.setupRx p q descriptors
  | .setupTx q descriptors => f.setupTx p q descriptors
  | .start => f.start p
  | .stop => f.stop p
  | .close => f.close p
  | .setLink up => f.setLink p up
  | .pauseRx q paused => f.pauseRx p q paused
  | .pauseTx q paused => f.pauseTx p q paused
  | .setMac mac => f.setMac p mac
  | .setMtu mtu => f.setMtu p mtu
  | .setPromiscuous on => (.ok (), f.setPromiscuous p on)
  | .resetStats => (.ok (), f.resetStats p)

def refersTo (rxs : Multiset RxQueue) (txs : Multiset TxQueue) (p : Nat) : Bool :=
  0 < rxs.countP (·.port = p) || 0 < txs.countP fun h => h.port = p ∨ h.peer = p

namespace Client

variable (w : Client)

def store : Store := w.fabric.store

def hold (s : Store) (buffers : Multiset Buffer) : Client :=
  { w with fabric := w.fabric.updateStore fun _ => s, buffers }

def gain (r : List Buffer × Store) : Client := w.hold r.2 (↑r.1 + w.buffers)

def callPool : PoolCall → Client
  | .create name config hasMemory =>
    match w.store.create name config hasMemory with
    | .ok (_, s) => w.hold s w.buffers
    | .error _ => w
  | .alloc p =>
    match w.store.alloc p with
    | .ok (b, s) => w.gain ([b], s)
    | .error _ => w
  | .allocInto p n => w.gain (w.store.allocUpTo p n)
  | .allocBulk p n =>
    match w.store.allocBulk? p n with
    | some r => w.gain r
    | none => w
  | .allocExact p n =>
    match w.store.allocExact? p n with
    | some (.ok bs, s) => w.gain (bs, s)
    | some (.error _, s) => w.hold s w.buffers
    | none => w
  | .free bs => if ↑bs ≤ w.buffers then w.hold (w.store.dropAll bs) (w.buffers - ↑bs) else w

def recache (c d : Cache) : Client := { w with caches := d ::ₘ w.caches.erase c }

def callCache : CacheCall → Client
  | .create p => { w with caches := Cache.create w.store p ::ₘ w.caches }
  | .alloc c =>
    if c ∈ w.caches then
      match c.alloc w.store with
      | .ok (b, d, s) => (w.gain ([b], s)).recache c d
      | .error _ => w
    else w
  | .allocInto c n =>
    if c ∈ w.caches then
      let (bs, d, s) := c.allocUpTo w.store n
      (w.gain (bs, s)).recache c d
    else w
  | .free c b =>
    if c ∈ w.caches ∧ b ∈ w.buffers then
      let (d, s) := c.free w.store b
      (w.hold s (w.buffers.erase b)).recache c d
    else w
  | .flush c =>
    if c ∈ w.caches then
      let (d, s) := c.flush w.store
      (w.hold s w.buffers).recache c d
    else w
  | .drop c =>
    if c ∈ w.caches then
      { w.hold (c.flush w.store).2 w.buffers with caches := w.caches.erase c }
    else w

def callBuffer (b : Buffer) (e : Edit) : Client :=
  if b ∈ w.buffers then
    let (bs, s) := e.run w.store b
    w.hold s (↑bs + w.buffers.erase b)
  else w

def callRegistry : RegistryCall → Client
  | .createPair a b macA macB => { w with fabric := (w.fabric.createPair a b macA macB).2 }
  | .createLoopback name mac => { w with fabric := (w.fabric.createLoopback name mac).2 }
  | .renew => { w with fabric := w.fabric.renew (refersTo w.rxs w.txs) }

/-- Whether a port belongs to the registry of today. -/
def IsPort (p : Nat) : Prop := w.fabric.base ≤ p ∧ p < w.fabric.ports.size

instance (p : Nat) : Decidable (w.IsPort p) := inferInstanceAs (Decidable (_ ∧ _))

def callPort (p : Nat) (c : PortCall) : Client :=
  if w.IsPort p then { w with fabric := (c.run w.fabric p).2 } else w

def takeRx (p q : Nat) : Client :=
  match w.fabric.takeRx p q with
  | (.ok h, f) => { w with fabric := f, rxs := h ::ₘ w.rxs }
  | (.error _, f) => { w with fabric := f }

def takeTx (p q : Nat) : Client :=
  match w.fabric.takeTx p q with
  | (.ok h, f) => { w with fabric := f, txs := h ::ₘ w.txs }
  | (.error _, f) => { w with fabric := f }

/-- Gives a handle back. The port of a registry that is gone is given up with its last handle. -/
def putRx (h : RxQueue) : Client :=
  let rxs := w.rxs.erase h
  { w with fabric := (w.fabric.putRx h).abandon (refersTo rxs w.txs) h.port, rxs }

def putTx (h : TxQueue) : Client :=
  let txs := w.txs.erase h
  let inUse := refersTo w.rxs txs
  { w with fabric := ((w.fabric.putTx h).abandon inUse h.port).abandon inUse h.peer, txs }

def receive (h : RxQueue) (max : Nat) : Client :=
  let (bs, f) := w.fabric.rxBurst h max
  { w with fabric := f, buffers := ↑bs + w.buffers }

def send (h : TxQueue) (bs : List Buffer) : Client :=
  let (_, left, f) := w.fabric.txBurst h bs
  { w with fabric := f, buffers := ↑left + (w.buffers - ↑bs) }

def callQueue : QueueCall → Client
  | .takeRx p q => if w.IsPort p then w.takeRx p q else w
  | .takeTx p q => if w.IsPort p then w.takeTx p q else w
  | .putRx h => if h ∈ w.rxs then w.putRx h else w
  | .putTx h => if h ∈ w.txs then w.putTx h else w
  | .receive h max => if h ∈ w.rxs then w.receive h max else w
  | .send h bs => if h ∈ w.txs ∧ ↑bs ≤ w.buffers then w.send h bs else w

def Bursts : QueueCall → Prop
  | .receive h _ => h ∈ w.rxs
  | .send h bs => h ∈ w.txs ∧ ↑bs ≤ w.buffers
  | _ => False

/-- A call on a queue is a burst, or does what it is for, or nothing. -/
theorem callQueue_cases {P : Client → Prop} (hstay : P w)
    (hTakeRx : ∀ p q, w.IsPort p → P (w.takeRx p q))
    (hTakeTx : ∀ p q, w.IsPort p → P (w.takeTx p q))
    (hPutRx : ∀ x ∈ w.rxs, P (w.putRx x)) (hPutTx : ∀ x ∈ w.txs, P (w.putTx x))
    (c : QueueCall) : (¬w.Bursts c ∧ P (w.callQueue c)) ∨
      (∃ x ∈ w.rxs, ∃ max, c = .receive x max ∧ w.callQueue c = w.receive x max) ∨
      ∃ x ∈ w.txs, ∃ bs : List Buffer, ↑bs ≤ w.buffers ∧ c = .send x bs ∧
        w.callQueue c = w.send x bs := by
  cases c with
  | receive x max =>
    rw [callQueue]
    split
    · rename_i hx
      exact .inr (.inl ⟨x, hx, max, rfl, rfl⟩)
    · rename_i hx
      exact .inl ⟨hx, hstay⟩
  | send x bs =>
    rw [callQueue]
    split
    · rename_i hheld
      exact .inr (.inr ⟨x, hheld.1, bs, hheld.2, rfl, rfl⟩)
    · rename_i hheld
      exact .inl ⟨hheld, hstay⟩
  | takeRx p q =>
    refine .inl ⟨id, ?_⟩
    rw [callQueue]
    split
    · rename_i hport
      exact hTakeRx p q hport
    · exact hstay
  | takeTx p q =>
    refine .inl ⟨id, ?_⟩
    rw [callQueue]
    split
    · rename_i hport
      exact hTakeTx p q hport
    · exact hstay
  | putRx x =>
    refine .inl ⟨id, ?_⟩
    rw [callQueue]
    split
    · rename_i hx
      exact hPutRx x hx
    · exact hstay
  | putTx x =>
    refine .inl ⟨id, ?_⟩
    rw [callQueue]
    split
    · rename_i hx
      exact hPutTx x hx
    · exact hstay

theorem callQueue_of {P : Client → Prop} (hstay : P w)
    (hTakeRx : ∀ p q, w.IsPort p → P (w.takeRx p q))
    (hTakeTx : ∀ p q, w.IsPort p → P (w.takeTx p q))
    (hPutRx : ∀ x ∈ w.rxs, P (w.putRx x)) (hPutTx : ∀ x ∈ w.txs, P (w.putTx x))
    (hReceive : ∀ x ∈ w.rxs, ∀ max, P (w.receive x max))
    (hSend : ∀ x ∈ w.txs, ∀ bs : List Buffer, ↑bs ≤ w.buffers → P (w.send x bs))
    (c : QueueCall) : P (w.callQueue c) := by
  rcases w.callQueue_cases hstay hTakeRx hTakeTx hPutRx hPutTx c with
    ⟨-, hquiet⟩ | ⟨x, hx, max, -, heq⟩ | ⟨x, hx, bs, hbs, -, heq⟩
  · exact hquiet
  · rw [heq]
    exact hReceive x hx max
  · rw [heq]
    exact hSend x hx bs hbs

def call : Call → Client
  | .pool c => w.callPool c
  | .cache c => w.callCache c
  | .buffer b e => w.callBuffer b e
  | .registry c => w.callRegistry c
  | .port p c => w.callPort p c
  | .queue c => w.callQueue c

def callAll (calls : List Call) : Client := calls.foldl call w

/-- A program that starts with nothing. -/
def run (calls : List Call) : Client := callAll {} calls

theorem callAll_induction {P : Client → Prop} (step : ∀ w c, P w → P (w.call c))
    (calls : List Call) (w : Client) (hw : P w) : P (w.callAll calls) := by
  induction calls generalizing w with
  | nil => exact hw
  | cons c rest ih => exact ih (w.call c) (step w c hw)

/-- What is true at the start and kept by every call is always true. -/
theorem run_induction {P : Client → Prop} (start : P {}) (step : ∀ w c, P w → P (w.call c))
    (calls : List Call) : P (run calls) :=
  callAll_induction step calls {} start

theorem run_append (calls more : List Call) : run (calls ++ more) = (run calls).callAll more :=
  List.foldl_append

theorem takeRx_fabric (p q : Nat) : (w.takeRx p q).fabric = (w.fabric.takeRx p q).2 := by
  unfold takeRx
  split <;> (rename_i heq; rw [heq])

theorem takeTx_fabric (p q : Nat) : (w.takeTx p q).fabric = (w.fabric.takeTx p q).2 := by
  unfold takeTx
  split <;> (rename_i heq; rw [heq])

variable (x : TxQueue)

theorem putTx_rxs : (w.putTx x).rxs = w.rxs := by
  unfold putTx
  dsimp only

theorem putTx_txs : (w.putTx x).txs = w.txs.erase x := by
  unfold putTx
  dsimp only

theorem putTx_fabric : (w.putTx x).fabric =
    ((w.fabric.putTx x).abandon (refersTo w.rxs (w.txs.erase x)) x.port).abandon
      (refersTo w.rxs (w.txs.erase x)) x.peer := by
  unfold putTx
  dsimp only

end Client
end Dataplane
