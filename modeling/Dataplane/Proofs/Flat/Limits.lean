import Dataplane.Proofs.Flat.Arrays
import Dataplane.Proofs.Flat.Faults
import Dataplane.Proofs.Pool.Limits
import Dataplane.Proofs.Port.Registry

/-! # Numbers that callers get

Port numbers fit into 16 bits, every port is on the first socket, and as long as all pools are made
small they stay small, so that none of these numbers can be taken for the code of a failure.
-/
namespace Dataplane

namespace Fabric

/-- Pools have less than `n` slots, and ports have numbers that fit into 16 bits. -/
structure Modest (n : Nat) (f : Fabric) : Prop where
  pools : f.store.Within n
  number : ∀ p, (f.port p).number < maxPorts
  socket : ∀ p, (f.port p).socket = 0

namespace Modest

variable {n : Nat} {f g : Fabric}

theorem empty (hn : 0 < n) : Modest n {} where
  pools := .empty hn
  number _ := Nat.zero_lt_succ _
  socket _ := rfl

theorem withStore (h : Modest n f) {s : Store} (hs : s.Within n) : Modest n { f with store := s } :=
  ⟨hs, h.number, h.socket⟩

theorem dropAll (h : Modest n f) (bs : List Buffer) :
    Modest n { f with store := f.store.dropAll bs } :=
  h.withStore (h.pools.dropAll bs)

theorem upkeep (h : Modest n f) (hfg : Upkeep f g) : Modest n g where
  pools := by
    obtain ⟨bs, hbs⟩ := hfg.store
    rw [hbs]
    exact h.pools.dropAll bs
  number p := by
    have hsame : (g.port p).number = (f.port p).number := congrArg Label.number (hfg.label p)
    rw [hsame]
    exact h.number p
  socket p := by
    have hsame : (g.port p).socket = (f.port p).socket := congrArg Label.socket (hfg.label p)
    rw [hsame]
    exact h.socket p

theorem addPort (h : Modest n f) (hroom : f.portCount < maxPorts) (name : String) (peer : Nat)
    (mac : Mac) : Modest n (f.addPort name peer mac) := by
  refine ⟨h.pools, fun p => ?_, fun p => ?_⟩ <;> rw [port_addPort] <;> split
  · exact hroom
  · exact h.number p
  · rfl
  · exact h.socket p

theorem createLoopback (h : Modest n f) (name : String) (mac : Mac) :
    Modest n (f.createLoopback name mac).2 := by
  rcases f.createLoopback_cases name mac with ⟨e, heq⟩ | ⟨-, hroom, heq⟩
  · rw [heq]
    exact h
  · rw [heq]
    exact h.addPort hroom _ _ _

theorem createPair (h : Modest n f) (a b : String) (macA macB : Mac) :
    Modest n (f.createPair a b macA macB).2 := by
  rcases f.createPair_cases a b macA macB with ⟨e, heq⟩ | ⟨-, hroom, heq⟩
  · rw [heq]
    exact h
  · have hsecond : (f.addPort a (f.ports.size + 1) macA).portCount ≤ f.portCount + 1 := by
      simp only [portCount, Fabric.addPort, Array.size_push]
      omega
    rw [heq]
    exact (h.addPort (by omega) _ _ _).addPort (by omega) _ _ _

end Modest
end Fabric

/-- What a call does on one port by its number, if that is all it does. -/
def FlatPortCall.onPort? : FlatPortCall → Option (Nat × PortCall)
  | .configure port rx tx => some (port, .configure rx tx {})
  | .setupRx port queue descriptors => some (port, .setupRx queue descriptors)
  | .setupTx port queue descriptors => some (port, .setupTx queue descriptors)
  | .start port => some (port, .start)
  | .stop port => some (port, .stop)
  | .close port => some (port, .close)
  | .setLink port up => some (port, .setLink up)
  | .pauseRx port queue paused => some (port, .pauseRx queue paused)
  | .pauseTx port queue paused => some (port, .pauseTx queue paused)
  | .setMac port station => station.map fun new => (port, .setMac new)
  | .setMtu port size => some (port, .setMtu size)
  | .setPromiscuous port on => some (port, .setPromiscuous on)
  | .resetStats port => some (port, .resetStats)
  | _ => none

/-- The sizes in a call are those that its types have room for, and a new pool has less than `n`
buffers. -/
def FlatCall.Sized (n : Nat) : FlatCall → Prop
  | .buffer (.createPool _ _ buffers _ _ _ _) => buffers < n
  | .buffer (.allocBulk _ _ count) => count < 4294967296
  | _ => True

namespace Flat

variable {n : Nat} {f : Flat}

theorem runPort_eq {c : FlatPortCall} {port : Nat} {pc : PortCall}
    (h : c.onPort? = some (port, pc)) :
    f.runPort c = f.onPort port fun p => pc.run f.fabric p := by
  cases c with
  | setMac number mac =>
    cases mac with
    | none => cases h
    | some mac =>
      cases h
      rfl
  | _ => cases h <;> rfl

/-! ## What calls leave of the limits -/

theorem withPool_of {P : Step → Prop} {p : String} {null : FlatReply} {k : Nat → Step}
    (hnull : P (null, f.failNull)) (hk : ∀ i, P (k i)) : P (f.withPool p null k) := by
  unfold withPool
  split
  · exact hk _
  · exact hnull

theorem withBuffer_of {P : Step → Prop} {m : String} {null : FlatReply} {k : Buffer → Step}
    (hnull : P (null, f.failNull)) (hk : ∀ b, P (k b)) : P (f.withBuffer m null k) := by
  unfold withBuffer
  split
  · exact hk _
  · exact hnull

def Modest (n : Nat) (r : Step) : Prop := r.2.fabric.Modest n

theorem modest_numbered {r : Except Fault Nat × Fabric} (hr : r.2.Modest n) :
    Modest n (f.numbered r) := by
  obtain ⟨_ | _, g⟩ := r
  · exact hr
  · exact hr

section

variable (h : f.fabric.Modest n)
include h

theorem modest_keepBuffer {s : Store} (hs : s.Within n) (m : String) (b : Buffer) :
    ((f.setStore s).keepBuffer m b).fabric.Modest n :=
  (h.withStore hs).dropAll _

theorem modest_keepArray (array : String) (first : Nat) (bs : List Buffer) :
    (f.keepArray array first bs).fabric.Modest n := by
  rw [keepArray_eq]
  exact h.dropAll _

theorem modest_keepHandle {r : Except Fault (Buffer × Store)}
    (hr : ∀ b s, r = .ok (b, s) → s.Within n) (m : String) : Modest n (f.keepHandle m r) := by
  cases r with
  | error e => exact h
  | ok r => exact modest_keepBuffer h (hr _ _ rfl) m r.1

theorem modest_withPrivate {m : String} {k : Flat → Buffer → Step}
    (hk : ∀ g b, g.fabric.Modest n → Modest n (k g b)) : Modest n (f.withPrivate m k) := by
  refine withBuffer_of h fun b => ?_
  split
  · exact h
  · rename_i hu
    exact hk _ _ (h.withStore (h.pools.unshare hu))

theorem modest_moveWindow (m : String) (distance : Nat) (r : Except Fault Buffer) :
    Modest n (f.moveWindow m distance r) := by
  cases r with
  | error e => exact h
  | ok b => exact h

theorem modest_runBuffer (c : FlatBufferCall) (hc : (FlatCall.buffer c).Sized n) :
    Modest n (f.runBuffer c) := by
  cases c with
  | createPool p name buffers cacheSize dataRoom socket hasMemory =>
    cases name with
    | none => exact h
    | some octets =>
      simp only [runBuffer, createPool]
      split
      · exact h
      · rename_i hs
        refine h.withStore (h.pools.create ?_ hs)
        exact hc
  | alloc p m =>
    exact withPool_of h fun i => modest_keepHandle h (fun b s hs => h.pools.alloc hs) m
  | allocBulk p array count =>
    refine withPool_of h fun i => ?_
    cases array with
    | none => exact h
    | some array =>
      dsimp only [allocBulk]
      split
      · exact h
      · rename_i hs
        exact h.withStore (h.pools.allocExact hs)
      · rename_i hs
        exact modest_keepArray (f := f.setStore _) (h.withStore (h.pools.allocExact hs)) _ _ _
  | allocPartial p array count =>
    refine withPool_of h fun i => ?_
    cases array with
    | none => exact h
    | some array =>
      exact modest_keepArray (f := f.setStore _) (h.withStore (h.pools.allocUpTo i count)) _ _ _
  | free m => exact h.dropAll _
  | clone m target =>
    exact withBuffer_of h fun b =>
      modest_keepHandle h (fun c s hs => by cases hs; exact h.pools.clone b) target
  | copy m target =>
    exact withBuffer_of h fun b =>
      modest_keepHandle h (fun c s hs => h.pools.duplicate hs) target
  | writableData m => exact modest_withPrivate h fun g b hg => hg
  | prepend m k => exact modest_withPrivate h fun g b hg => modest_moveWindow hg m 0 _
  | append m k => exact modest_withPrivate h fun g b hg => modest_moveWindow hg m _ _
  | adj m k => exact modest_withPrivate h fun g b hg => modest_moveWindow hg m 0 _
  | trim m k =>
    refine withBuffer_of h fun b => ?_
    split
    · exact h
    · exact h
  | available p => exact withPool_of h fun _ => h
  | inUse p => exact withPool_of h fun _ => h
  | data m => exact withBuffer_of h fun _ => h
  | reset m => exact withBuffer_of h fun _ => h
  | freePool p => exact h
  | _ =>
    simp only [runBuffer, unsigned16, size16, headroom16, tailroom16, holders16, count16, Modest]
    split
    · exact h
    · exact h

theorem modest_writeAt (m : String) (start : Nat) (bytes : List UInt8) :
    Modest n (f.writeAt m start bytes) := by
  have hprivate : Modest n (f.withPrivate m fun g _ => (.place (some 0), g)) :=
    modest_withPrivate h fun _ _ hg => hg
  unfold writeAt
  split
  · rename_i heq
    rw [heq] at hprivate
    split
    · exact Fabric.Modest.withStore hprivate (hprivate.pools.write _ _ _)
    · exact hprivate
  · rename_i heq
    rw [heq] at hprivate
    exact hprivate

theorem modest_runUse (c : FlatUse) : Modest n (f.runUse c) := by
  have hcount : ∀ {g : Flat} (m : String) (k : Buffer → Nat), g.fabric.Modest n →
      (g.count16 m k).2.fabric.Modest n := by
    intro g m k hg
    unfold count16
    split <;> exact hg
  have haddress : ∀ {g : Flat} (m : String), g.fabric.Modest n →
      (g.address m).2.fabric.Modest n := by
    intro g m hg
    unfold address
    split <;> exact hg
  cases c with
  | inspect m => exact hcount m _ (hcount m _ (hcount m _ (hcount m _ h)))
  | compare m other => exact haddress other (haddress m h)
  | peek m => exact withBuffer_of h fun _ => h
  | poke m start bytes =>
    have hsize := hcount m (fun b => b.window.size) h
    have hwrite := modest_writeAt hsize m start bytes
    by_cases hout : start + bytes.length > (f.size16 m).1.toNat
    · simp only [runUse, if_pos hout]
      exact hsize
    · simp only [runUse, if_neg hout]
      exact hwrite

theorem modest_onPort {number : Nat} {g : Nat → Except Fault Unit × Fabric}
    (hg : ∀ p, f.fabric.Upkeep (g p).2) : Modest n (f.onPort number g) := by
  unfold onPort
  split
  · exact h
  · rename_i p _
    have hp := h.upkeep (hg p)
    dsimp only
    cases (g p).1 with
    | error e => exact hp
    | ok _ => exact hp

theorem modest_readPort {α : Type} {number : Nat} {hasOut : Bool}
    {out : Int32 → Option α → FlatReply} {g : Port → α} :
    Modest n (f.readPort number hasOut out g) := by
  unfold readPort
  split
  · split <;> exact h
  · exact h

theorem modest_withName {name : Option (List UInt8)} {k : String → Step}
    (hk : ∀ name, Modest n (k name)) : Modest n (f.withName name k) := by
  unfold withName
  split
  · exact hk _
  · exact h

theorem modest_runPort (c : FlatPortCall) : Modest n (f.runPort c) := by
  cases hon : c.onPort? with
  | some r =>
    obtain ⟨port, pc⟩ := r
    rw [runPort_eq hon]
    exact modest_onPort h fun p => .runPort _ p pc
  | none =>
    cases c with
    | createPair a b hasOut first second =>
      cases a with
      | none => exact h
      | some a =>
        cases b with
        | none => exact h
        | some b =>
          have hmade := h.createPair (nameText a) (nameText b) (.drawn first) (.drawn second)
          simp only [runPort, createPair]
          split
          all_goals
            rename_i heq
            rw [heq] at hmade
            exact hmade
    | createLoopback name octets =>
      exact modest_withName h fun name => modest_numbered (h.createLoopback name _)
    | find name => exact modest_withName h fun name => modest_numbered h
    | setMac port station =>
      cases station with
      | none => exact h
      | some _ => cases hon
    | countOpen => exact h
    | socket port =>
      simp only [runPort, intOfPort]
      split <;> exact h
    | promiscuous port =>
      simp only [runPort, intOfPort]
      split <;> exact h
    | info port hasOut => exact modest_readPort h
    | mac port hasOut => exact modest_readPort h
    | mtu port hasOut => exact modest_readPort h
    | link port hasOut => exact modest_readPort h
    | stats port hasOut => exact modest_readPort h
    | _ => cases hon

theorem modest_dropRx (x : Option RxQueue) : (f.dropRx x).fabric.Modest n :=
  h.upkeep (.foldl .putRx f.fabric x.toList)

theorem modest_dropTx (x : Option TxQueue) : (f.dropTx x).fabric.Modest n :=
  h.upkeep (.foldl .putTx f.fabric x.toList)

theorem modest_sendEntries (x : TxQueue) (entries : List (String × Buffer)) :
    Modest n (f.sendEntries x entries) := by
  have hsent := h.upkeep (.txBurst f.fabric x (entries.map Prod.snd))
  unfold sendEntries Modest
  dsimp only
  rw [refill_eq]
  exact hsent

theorem modest_runQueue (c : FlatQueueCall) : Modest n (f.runQueue c) := by
  cases c with
  | takeRx port queue x =>
    simp only [runQueue, takeRx]
    split
    · exact h
    · rename_i p _
      have htaken := h.upkeep (.takeRx f.fabric p queue)
      split
      · rename_i heq
        rw [heq] at htaken
        exact htaken
      · rename_i heq
        rw [heq] at htaken
        exact modest_dropRx (f := { f.setFabric _ with rxs := _ }) htaken _
  | takeTx port queue x =>
    simp only [runQueue, takeTx]
    split
    · exact h
    · rename_i p _
      have htaken := h.upkeep (.takeTx f.fabric p queue)
      split
      · rename_i heq
        rw [heq] at htaken
        exact htaken
      · rename_i heq
        rw [heq] at htaken
        exact modest_dropTx (f := { f.setFabric _ with txs := _ }) htaken _
  | putRx x => exact modest_dropRx (f := { f with rxs := _ }) h _
  | putTx x => exact modest_dropTx (f := { f with txs := _ }) h _
  | receive x array count =>
    simp only [runQueue]
    split
    · exact modest_keepArray (f := f.setFabric _) (h.upkeep (.rxBurst f.fabric _ count.toNat)) _ _ _
    · exact h
  | send x array count =>
    simp only [runQueue]
    split
    · simp only [send]
      split
      · exact h
      · split
        · exact h
        · split
          · exact h
          · exact modest_sendEntries h _ _
    · exact h

theorem modest_runLock (c : FlatLockCall) : Modest n (f.runLock c) := by
  have hlocks : (f.runLock c).2.fabric = f.fabric := by
    cases c with
    | create l => rfl
    | free l => rfl
    | createRecursive l => rfl
    | freeRecursive l => rfl
    | _ =>
      simp only [runLock, withSpin, withRecursive]
      split
      · first | rfl | (split <;> rfl)
      · rfl
  rw [Modest, hlocks]
  exact h

theorem modest_exec {c : FlatCall} (hc : c.Sized n) : Modest n (f.exec c) := by
  cases c with
  | query c =>
    cases c with
    | nodeOf lcore =>
      simp only [exec, runQuery, nodeOf]
      split <;> exact h
    | _ => exact h
  | lock c => exact modest_runLock h c
  | buffer c => exact modest_runBuffer h c hc
  | use c => exact modest_runUse h c
  | port c => exact modest_runPort h c
  | queue c => exact modest_runQueue h c

end

theorem modest_run (h : f.fabric.Modest n) {calls : List FlatCall}
    (hcalls : ∀ c ∈ calls, c.Sized n) : (f.run calls).fabric.Modest n := by
  induction calls generalizing f with
  | nil => exact h
  | cons c rest ih =>
    exact ih (modest_exec h (hcalls c List.mem_cons_self)) fun c hc =>
      hcalls c (List.mem_cons_of_mem _ hc)

end Flat
end Dataplane
