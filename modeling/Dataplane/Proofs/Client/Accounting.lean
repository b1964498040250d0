import Mathlib.Data.Multiset.Bind
import Dataplane.Proofs.Buffer.Sharing
import Dataplane.Proofs.Client.Basic
import Dataplane.Proofs.Pool.Caching
import Dataplane.Proofs.Port.Frames

/-! # The ledger of a client

Every call keeps the ledger: the handles in the hands of a client and in the rings are all the
handles there are, and the slots in its caches are all that are set aside. In every reachable state
a slot is thus in the queue, in a cache, or held, and what is allocated nobody names.
-/
namespace Dataplane

open Store

/-! ## Edits -/

theorem ledger_fill {s : Store} {live : Multiset Buffer} {aside : Multiset Place} {b : Buffer}
    (h : s.Ledger (b ::ₘ live) aside) (halone : ∀ c ∈ live, c.place ≠ b.place) (start : Nat)
    (bytes : List UInt8) : (Edit.fill s b start bytes).Ledger (b ::ₘ live) aside ∧
      SameData s (Edit.fill s b start bytes) live := by
  unfold Edit.fill
  split
  · rename_i hin
    exact h.write_alone halone hin
  · exact ⟨h, fun _ _ => rfl⟩

/-- What an edit through one handle does: the ledger is kept, and the other handles see what they
saw. -/
theorem Edit.run_kept {s : Store} {live : Multiset Buffer} {aside : Multiset Place} {b : Buffer}
    (h : s.Ledger (b ::ₘ live) aside) (e : Edit) :
    (e.run s b).2.Ledger (↑(e.run s b).1 + live) aside ∧ SameData s (e.run s b).2 live := by
  have hself : SameData s s live := fun _ _ => rfl
  have hstay : s.Ledger (↑[b] + live) aside ∧ SameData s s live := ⟨h, hself⟩
  have hpair : ∀ c, (↑[b, c] : Multiset Buffer) + live = b ::ₘ c ::ₘ live := by
    intro c
    rw [← Multiset.cons_coe, Multiset.cons_add]
    rfl
  cases e with
  | prepend n =>
    simp only [run, moved]
    cases hr : b.prepend n with
    | error _ => exact hstay
    | ok c => exact ⟨h.shift .prepend hr, hself⟩
  | append n =>
    simp only [run, moved]
    cases hr : b.append s n with
    | error _ => exact hstay
    | ok c => exact ⟨h.shift .append hr, hself⟩
  | adj n =>
    simp only [run, moved]
    cases hr : b.adj n with
    | error _ => exact hstay
    | ok c => exact ⟨h.shift .adj hr, hself⟩
  | trim n =>
    simp only [run, moved]
    cases hr : b.trim n with
    | error _ => exact hstay
    | ok c => exact ⟨h.shift .trim hr, hself⟩
  | reset => exact ⟨h.reset, hself⟩
  | resetHeadroom => exact ⟨h.resetHeadroom, hself⟩
  | write start bytes =>
    simp only [run]
    cases hw : s.writable b with
    | error _ => exact hstay
    | ok _ => exact ledger_fill h (h.unnamed_of_not_shared (writable_eq_ok hw)) start bytes
  | writeCopy start bytes =>
    simp only [run]
    cases hu : s.unshare b with
    | error _ => exact hstay
    | ok r =>
      obtain ⟨hledger, hdata, halone⟩ := h.unshare hu
      obtain ⟨hfilled, hsame⟩ := ledger_fill hledger halone start bytes
      exact ⟨hfilled, hdata.trans hsame⟩
  | extend bytes =>
    simp only [run, replaced]
    cases hr : s.extend b bytes with
    | error _ => exact hstay
    | ok r => exact h.fill .extend hr
  | prependBytes bytes =>
    simp only [run, replaced]
    cases hr : s.prependBytes b bytes with
    | error _ => exact hstay
    | ok r => exact h.fill .prependBytes hr
  | clone =>
    refine ⟨?_, (sameMemory_clone s b).sameData live⟩
    rw [run, hpair]
    exact h.retain (Multiset.mem_cons_self b live)
  | duplicate =>
    simp only [run]
    cases hr : s.duplicate b with
    | error _ => exact hstay
    | ok r =>
      obtain ⟨hledger, hdata, -⟩ := h.duplicate hr
      rw [Multiset.cons_swap, ← hpair] at hledger
      exact ⟨hledger, fun c hc => hdata c (Multiset.mem_cons_of_mem hc)⟩
  | drop =>
    refine ⟨?_, (sameMemory_drop s b).sameData live⟩
    rw [run, Multiset.coe_nil, Multiset.zero_add]
    exact h.drop

/-! ## Calls -/

namespace Fabric.Balanced

variable {f : Fabric} {held : Multiset Buffer} {aside : Multiset Place}

theorem createPair (h : f.Balanced held aside) (a b : String) (macA macB : Mac) :
    (f.createPair a b macA macB).2.Balanced held aside := by
  unfold Fabric.createPair
  dsimp only
  split <;> exact h

theorem createLoopback (h : f.Balanced held aside) (name : String) (mac : Mac) :
    (f.createLoopback name mac).2.Balanced held aside := by
  unfold Fabric.createLoopback
  dsimp only
  split <;> exact h

theorem runPort (h : f.Balanced held aside) (p : Nat) (c : PortCall) :
    (c.run f p).2.Balanced held aside := by
  cases c with
  | configure rx tx config => exact h.checked ((h.resetQueues p rx tx).updatePort p _)
  | setupRx q descriptors => exact h.checked (h.installRing p q descriptors)
  | setupTx q descriptors => exact h.checked (h.updatePort p _)
  | start => exact h.checked (h.updatePort p _)
  | stop => exact h.checked (h.updatePort p _)
  | close => exact h.checked ((h.resetQueues p 0 0).updatePort p _)
  | setLink up => exact h.checked (h.updatePort p _)
  | pauseRx q paused => exact h.checked (h.updatePort p _)
  | pauseTx q paused => exact h.checked (h.updatePort p _)
  | setMac mac => exact h.checked (h.updatePort p _)
  | setMtu mtu => exact h.checked (h.updatePort p _)
  | setPromiscuous on => exact h.updatePort p _
  | resetStats => exact h.updatePort p _

end Fabric.Balanced

namespace Client

/-- Every live handle: those in the hands and those in rings. -/
def live (w : Client) : Multiset Buffer := w.buffers + w.fabric.inFlight

def cached (w : Client) : Multiset Place := w.caches.bind Cache.places

def Balanced (w : Client) : Prop := w.fabric.Balanced w.buffers w.cached

variable {w : Client}

theorem Balanced.ledger (h : w.Balanced) : w.store.Ledger w.live w.cached := h

theorem Balanced.ledger_of_mem (h : w.Balanced) {c : Cache} (hc : c ∈ w.caches) :
    w.store.Ledger w.live (c.places + (w.caches.erase c).bind Cache.places) := by
  have hledger := h.ledger
  rwa [cached, ← Multiset.cons_erase hc, Multiset.cons_bind] at hledger

theorem Balanced.gain (r : List Buffer × Store) (h : r.2.Ledger (↑r.1 + w.live) w.cached) :
    (w.gain r).Balanced := by
  rw [live, ← add_assoc] at h
  exact h

theorem Balanced.callPool (h : w.Balanced) (c : PoolCall) : (w.callPool c).Balanced := by
  cases c with
  | create name config hasMemory =>
    simp only [Client.callPool]
    cases hr : w.store.create name config hasMemory with
    | error _ => exact h
    | ok r => exact h.ledger.create hr
  | alloc p =>
    simp only [Client.callPool]
    cases hr : w.store.alloc p with
    | error _ => exact h
    | ok r => exact .gain ([r.1], r.2) (h.ledger.alloc hr).1
  | allocInto p n => exact .gain _ (h.ledger.allocUpTo p n).1
  | allocBulk p n =>
    simp only [Client.callPool]
    cases hr : w.store.allocBulk? p n with
    | none => exact h
    | some r =>
      rw [allocBulk?_eq_some hr]
      exact .gain _ (h.ledger.allocUpTo p n).1
  | allocExact p n =>
    simp only [Client.callPool]
    cases hr : w.store.allocExact? p n with
    | none => exact h
    | some r =>
      have hall := (h.ledger.allocUpTo p n).1
      rcases allocExact?_eq_some hr with rfl | rfl
      · exact hall.dropAll
      · exact .gain _ hall
  | free bs =>
    simp only [Client.callPool]
    split
    · rename_i hbs
      have hledger := h.ledger
      rw [live, ← add_tsub_cancel_of_le hbs, add_assoc] at hledger
      exact hledger.dropAll
    · exact h

/-- A call may change one cache, whose slots it then accounts for. -/
theorem Balanced.recache {c d : Cache} {s : Store} {buffers : Multiset Buffer} (hc : c ∈ w.caches)
    (h : w.store.Ledger w.live (c.places + (w.caches.erase c).bind Cache.places) →
      s.Ledger (buffers + w.fabric.inFlight)
        (d.places + (w.caches.erase c).bind Cache.places))
    (hw : w.Balanced) : ((w.hold s buffers).recache c d).Balanced := by
  have hnew := h (hw.ledger_of_mem hc)
  rw [← Multiset.cons_bind] at hnew
  exact hnew

theorem Balanced.callCache (h : w.Balanced) (c : CacheCall) : (w.callCache c).Balanced := by
  cases c with
  | create p =>
    have hempty : (Cache.create w.store p).places = 0 := rfl
    have hcached : (w.callCache (.create p)).cached = w.cached := by
      change Multiset.bind (_ ::ₘ _) _ = _
      rw [Multiset.cons_bind, hempty, zero_add]
      rfl
    change w.fabric.Balanced w.buffers (w.callCache (.create p)).cached
    rw [hcached]
    exact h
  | alloc c =>
    simp only [Client.callCache]
    split
    · rename_i hc
      cases hr : c.alloc w.store with
      | error _ => exact h
      | ok r =>
        refine h.recache hc fun hledger => ?_
        rw [add_assoc]
        exact (hledger.cacheAlloc hr).1
    · exact h
  | allocInto c n =>
    simp only [Client.callCache]
    split
    · rename_i hc
      refine h.recache hc fun hledger => ?_
      rw [add_assoc]
      exact (hledger.cacheAllocUpTo n).1
    · exact h
  | free c b =>
    simp only [Client.callCache]
    split
    · rename_i hheld
      refine h.recache hheld.1 fun hledger => ?_
      rw [live, ← Multiset.cons_erase hheld.2, Multiset.cons_add] at hledger
      exact hledger.cacheFree
    · exact h
  | flush c =>
    simp only [Client.callCache]
    split
    · rename_i hc
      refine h.recache hc fun hledger => ?_
      have hempty : (c.flush w.store).1.places = 0 := rfl
      rw [hempty, zero_add]
      exact hledger.flush
    · exact h
  | drop c =>
    simp only [Client.callCache]
    split
    · rename_i hc
      exact (h.ledger_of_mem hc).flush
    · exact h

theorem Balanced.callBuffer (h : w.Balanced) (b : Buffer) (e : Edit) :
    (w.callBuffer b e).Balanced := by
  unfold Client.callBuffer
  split
  · rename_i hb
    have hledger := h.ledger
    rw [live, ← Multiset.cons_erase hb, Multiset.cons_add] at hledger
    have hkept := (Edit.run_kept hledger e).1
    rw [← add_assoc] at hkept
    exact hkept
  · exact h

theorem Balanced.callRegistry (h : w.Balanced) (c : RegistryCall) :
    (w.callRegistry c).Balanced := by
  cases c with
  | createPair a b macA macB => exact Fabric.Balanced.createPair h a b macA macB
  | createLoopback name mac => exact Fabric.Balanced.createLoopback h name mac
  | renew => exact Fabric.Balanced.renew h _

theorem Balanced.callPort (h : w.Balanced) (p : Nat) (c : PortCall) :
    (w.callPort p c).Balanced := by
  unfold Client.callPort
  split
  · exact Fabric.Balanced.runPort h p c
  · exact h

theorem Balanced.rewire {f : Fabric} {buffers : Multiset Buffer} (h : f.Balanced buffers w.cached)
    (rxs : Multiset RxQueue) (txs : Multiset TxQueue) :
    Balanced { fabric := f, buffers, caches := w.caches, rxs, txs } := h

theorem Balanced.callQueue (h : w.Balanced) (c : QueueCall) : (w.callQueue c).Balanced := by
  have hf : w.fabric.Balanced w.buffers w.cached := h
  refine w.callQueue_of h (fun p q _ => ?_) (fun p q _ => ?_) (fun x _ => ?_) (fun x _ => ?_)
    (fun x _ max => ?_) (fun x _ bs hbs => ?_) c
  · have htaken := hf.takeRx p q
    unfold Client.takeRx
    split <;> (rename_i heq; rw [heq] at htaken; exact .rewire htaken _ _)
  · have htaken := hf.takeTx p q
    unfold Client.takeTx
    split <;> (rename_i heq; rw [heq] at htaken; exact .rewire htaken _ _)
  · exact .rewire ((hf.putRx x).abandon _ _) _ _
  · exact .rewire (((hf.putTx x).abandon _ _).abandon _ _) _ _
  · exact .rewire (hf.rxBurst x max) _ _
  · rw [← add_tsub_cancel_of_le hbs] at hf
    exact .rewire (hf.txBurst x) _ _

theorem Balanced.call (h : w.Balanced) (c : Call) : (w.call c).Balanced := by
  cases c with
  | pool c => exact h.callPool c
  | cache c => exact h.callCache c
  | buffer b e => exact h.callBuffer b e
  | registry c => exact h.callRegistry c
  | port p c => exact h.callPort p c
  | queue c => exact h.callQueue c

theorem balanced_run (calls : List Call) : (run calls).Balanced :=
  run_induction Ledger.empty (fun _ c h => h.call c) calls

/-! ## What is so in every reachable state -/

/-- Where the slots of a client's pools are, and what it gets when it allocates. -/
structure Accounted (w : Client) : Prop where
  place : ∀ x, w.store.IsSlot x →
    (w.store.queuedAt x = 1 ∧ w.cached.count x = 0 ∧ w.store.holdersAt x = 0) ∨
    (w.store.queuedAt x = 0 ∧ w.cached.count x = 1 ∧ w.store.holdersAt x = 0) ∨
    (w.store.queuedAt x = 0 ∧ w.cached.count x = 0 ∧ 0 < w.store.holdersAt x)
  nowhere : ∀ x, ¬w.store.IsSlot x →
    w.store.queuedAt x = 0 ∧ w.cached.count x = 0 ∧ w.store.holdersAt x = 0
  holders : ∀ x, w.store.holdersAt x = (w.live.map Buffer.place).count x
  /-- Slots that are not in the queue find room there, one after another. -/
  released : ∀ p slots, slots.Nodup →
    (∀ i ∈ slots, w.store.IsSlot (p, i) ∧ w.store.queuedAt (p, i) = 0) →
    ((w.store.pool p).releaseAll slots).free.toList = (w.store.pool p).free.toList ++ slots
  alloc : ∀ p b t, w.store.alloc p = .ok (b, t) → Granted t w.live [b]
  allocUpTo : ∀ p n, Granted (w.store.allocUpTo p n).2 w.live (w.store.allocUpTo p n).1
  allocBulk : ∀ p n bs t, w.store.allocBulk? p n = some (bs, t) → Granted t w.live bs
  allocExact : ∀ p n bs t, w.store.allocExact? p n = some (.ok bs, t) → Granted t w.live bs
  cacheAlloc : ∀ c ∈ w.caches, ∀ b d t, c.alloc w.store = .ok (b, d, t) → Granted t w.live [b]
  cacheAllocUpTo : ∀ c ∈ w.caches, ∀ n,
    Granted (c.allocUpTo w.store n).2.2 w.live (c.allocUpTo w.store n).1

theorem Balanced.exclusive (h : w.Balanced) {x : Place} (hx : w.store.IsSlot x) :
    (w.store.queuedAt x = 1 ∧ w.cached.count x = 0 ∧ w.store.holdersAt x = 0) ∨
    (w.store.queuedAt x = 0 ∧ w.cached.count x = 1 ∧ w.store.holdersAt x = 0) ∨
    (w.store.queuedAt x = 0 ∧ w.cached.count x = 0 ∧ 0 < w.store.holdersAt x) := by
  have hplaced := h.ledger.placed x
  rw [if_pos hx] at hplaced
  omega

theorem Balanced.accounted (h : w.Balanced) : w.Accounted where
  place _ hx := h.exclusive hx
  nowhere x hx := by
    have hplaced := h.ledger.placed x
    rw [if_neg hx] at hplaced
    omega
  holders := h.ledger.holders_eq
  released _ _ hdistinct hslots := Pool.toList_releaseAll (h.ledger.room hdistinct hslots)
  alloc _ _ _ ha := (h.ledger.alloc ha).2
  allocUpTo p n := (h.ledger.allocUpTo p n).2
  allocBulk p n bs t ha := by
    have hall := (h.ledger.allocUpTo p n).2
    rwa [← allocBulk?_eq_some ha] at hall
  allocExact p n bs t ha := by
    have hall := (h.ledger.allocUpTo p n).2
    rcases allocExact?_eq_some ha with hr | hr
    · cases hr
    · cases hr
      exact hall
  cacheAlloc _ hc _ _ _ ha := ((h.ledger_of_mem hc).cacheAlloc ha).2
  cacheAllocUpTo _ hc n := ((h.ledger_of_mem hc).cacheAllocUpTo n).2

/-- Whatever was called, every slot is in one of three places: once in the queue of its pool, once
on the stack of one cache, or held by exactly the live handles that name it. -/
theorem accounted_run (calls : List Call) : (run calls).Accounted := (balanced_run calls).accounted

/-! ## Other handles -/

/-- What one handle is used for leaves all other handles as they are: those in the hands are still
there, with the windows that they had, those in rings wait where they waited, and each of them sees
the bytes that it saw. -/
theorem others_unchanged (calls : List Call) (b : Buffer) (e : Edit) :
    let w := run calls
    let w' := w.call (.buffer b e)
    w.buffers.erase b ≤ w'.buffers ∧ w'.fabric.rings = w.fabric.rings ∧
      ∀ c, c ∈ w.buffers.erase b ∨ c ∈ w.fabric.inFlight → w'.store.data c = w.store.data c := by
  intro w w'
  have hw' : w' = w.callBuffer b e := rfl
  rw [hw']
  unfold Client.callBuffer
  split
  · rename_i hb
    have hledger := (balanced_run calls).ledger
    rw [live, ← Multiset.cons_erase hb, Multiset.cons_add] at hledger
    have hdata := (Edit.run_kept hledger e).2
    exact ⟨Multiset.le_add_left _ _, rfl, fun c hc => hdata c (Multiset.mem_add.mpr hc)⟩
  · exact ⟨Multiset.erase_le b _, rfl, fun _ _ => rfl⟩

end Client
end Dataplane
