import Dataplane.Proofs.Client.Accounting
import Dataplane.Proofs.Client.Wiring
import Dataplane.Proofs.Port.Upkeep

/-! # What a call leaves alone

A call uses up the handles that it is given. All others that a client has stay in its hands, and
each sees the bytes that it saw, wherever it is. Only what is done through one handle writes bytes:
ports, queues, pools and caches pass handles on.
-/
namespace Dataplane

def Call.given : Call → Multiset Buffer
  | .pool (.free bs) => ↑bs
  | .cache (.free _ b) => {b}
  | .buffer b _ => {b}
  | .queue (.send _ bs) => ↑bs
  | _ => 0

theorem Fabric.Upkeep.sameMemory {f g : Fabric} (h : Upkeep f g) : f.store.SameMemory g.store := by
  obtain ⟨bs, hbs⟩ := h.store
  rw [hbs]
  exact f.store.sameMemory_dropAll bs

theorem Store.Ledger.sameData_create {s t : Store} {live : Multiset Buffer} {aside : Multiset Place}
    (h : s.Ledger live aside) {name : String} {c : PoolConfig} {hasMemory : Bool} {n : Nat}
    (hc : s.create name c hasMemory = .ok (n, t)) : s.SameData t live := by
  obtain ⟨p, -, hpool⟩ := create_eq_ok hc
  intro b hb
  simp only [Store.data, hpool, if_neg (h.pool_ne_size hb)]

namespace Client

open Store Fabric

variable {w w' : Client} {given : Multiset Buffer}

/-! ## Calls on ports and queues -/

theorem upkeep_callPort (w : Client) (p : Nat) (c : PortCall) :
    Upkeep w.fabric (w.callPort p c).fabric := by
  unfold callPort
  split
  · exact .runPort _ p c
  · exact .refl _

theorem upkeep_callQueue (w : Client) (c : QueueCall) :
    Upkeep w.fabric (w.callQueue c).fabric := by
  refine w.callQueue_of (P := fun w' => Upkeep w.fabric w'.fabric) (.refl _)
    (fun p q _ => ?_) (fun p q _ => ?_) (fun x _ => ?_) (fun x _ => ?_)
    (fun x _ max => .rxBurst _ x max) (fun x _ bs _ => .txBurst _ x bs) c
  · rw [takeRx_fabric]
    exact .takeRx _ p q
  · rw [takeTx_fabric]
    exact .takeTx _ p q
  · exact (Upkeep.putRx _ x).trans (.abandon _ _ _)
  · rw [putTx_fabric]
    exact ((Upkeep.putTx _ x).trans (.abandon _ _ _)).trans (.abandon _ _ _)

theorem sameMemory_callRegistry (w : Client) (c : RegistryCall) :
    SameMemory w.store (w.callRegistry c).store := by
  cases c with
  | createPair a b macA macB =>
    simp only [callRegistry, createPair]
    split <;> exact .refl _
  | createLoopback name mac =>
    simp only [callRegistry, createLoopback]
    split <;> exact .refl _
  | renew =>
    refine renew_of w.fabric (P := fun g => SameMemory w.store g.store) (.refl _) ?_
    intro g p hg
    exact hg.trans (Upkeep.abandon g _ p).sameMemory

/-! ## Handles in hands -/

theorem mem_txs_call {x : TxQueue} (hx : x ∈ w.txs) {c : Call} (hc : c ≠ .queue (.putTx x)) :
    x ∈ (w.call c).txs := by
  cases c with
  | pool c => exact (SameWiring.callPool w c).txs ▸ hx
  | cache c => exact (SameWiring.callCache w c).txs ▸ hx
  | buffer b e => exact (SameWiring.callBuffer w b e).txs ▸ hx
  | registry c => cases c <;> exact hx
  | port p c =>
    simp only [Client.call, Client.callPort]
    split <;> exact hx
  | queue c =>
    cases c with
    | putTx y =>
      simp only [Client.call, Client.callQueue]
      split
      · rw [putTx_txs]
        refine (Multiset.mem_erase_of_ne ?_).mpr hx
        rintro rfl
        exact hc rfl
      · exact hx
    | takeTx p q =>
      simp only [Client.call, Client.callQueue]
      split
      · rcases w.takeTx_cases p q with ⟨e, r, -, -, -, heq⟩ | heq
        · rw [heq]
          exact Multiset.mem_cons_of_mem hx
        · rw [heq]
          exact hx
      · exact hx
    | takeRx p q =>
      simp only [Client.call, Client.callQueue]
      split
      · rcases w.takeRx_cases p q with ⟨r, -, -, heq⟩ | heq
        · rw [heq]
          exact hx
        · rw [heq]
          exact hx
      · exact hx
    | _ =>
      simp only [Client.call, Client.callQueue]
      split <;> exact hx

/-- From `w` to `w'`, a client has used up no handles but those in `given`, and those that it was
not given see what they saw. -/
structure Leaves (w : Client) (given : Multiset Buffer) (w' : Client) : Prop where
  buffers : w.buffers - given ≤ w'.buffers
  data : SameData w.store w'.store (w.live - given)

namespace Leaves

theorem of_sameMemory (hbuffers : w.buffers ≤ w'.buffers) (h : SameMemory w.store w'.store) :
    Leaves w given w' :=
  ⟨(Multiset.sub_le_self _ _).trans hbuffers, h.sameData _⟩

theorem refl (w : Client) : Leaves w given w := of_sameMemory (le_refl _) (.refl _)

theorem gain {r : List Buffer × Store} (h : SameMemory w.store r.2) : Leaves w given (w.gain r) :=
  of_sameMemory (Multiset.le_add_left _ _) h

end Leaves

theorem Balanced.leaves_callPool (h : w.Balanced) (c : PoolCall) :
    Leaves w (Call.pool c).given (w.callPool c) := by
  cases c with
  | create name config hasMemory =>
    simp only [Client.callPool]
    cases hr : w.store.create name config hasMemory with
    | error _ => exact .refl w
    | ok r =>
      have hdata := h.ledger.sameData_create hr
      constructor
      · exact Multiset.sub_le_self _ _
      · intro b hb
        exact hdata b (Multiset.mem_of_le (Multiset.sub_le_self _ _) hb)
  | alloc p =>
    simp only [Client.callPool]
    cases hr : w.store.alloc p with
    | error _ => exact .refl w
    | ok r => exact .gain (sameMemory_alloc hr)
  | allocInto p n => exact .gain (sameMemory_allocUpTo _ p n)
  | allocBulk p n =>
    simp only [Client.callPool]
    cases hr : w.store.allocBulk? p n with
    | none => exact .refl w
    | some r =>
      rw [allocBulk?_eq_some hr]
      exact .gain (sameMemory_allocUpTo _ p n)
  | allocExact p n =>
    have hall := sameMemory_allocUpTo w.store p n
    simp only [Client.callPool]
    cases hr : w.store.allocExact? p n with
    | none => exact .refl w
    | some r =>
      rcases allocExact?_eq_some hr with rfl | rfl
      · exact .of_sameMemory (le_refl _) (hall.trans (sameMemory_dropAll _ _))
      · exact .gain hall
  | free bs =>
    simp only [Client.callPool]
    split
    · exact ⟨le_refl _, (sameMemory_dropAll w.store bs).sameData _⟩
    · exact .refl w

theorem leaves_callCache (w : Client) (c : CacheCall) :
    Leaves w (Call.cache c).given (w.callCache c) := by
  have hmore (r : List Buffer) : w.buffers ≤ ↑r + w.buffers := Multiset.le_add_left _ _
  cases c with
  | create p => exact .of_sameMemory (le_refl _) (.refl _)
  | alloc c =>
    simp only [callCache]
    split
    · cases hr : c.alloc w.store with
      | error _ => exact .refl w
      | ok r => exact .of_sameMemory (hmore _) (sameMemory_cacheAlloc hr)
    · exact .refl w
  | allocInto c n =>
    simp only [callCache]
    split
    · exact .of_sameMemory (hmore _) (sameMemory_cacheAllocUpTo c w.store n)
    · exact .refl w
  | free c b =>
    simp only [callCache]
    split
    · exact ⟨(Multiset.sub_singleton b w.buffers).le, (sameMemory_cacheFree c w.store b).sameData _⟩
    · exact .refl w
  | flush c =>
    simp only [callCache]
    split
    · exact .of_sameMemory (le_refl _) (sameMemory_flush c w.store)
    · exact .refl w
  | drop c =>
    simp only [callCache]
    split
    · exact .of_sameMemory (le_refl _) (sameMemory_flush c w.store)
    · exact .refl w

/-- What is done through one handle may write, but not where another handle sees it. -/
theorem Balanced.leaves_callBuffer (h : w.Balanced) (b : Buffer) (e : Edit) :
    Leaves w (Call.buffer b e).given (w.callBuffer b e) := by
  unfold Client.callBuffer
  split
  · rename_i hb
    have hlive : b ∈ w.live := Multiset.mem_add.mpr (.inl hb)
    have hledger := h.ledger
    rw [← Multiset.cons_erase hlive] at hledger
    have hdata := (Edit.run_kept hledger e).2
    constructor
    · simp only [Call.given, Multiset.sub_singleton]
      exact Multiset.le_add_left _ _
    · simp only [Call.given, Multiset.sub_singleton]
      exact hdata
  · exact .refl w

theorem leaves_callRegistry (w : Client) (c : RegistryCall) :
    Leaves w (Call.registry c).given (w.callRegistry c) := by
  apply Leaves.of_sameMemory _ (w.sameMemory_callRegistry c)
  cases c <;> exact le_refl w.buffers

theorem leaves_callPort (w : Client) (p : Nat) (c : PortCall) :
    Leaves w (Call.port p c).given (w.callPort p c) := by
  apply Leaves.of_sameMemory _ (w.upkeep_callPort p c).sameMemory
  unfold callPort
  split <;> exact le_refl _

theorem leaves_callQueue (w : Client) (c : QueueCall) :
    Leaves w (Call.queue c).given (w.callQueue c) := by
  have hmemory := (w.upkeep_callQueue c).sameMemory
  have hstay : w.buffers ≤ w.buffers := le_refl _
  have hTakeRx (p q : Nat) : w.buffers ≤ (w.takeRx p q).buffers := by
    rcases w.takeRx_cases p q with ⟨r, -, -, heq⟩ | heq <;> rw [heq]
  have hTakeTx (p q : Nat) : w.buffers ≤ (w.takeTx p q).buffers := by
    rcases w.takeTx_cases p q with ⟨e, r, -, -, -, heq⟩ | heq <;> rw [heq]
  rcases w.callQueue_cases (P := fun w' => w.buffers ≤ w'.buffers) hstay
    (fun p q _ => hTakeRx p q) (fun p q _ => hTakeTx p q) (fun _ _ => hstay) (fun _ _ => hstay) c
    with ⟨-, hquiet⟩ | ⟨x, -, max, rfl, heq⟩ | ⟨x, -, bs, -, rfl, heq⟩
  · exact .of_sameMemory hquiet hmemory
  · rw [heq] at hmemory ⊢
    exact .of_sameMemory (Multiset.le_add_left _ _) hmemory
  · rw [heq] at hmemory ⊢
    exact ⟨Multiset.le_add_left _ _, hmemory.sameData _⟩

theorem Balanced.leaves (h : w.Balanced) (c : Call) : Leaves w c.given (w.call c) := by
  cases c with
  | pool c => exact h.leaves_callPool c
  | cache c => exact w.leaves_callCache c
  | buffer b e => exact h.leaves_callBuffer b e
  | registry c => exact w.leaves_callRegistry c
  | port p c => exact w.leaves_callPort p c
  | queue c => exact w.leaves_callQueue c

end Client
end Dataplane
