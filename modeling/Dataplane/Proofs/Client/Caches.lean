import Dataplane.Proofs.Client.Accounting
import Dataplane.Proofs.Pool.Depths

/-! # The caches of a client

Whatever is allocated, freed and flushed, by way of which cache or past all of them, no cache gets
deeper than half its size above its size. The array of a worker has room for a slot more than that,
so that no push fails, and what a cache spills goes to the end of the queue, each slot once.
-/
namespace Dataplane

open Store

namespace Client

variable {w : Client}

/-- Every cache is of a size that is allowed, and no deeper than it may be. -/
def Bounded (w : Client) : Prop := ∀ c ∈ w.caches, c.Bounded

theorem Bounded.of_caches {v : Client} (h : w.Bounded) (hcaches : v.caches = w.caches) :
    v.Bounded :=
  fun c hc => h c (hcaches ▸ hc)

theorem Bounded.recache {c d : Cache} (h : w.Bounded) (hd : d.Bounded) (v : Client)
    (hv : v.caches = w.caches) : (v.recache c d).Bounded := by
  intro k hk
  rcases Multiset.mem_cons.mp hk with rfl | hk
  · exact hd
  · rw [hv] at hk
    exact h k (Multiset.mem_of_mem_erase hk)

theorem Bounded.callCache (h : w.Bounded) (c : CacheCall) : (w.callCache c).Bounded := by
  cases c with
  | create p =>
    intro k hk
    rcases Multiset.mem_cons.mp hk with rfl | hk
    · exact .create w.store p
    · exact h k hk
  | alloc c =>
    simp only [Client.callCache]
    split
    · rename_i hc
      cases ha : c.alloc w.store with
      | error _ => exact h
      | ok r => exact h.recache ((h c hc).alloc ha) _ rfl
    · exact h
  | allocInto c n =>
    simp only [Client.callCache]
    split
    · rename_i hc
      exact h.recache ((h c hc).allocUpTo w.store n) _ rfl
    · exact h
  | free c b =>
    simp only [Client.callCache]
    split
    · rename_i hheld
      exact h.recache ((h c hheld.1).free w.store b) _ rfl
    · exact h
  | flush c =>
    simp only [Client.callCache]
    split
    · rename_i hc
      exact h.recache ((h c hc).flush w.store) _ rfl
    · exact h
  | drop c =>
    simp only [Client.callCache]
    split
    · intro k hk
      exact h k (Multiset.mem_of_mem_erase hk)
    · exact h

theorem caches_callPool (w : Client) (c : PoolCall) : (w.callPool c).caches = w.caches := by
  unfold Client.callPool
  split <;> first | rfl | (split <;> rfl)

theorem caches_callQueue (w : Client) (c : QueueCall) : (w.callQueue c).caches = w.caches := by
  apply w.callQueue_of (P := fun v => v.caches = w.caches) rfl
  · intro p q _
    unfold Client.takeRx
    split <;> rfl
  · intro p q _
    unfold Client.takeTx
    split <;> rfl
  · intro x _
    unfold Client.putRx
    dsimp only
  · intro x _
    unfold Client.putTx
    dsimp only
  · intro x _ max
    rfl
  · intro x _ bs _
    rfl

theorem Bounded.call (h : w.Bounded) (c : Call) : (w.call c).Bounded := by
  cases c with
  | pool c => exact h.of_caches (w.caches_callPool c)
  | cache c => exact h.callCache c
  | buffer b e =>
    apply h.of_caches
    change (w.callBuffer b e).caches = w.caches
    unfold Client.callBuffer
    split <;> rfl
  | registry c => cases c <;> exact h
  | port p c =>
    apply h.of_caches
    change (w.callPort p c).caches = w.caches
    unfold Client.callPort
    split <;> rfl
  | queue c => exact h.of_caches (w.caches_callQueue c)

theorem bounded_run (calls : List Call) : (run calls).Bounded :=
  run_induction (fun _ hc => absurd hc (Multiset.notMem_zero _)) (fun _ c h => h.call c) calls

/-! ## What is so in every reachable state -/

/-- How deep caches are, that none of their operations needs more room than there is, and where the
slots go that they release. -/
structure Shallow (w : Client) : Prop where
  created : ∀ p, (Cache.create w.store p).size = (w.store.pool p).config.cacheSize
  size : ∀ c ∈ w.caches, c.size ≤ 512
  empty : ∀ c ∈ w.caches, c.size = 0 → c.stack = []
  depth : ∀ c ∈ w.caches, c.stack.length ≤ max c.size (c.size + c.size / 2 - 1)
  alloc : ∀ c ∈ w.caches, c.alloc? w.store = some (c.alloc w.store)
  allocUpTo : ∀ c ∈ w.caches, ∀ n, c.allocUpTo? w.store n = some (c.allocUpTo w.store n)
  free : ∀ c ∈ w.caches, ∀ b, c.free? w.store b = some (c.free w.store b)
  /-- Nothing that the cache does not keep touches its stack. -/
  past : ∀ c ∈ w.caches, ∀ b, (c.size = 0 ∨ b.pool ≠ c.pool) ∨ w.store.holders b ≠ 1 →
    (c.free w.store b).1 = c
  /-- Below the threshold a slot stays with the cache. -/
  kept : ∀ c ∈ w.caches, ∀ b, c.size ≠ 0 → b.pool = c.pool → w.store.holders b = 1 →
    c.stack.length + 1 < c.threshold →
    (c.free w.store b).1.stack = b.slot :: c.stack ∧
      ∀ q, ((c.free w.store b).2.pool q).free = (w.store.pool q).free
  /-- At the threshold the cache is brought back to its size. -/
  spilled : ∀ c ∈ w.caches, ∀ b ∈ w.buffers, c.size ≠ 0 → b.pool = c.pool →
    w.store.holders b = 1 → c.threshold ≤ c.stack.length + 1 →
    (c.size < c.stack.length + 1 → (c.free w.store b).1.stack.length = c.size) ∧
      (c.free w.store b).1.stack = (b.slot :: c.stack).drop (c.stack.length + 1 - c.size) ∧
      Returned w.store (c.free w.store b).2 c.pool
        ((b.slot :: c.stack).take (c.stack.length + 1 - c.size))
  flushed : ∀ c ∈ w.caches, (c.flush w.store).1.stack = [] ∧
    Returned w.store (c.flush w.store).2 c.pool c.stack.reverse

theorem Balanced.shallow (h : w.Balanced) (hb : w.Bounded) : w.Shallow where
  created p := Nat.min_eq_left (h.ledger.checked p).config.cache_le
  size c hc := (hb c hc).size_le
  empty c hc := (hb c hc).stack_eq_nil
  depth c hc := (hb c hc).length_le
  alloc c hc := (hb c hc).alloc?_eq w.store
  allocUpTo c hc := (hb c hc).allocUpTo?_eq w.store
  free c hc := (hb c hc).free?_eq w.store
  past c hc b hpast := by
    rcases cacheFree_cases c w.store b with ⟨-, heq⟩ | ⟨hown, ⟨-, heq⟩ | ⟨hlast, -⟩⟩
    · rw [heq]
    · rw [heq]
    · exact absurd hpast (not_or.mpr ⟨hown, not_not.mpr hlast⟩)
  kept c hc b hsize hpool hlast hbelow := by
    rcases cacheFree_cases c w.store b with ⟨hpast, -⟩ | ⟨-, ⟨hmore, -⟩ | ⟨-, heq⟩⟩
    · exact absurd hpast (not_or.mpr ⟨hsize, not_not.mpr hpool⟩)
    · exact absurd hlast hmore
    · rw [heq, if_neg (Nat.not_le.mpr hbelow)]
      refine ⟨rfl, fun q => ?_⟩
      rw [pool_lower]
      split <;> rfl
  spilled c hc b hbuffer hsize hpool hlast hfull := by
    have hledger := h.ledger_of_mem hc
    rw [live, ← Multiset.cons_erase hbuffer, Multiset.cons_add] at hledger
    obtain ⟨hstack, hreturned⟩ := hledger.cacheFree_spilled hsize hpool hlast hfull
    refine ⟨fun hmore => ?_, hstack, hreturned⟩
    rw [hstack, List.length_drop, List.length_cons]
    omega
  flushed c hc := ⟨rfl, (h.ledger_of_mem hc).flushed⟩

/-- Whatever was called, no cache holds more than half its size above its size, none of its pushes
finds the array full, and each slot that it spills is in the queue once. -/
theorem shallow_run (calls : List Call) : (run calls).Shallow :=
  (balanced_run calls).shallow (bounded_run calls)

end Client
end Dataplane
