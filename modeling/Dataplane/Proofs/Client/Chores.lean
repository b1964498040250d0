import Mathlib.Data.List.InsertIdx
import Dataplane.Proofs.Client.Accounting
import Dataplane.Proofs.Pool.Headcount

/-! # A worker with a cache, and one without

A worker takes buffers and gives them back, from its cache or from the pool itself. Slots come in
another order, refills and spills happen at other times, and what is shared or foreign goes past the
cache, yet no answer that the worker gets tells it which of the two it has. Handle for handle the
two runs hold slots that are shared alike, so that queue and cache together have as many slots as
the queue alone has in the other run.
-/
namespace Dataplane

/-- Where a worker gets buffers and returns them. -/
structure Source (σ : Type) where
  alloc : σ → Except Fault (Buffer × σ)
  allocUpTo : σ → Nat → List Buffer × σ
  free : σ → Buffer → σ
  clone : σ → Buffer → Buffer × σ
  flush : σ → σ

namespace Source

def cached : Source (Cache × Store) where
  alloc x := x.1.alloc x.2
  allocUpTo x n := x.1.allocUpTo x.2 n
  free x b := x.1.free x.2 b
  clone x b := ((x.2.clone b).1, x.1, (x.2.clone b).2)
  flush x := x.1.flush x.2

/-- A pool of its own accord keeps nothing back, and a handle is given up by dropping it. -/
def direct (p : Nat) : Source Store where
  alloc s := s.alloc p
  allocUpTo s n := s.allocUpTo p n
  free s b := s.drop b
  clone s b := s.clone b
  flush s := s

end Source

/-- A worker with the handles it has got, and may have brought along. -/
structure Runner (σ : Type) where
  source : σ
  hands : List Buffer

/-- What a worker does next. Handles are named by their place in the hands. -/
inductive Chore
  | alloc
  | allocUpTo (n : Nat)
  | free (i : Nat)
  | clone (i : Nat)
  | flush

/-- The answer is the number of buffers got. -/
def Chore.run {σ : Type} (S : Source σ) (w : Runner σ) : Chore → Except Fault Nat × Runner σ
  | .alloc =>
    match S.alloc w.source with
    | .error e => (.error e, w)
    | .ok (b, x) => (.ok 1, ⟨x, b :: w.hands⟩)
  | .allocUpTo n =>
    let (bs, x) := S.allocUpTo w.source n
    (.ok bs.length, ⟨x, bs ++ w.hands⟩)
  | .free i =>
    match w.hands[i]? with
    | none => (.ok 0, w)
    | some b => (.ok 0, ⟨S.free w.source b, w.hands.eraseIdx i⟩)
  | .clone i =>
    match w.hands[i]? with
    | none => (.ok 0, w)
    | some b =>
      let (d, x) := S.clone w.source b
      (.ok 1, ⟨x, d :: w.hands⟩)
  | .flush => (.ok 0, ⟨S.flush w.source, w.hands⟩)

def Runner.runAll {σ : Type} (S : Source σ) (w : Runner σ) :
    List Chore → List (Except Fault Nat) × Runner σ
  | [] => ([], w)
  | c :: rest =>
    let (answer, w) := c.run S w
    let (answers, w) := w.runAll S rest
    (answer :: answers, w)

namespace Store

variable {s t : Store} {c d : Cache}

theorem pool_cacheFree (c : Cache) (s : Store) (b : Buffer) : (c.free s b).1.pool = c.pool := by
  unfold Cache.free
  split
  · rfl
  · split
    · rfl
    · dsimp only
      split
      · rfl
      · rfl

end Store

open Store

/-! ## One step with both -/

/-- A store in which `c` has set slots aside, and one where nobody has. The handles go in pairs, one
of each store, and slots of caches that are not concerned are `rest` in both. -/
structure Twins (c : Cache) (s t : Store) (pairs : Multiset (Buffer × Buffer))
    (rest : Multiset Place) : Prop where
  cached : s.Ledger (pairs.map Prod.fst) (c.places + rest)
  direct : t.Ledger (pairs.map Prod.snd) rest
  capacity : ∀ p, (s.pool p).capacity = (t.pool p).capacity
  alike : Alike pairs

namespace Twins

variable {c : Cache} {s t : Store} {pairs : Multiset (Buffer × Buffer)} {rest : Multiset Place}
  {z : Buffer × Buffer}

/-- Queue and cache have together what the queue has in the other store. -/
theorem available (h : Twins c s t pairs rest) (p : Nat) :
    (s.pool p).available + (if c.pool = p then c.stack.length else 0) = (t.pool p).available := by
  have hcached := h.cached.headcount p
  have hdirect := h.direct.headcount p
  rw [h.capacity, h.alike.card_slotsNamed] at hcached
  rw [Cache.places, countAside_add, countAside_placesIn] at hcached
  omega

/-- Both get a buffer or neither does. -/
theorem alloc (h : Twins c s t pairs rest) :
    (c.alloc s = .error (.exhausted .pool) ∧ t.alloc c.pool = .error (.exhausted .pool)) ∨
    ∃ b d s' b' t', c.alloc s = .ok (b, d, s') ∧ t.alloc c.pool = .ok (b', t') ∧
      d.pool = c.pool ∧ Twins d s' t' ((b, b') ::ₘ pairs) rest := by
  have htotal := h.available c.pool
  rw [if_pos rfl] at htotal
  cases hc : c.alloc s with
  | error e =>
    obtain ⟨rfl, hstack, hnone⟩ := h.cached.cacheAlloc_eq_error hc
    rw [hstack, hnone, List.length_nil] at htotal
    cases hd : t.alloc c.pool with
    | error e' =>
      obtain ⟨rfl, -⟩ := alloc_eq_error hd
      exact .inl ⟨rfl, rfl⟩
    | ok r =>
      have hpos := available_of_alloc hd
      omega
  | ok r =>
    obtain ⟨b, d, s'⟩ := r
    have hpos := h.cached.available_of_cacheAlloc hc
    cases hd : t.alloc c.pool with
    | error e =>
      have hnone := (alloc_eq_error hd).2
      omega
    | ok r' =>
      obtain ⟨b', t'⟩ := r'
      obtain ⟨hs, hgranted⟩ := h.cached.cacheAlloc hc
      obtain ⟨ht, hgranted'⟩ := h.direct.alloc hd
      obtain ⟨hb, hpool⟩ := pool_of_cacheAlloc hc
      refine .inr ⟨b, d, s', b', t', rfl, rfl, hpool, ?_, ?_, fun p => ?_, ?_⟩
      · rwa [Multiset.map_cons]
      · rwa [Multiset.map_cons]
      · rw [(sameMemory_cacheAlloc hc).capacity, (sameMemory_alloc hd).capacity, h.capacity]
      · refine h.alike.cons (hb.trans (pool_of_alloc hd).symm) fun y hy => ?_
        have hapart := hgranted.unnamed b List.mem_cons_self _ (Multiset.mem_map_of_mem _ hy)
        have hapart' := hgranted'.unnamed b' List.mem_cons_self _ (Multiset.mem_map_of_mem _ hy)
        exact ⟨fun heq => absurd heq hapart, fun heq => absurd heq hapart'⟩

theorem allocUpTo (h : Twins c s t pairs rest) (n : Nat) :
    ∃ new : List (Buffer × Buffer), (c.allocUpTo s n).1 = new.map Prod.fst ∧
      (t.allocUpTo c.pool n).1 = new.map Prod.snd ∧ (c.allocUpTo s n).2.1.pool = c.pool ∧
      Twins (c.allocUpTo s n).2.1 (c.allocUpTo s n).2.2 (t.allocUpTo c.pool n).2 (↑new + pairs)
        rest := by
  induction n generalizing c s t pairs with
  | zero => exact ⟨[], rfl, rfl, rfl, by simpa [Cache.allocUpTo, Store.allocUpTo] using h⟩
  | succ n ih =>
    rw [Cache.allocUpTo, Store.allocUpTo]
    rcases h.alloc with ⟨hc, hd⟩ | ⟨b, d, s', b', t', hc, hd, hpool, hone⟩
    · rw [hc, hd]
      exact ⟨[], rfl, rfl, rfl, by simpa using h⟩
    · obtain ⟨new, hnew, hnew', hpool', hall⟩ := ih hone
      rw [hpool] at hnew' hall
      rw [hc, hd]
      refine ⟨(b, b') :: new, congrArg _ hnew, congrArg _ hnew', hpool'.trans hpool, ?_⟩
      rwa [← Multiset.cons_coe, Multiset.cons_add, ← Multiset.add_cons]

theorem free (h : Twins c s t (z ::ₘ pairs) rest) :
    Twins (c.free s z.1).1 (c.free s z.1).2 (t.drop z.2) pairs rest where
  cached := by
    have hcached := h.cached
    rw [Multiset.map_cons] at hcached
    exact hcached.cacheFree
  direct := by
    have hdirect := h.direct
    rw [Multiset.map_cons] at hdirect
    exact hdirect.drop
  capacity p := by
    rw [(sameMemory_cacheFree c s z.1).capacity, (sameMemory_drop t z.2).capacity, h.capacity]
  alike := h.alike.of_cons

theorem clone (h : Twins c s t pairs rest) (hz : z ∈ pairs) :
    Twins c (s.clone z.1).2 (t.clone z.2).2 (((s.clone z.1).1, (t.clone z.2).1) ::ₘ pairs)
      rest where
  cached := by
    rw [Multiset.map_cons]
    exact h.cached.retain (Multiset.mem_map_of_mem _ hz)
  direct := by
    rw [Multiset.map_cons]
    exact h.direct.retain (Multiset.mem_map_of_mem _ hz)
  capacity p := by
    rw [(sameMemory_clone s z.1).capacity, (sameMemory_clone t z.2).capacity, h.capacity]
  alike := h.alike.cons (h.alike.pool z hz) fun y hy => h.alike.place y hy z hz

theorem flush (h : Twins c s t pairs rest) : Twins (c.flush s).1 (c.flush s).2 t pairs rest where
  cached := by
    have hflushed := h.cached.flush
    rwa [← Multiset.zero_add rest] at hflushed
  direct := h.direct
  capacity p := by rw [(sameMemory_flush c s).capacity, h.capacity]
  alike := h.alike

end Twins

/-! ## Workers -/

/-- Two workers with the same chores behind them, the first with a cache. -/
structure Abreast (others : Multiset Buffer) (rest : Multiset Place) (p : Nat)
    (hands : List (Buffer × Buffer)) (w : Runner (Cache × Store)) (v : Runner Store) :
    Prop where
  cachedHands : w.hands = hands.map Prod.fst
  directHands : v.hands = hands.map Prod.snd
  pool : w.source.1.pool = p
  twins : Twins w.source.1 w.source.2 v.source (↑hands + others.map fun b => (b, b)) rest

namespace Abreast

variable {others : Multiset Buffer} {rest : Multiset Place} {p : Nat}
  {hands : List (Buffer × Buffer)} {w : Runner (Cache × Store)} {v : Runner Store}

/-- Without the cache, what it has set aside is in the queue. -/
theorem start {c : Cache} {s : Store} {bs : List Buffer}
    (h : s.Ledger (↑bs + others) (c.places + rest)) :
    Abreast others rest c.pool (bs.map fun b => (b, b)) ⟨(c, s), bs⟩ ⟨(c.flush s).2, bs⟩ := by
  have hfst : ((↑(bs.map fun b => (b, b)) + others.map fun b => (b, b)).map Prod.fst :
      Multiset Buffer) = ↑bs + others := by simp [Function.comp_def]
  have hsnd : ((↑(bs.map fun b => (b, b)) + others.map fun b => (b, b)).map Prod.snd :
      Multiset Buffer) = ↑bs + others := by simp [Function.comp_def]
  refine ⟨by simp [Function.comp_def], by simp [Function.comp_def], rfl, ?_, ?_, fun p => ?_, ?_⟩
  · rwa [hfst]
  · rw [hsnd]
    exact h.flush
  · rw [(sameMemory_flush c s).capacity]
  · rw [← Multiset.map_coe, ← Multiset.map_add]
    exact .diagonal _

/-- A chore gets the same answer with and without a cache. -/
theorem run (h : Abreast others rest p hands w v) (c : Chore) :
    (c.run .cached w).1 = (c.run (.direct p) v).1 ∧
      ∃ hands', Abreast others rest p hands' (c.run .cached w).2 (c.run (.direct p) v).2 := by
  obtain ⟨⟨cache, s⟩, _⟩ := w
  obtain ⟨t, _⟩ := v
  obtain ⟨rfl, rfl, rfl, htwins⟩ := h
  cases c with
  | alloc =>
    rcases htwins.alloc with ⟨hc, hd⟩ | ⟨b, d, s', b', t', hc, hd, hpool, hone⟩
    · simp only [Chore.run, Source.cached, Source.direct, hc, hd]
      exact ⟨trivial, hands, rfl, rfl, rfl, htwins⟩
    · simp only [Chore.run, Source.cached, Source.direct, hc, hd]
      rw [← Multiset.cons_add, Multiset.cons_coe] at hone
      exact ⟨trivial, (b, b') :: hands, rfl, rfl, hpool, hone⟩
  | allocUpTo n =>
    obtain ⟨new, hnew, hnew', hpool, hall⟩ := htwins.allocUpTo n
    simp only [Chore.run, Source.cached, Source.direct, hnew, hnew', List.length_map]
    refine ⟨trivial, new ++ hands, by simp, by simp, hpool, ?_⟩
    rwa [← Multiset.coe_add, Multiset.add_assoc]
  | free i =>
    simp only [Chore.run, List.getElem?_map]
    cases hi : hands[i]? with
    | none => exact ⟨rfl, hands, rfl, rfl, rfl, htwins⟩
    | some z =>
      refine ⟨rfl, hands.eraseIdx i, List.eraseIdx_map _ _ _, List.eraseIdx_map _ _ _,
        pool_cacheFree _ _ _, ?_⟩
      obtain ⟨hlt, rfl⟩ := List.getElem?_eq_some_iff.mp hi
      rw [← Multiset.coe_eq_coe.mpr (List.getElem_cons_eraseIdx_perm hlt), ← Multiset.cons_coe,
        Multiset.cons_add] at htwins
      exact htwins.free
  | clone i =>
    simp only [Chore.run, List.getElem?_map]
    cases hi : hands[i]? with
    | none => exact ⟨rfl, hands, rfl, rfl, rfl, htwins⟩
    | some z =>
      have hz : z ∈ (hands : Multiset _) := Multiset.mem_coe.mpr (List.mem_of_getElem? hi)
      have hcloned := htwins.clone (Multiset.mem_add.mpr (.inl hz))
      rw [← Multiset.cons_add, Multiset.cons_coe] at hcloned
      exact ⟨rfl, z :: hands, rfl, rfl, rfl, hcloned⟩
  | flush => exact ⟨rfl, hands, rfl, rfl, rfl, htwins.flush⟩

theorem runAll (h : Abreast others rest p hands w v) (chores : List Chore) :
    (w.runAll .cached chores).1 = (v.runAll (.direct p) chores).1 ∧ ∃ hands',
      Abreast others rest p hands' (w.runAll .cached chores).2 (v.runAll (.direct p) chores).2 := by
  induction chores generalizing hands w v with
  | nil => exact ⟨rfl, hands, h⟩
  | cons c more ih =>
    obtain ⟨hanswer, hands', hnext⟩ := h.run c
    obtain ⟨hanswers, hlast⟩ := ih hnext
    exact ⟨congrArg₂ _ hanswer hanswers, hlast⟩

end Abreast

namespace Client

/-- What the two workers can see, and what their pools have left. -/
structure Indistinct (p : Nat)
    (cached : List (Except Fault Nat) × Runner (Cache × Store))
    (direct : List (Except Fault Nat) × Runner Store) : Prop where
  answers : cached.1 = direct.1
  available : (cached.2.source.2.pool p).available + cached.2.source.1.stack.length =
    (direct.2.source.pool p).available
  others : ∀ q, q ≠ p →
    (cached.2.source.2.pool q).available = (direct.2.source.pool q).available
  /-- The cache fails to allocate where it and the queue are empty. -/
  fails : (∃ e, cached.2.source.1.alloc cached.2.source.2 = .error e) ↔
    cached.2.source.1.stack = [] ∧ (cached.2.source.2.pool p).available = 0
  flushed : ∀ q, ((cached.2.source.1.flush cached.2.source.2).2.pool q).available =
    (direct.2.source.pool q).available

/-- In any reachable state, a worker takes up a cache and some of the handles there are. Whatever
it does then, it gets the answers that it gets without the cache, from a store where what the cache
had set aside is in the queue; and as many slots are left. -/
theorem cache_unnoticed (calls : List Call) {c : Cache} {hands : List Buffer}
    (hc : c ∈ (run calls).caches) (hhands : ↑hands ≤ (run calls).buffers) (chores : List Chore) :
    let s := (run calls).store
    Indistinct c.pool (Runner.runAll .cached ⟨(c, s), hands⟩ chores)
      (Runner.runAll (.direct c.pool) ⟨(c.flush s).2, hands⟩ chores) := by
  intro s
  obtain ⟨others, hothers⟩ := Multiset.le_iff_exists_add.mp hhands
  have hledger := (balanced_run calls).ledger_of_mem hc
  have hlive : (run calls).live = ↑hands + (others + (run calls).fabric.inFlight) := by
    rw [live, hothers, add_assoc]
  rw [hlive] at hledger
  have hstart := Abreast.start hledger
  obtain ⟨hanswers, _, hend⟩ := hstart.runAll chores
  generalize Runner.runAll .cached _ chores = cached at hanswers hend ⊢
  generalize Runner.runAll (.direct c.pool) _ chores = direct at hanswers hend ⊢
  have havailable := hend.twins.available
  have hpool := hend.pool
  refine ⟨hanswers, ?_, fun q hq => ?_, ⟨?_, ?_⟩, fun q => ?_⟩
  · rw [← havailable, if_pos hpool]
  · rw [← havailable, if_neg (hpool.trans_ne hq.symm), Nat.add_zero]
  · rintro ⟨e, he⟩
    obtain ⟨-, hempty, hnone⟩ := hend.twins.cached.cacheAlloc_eq_error he
    rw [hpool] at hnone
    exact ⟨hempty, hnone⟩
  · rintro ⟨hempty, hnone⟩
    cases ha : cached.2.source.1.alloc cached.2.source.2 with
    | error e => exact ⟨e, rfl⟩
    | ok r =>
      have hpos := hend.twins.cached.available_of_cacheAlloc ha
      rw [hpool, hempty, hnone] at hpos
      exact absurd hpos (lt_irrefl 0)
  · rw [← hend.twins.flush.available, Cache.flush]
    simp

/-- A pool of three buffers and a cache for two. The worker shares the buffer that it has, empties
the pool, and gives one of the two handles back before the other. -/
theorem cache_unnoticed_short :
    let calls : List Call :=
      [.pool (.create "p" { buffers := 3, cacheSize := 2 } true), .cache (.create 0),
        .pool (.alloc 0)]
    let c : Cache := ⟨0, 2, []⟩
    let b : Buffer := ⟨0, 0, .fresh 128⟩
    let s := (run calls).store
    let chores : List Chore := [.clone 0, .allocUpTo 3, .alloc, .free 2, .free 2, .flush]
    c ∈ (run calls).caches ∧ ↑[b] ≤ (run calls).buffers ∧
      Indistinct 0 (Runner.runAll .cached ⟨(c, s), [b]⟩ chores)
        (Runner.runAll (.direct 0) ⟨(c.flush s).2, [b]⟩ chores) := by
  intro calls c b s chores
  have hc : c ∈ (run calls).caches := by decide +kernel
  have hb : ↑[b] ≤ (run calls).buffers := by decide +kernel
  exact ⟨hc, hb, cache_unnoticed calls hc hb chores⟩

end Client
end Dataplane
