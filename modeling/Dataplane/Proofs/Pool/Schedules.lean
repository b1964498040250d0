import Dataplane.Proofs.Pool.Crowd

/-! # Schedules

A schedule says which worker takes the next step, and what it sets out to do if it is free to. For
every number of workers and every schedule, nothing that one worker does comes between another and
its slots: what is on the way with a worker is nowhere else, a slot that is given up is passed on by
the one worker that gave up the last hold, and a pool that everybody has left is full again.
-/
namespace Dataplane
namespace Crowd

variable {c : Crowd} {w v i : Nat}

def start (pool : Pool) (cacheSize workers : Nat) : Crowd :=
  ⟨pool, cacheSize, Array.replicate workers {}⟩

def run (c : Crowd) (schedule : List (Nat × PoolRequest)) : Crowd :=
  schedule.foldl (fun c x => c.step x.1 x.2) c

theorem Kept.run (h : c.Kept) (schedule : List (Nat × PoolRequest)) : (c.run schedule).Kept := by
  induction schedule generalizing c with
  | nil => exact h
  | cons x rest ih => exact ih (h.step x.1 x.2)

theorem Kept.start {name : String} {config : PoolConfig} {hasMemory : Bool} {pool : Pool}
    (h : Pool.create name config hasMemory = .ok pool) (cacheSize workers : Nat) :
    (Crowd.start pool cacheSize workers).Kept := by
  have hnone : ∀ φ : PoolWorker → List Nat, φ {} = [] →
      (Array.replicate workers ({} : PoolWorker)).toList.flatMap φ = [] := by
    intro φ hφ
    rw [List.flatMap_eq_nil_iff]
    intro x hx
    rw [Array.toList_replicate, List.mem_replicate] at hx
    rw [hx.2, hφ]
  have hkept := Pool.Kept.create h
  unfold Kept held stashed
  rw [Crowd.start, hnone PoolWorker.holds rfl, hnone PoolWorker.stash rfl]
  exact hkept

/-! ## Apart -/

theorem le_all (c : Crowd) (w : Nat) {φ : PoolWorker → List Nat} (hφ : φ {} = []) :
    (↑(φ (c.worker w)) : Multiset Nat) ≤ ↑(c.workers.toList.flatMap φ) := by
  by_cases hw : w < c.workers.size
  · obtain ⟨others, hall, -⟩ := split hw φ
    rw [hall]
    exact Multiset.le_add_right _ _
  · rw [worker_of_size_le (Nat.le_of_not_lt hw), hφ]
    exact Multiset.zero_le _

theorem count_le_all (c : Crowd) (w i : Nat) {φ : PoolWorker → List Nat} (hφ : φ {} = []) :
    (φ (c.worker w)).count i ≤ (↑(c.workers.toList.flatMap φ) : Multiset Nat).count i := by
  rw [← Multiset.coe_count]
  exact Multiset.count_le_of_le i (c.le_all w hφ)

theorem count_add_count_le_all (c : Crowd) (hv : v ≠ w) (i : Nat) {φ : PoolWorker → List Nat}
    (hφ : φ {} = []) : (φ (c.worker w)).count i + (φ (c.worker v)).count i ≤
      (↑(c.workers.toList.flatMap φ) : Multiset Nat).count i := by
  by_cases hw : w < c.workers.size
  · obtain ⟨others, hall, hothers⟩ := split hw φ
    -- What the others have is what all have once this worker has nothing.
    have hrest : (↑((c.setWorker w {}).workers.toList.flatMap φ) : Multiset Nat) = others := by
      have hsame := hothers c.pool {}
      rwa [hφ, Multiset.coe_nil, Multiset.zero_add] at hsame
    have hother := (c.setWorker w {}).count_le_all v i hφ
    rw [worker_setWorker hw, if_neg hv, hrest] at hother
    rw [hall, Multiset.count_add, Multiset.coe_count]
    exact Nat.add_le_add_left hother _
  · rw [worker_of_size_le (Nat.le_of_not_lt hw), hφ, List.count_nil, Nat.zero_add]
    exact c.count_le_all v i hφ

theorem mem_stashed (hi : i ∈ (c.worker w).stash) : i ∈ c.stashed :=
  Multiset.mem_of_le (c.le_all w rfl) (Multiset.mem_coe.mpr hi)

theorem mem_held (hi : i ∈ (c.worker w).holds) : i ∈ c.held :=
  Multiset.mem_of_le (c.le_all w rfl) (Multiset.mem_coe.mpr hi)

/-- Every slot is in one place, and only holds on a slot that several count may be with several
workers. -/
structure Apart (c : Crowd) : Prop where
  holders : ∀ i, c.pool.holders i = c.held.count i
  places : ↑c.pool.free.toList + c.stashed + c.held.dedup = ↑(List.range c.pool.capacity)
  queued : ∀ i ∈ c.pool.free.toList, c.pool.free.toList.count i = 1 ∧
    ∀ w, i ∉ (c.worker w).stash ∧ i ∉ (c.worker w).holds
  stashed : ∀ w, ∀ i ∈ (c.worker w).stash, (c.worker w).stash.count i = 1 ∧
    i ∉ c.pool.free.toList ∧ ∀ v, i ∉ (c.worker v).holds ∧ (i ∈ (c.worker v).stash → v = w)
  held : ∀ w, ∀ i ∈ (c.worker w).holds, i ∉ c.pool.free.toList ∧ ∀ v, i ∉ (c.worker v).stash
  unshared : ∀ i, c.pool.holders i = 1 → ∀ w v, i ∈ (c.worker w).holds →
    i ∈ (c.worker v).holds → v = w

theorem Kept.apart (h : c.Kept) : c.Apart where
  holders := h.holders_eq
  places := h.places
  queued i hi := by
    obtain ⟨hone, hstashed, hheld⟩ := h.of_mem_free hi
    exact ⟨hone, fun w => ⟨fun hw => hstashed (mem_stashed hw), fun hw => hheld (mem_held hw)⟩⟩
  stashed w i hi := by
    obtain ⟨hone, hfree, hholders, -⟩ := h.of_mem_stashed (mem_stashed hi)
    have hpos := List.count_pos_iff.mpr hi
    have hle : _ ≤ c.stashed.count i := c.count_le_all w i rfl
    refine ⟨by omega, hfree, fun v => ⟨fun hv => ?_, fun hv => ?_⟩⟩
    · have hheld := (h.of_mem_held (mem_held hv)).1
      omega
    · by_contra hne
      have hboth : _ ≤ c.stashed.count i := c.count_add_count_le_all hne i rfl
      have hpos' := List.count_pos_iff.mpr hv
      omega
  held w i hi := by
    obtain ⟨-, hfree, hstashed, -⟩ := h.of_mem_held (mem_held hi)
    exact ⟨hfree, fun v hv => hstashed (mem_stashed hv)⟩
  unshared i hone w v hw hv := by
    by_contra hne
    have hboth : _ ≤ c.held.count i := c.count_add_count_le_all hne i rfl
    have hpos := List.count_pos_iff.mpr hw
    have hpos' := List.count_pos_iff.mpr hv
    rw [h.holders_eq] at hone
    omega

/-! ## Giving slots up -/

/-- Whether the next step of a worker makes the first hold on a slot. -/
def claims (c : Crowd) (w i : Nat) : Bool := (c.worker w).errand = .claim i

/-- Whether the next step of a worker gives up the last hold on a slot. -/
def releases (c : Crowd) (w i : Nat) : Bool :=
  (c.worker w).errand.yielded = [i] && c.pool.isLastHolder i

/-- How often in a schedule a step is one that `event` says. -/
def tally (event : Crowd → Nat → Bool) : Crowd → List (Nat × PoolRequest) → Nat
  | _, [] => 0
  | c, x :: rest => (event c x.1).toNat + tally event (c.step x.1 x.2) rest

theorem holders_take {p q : Pool} (h : p.take? = some (i, q)) (j : Nat) :
    q.holders j = p.holders j := by
  obtain ⟨free, -, rfl⟩ := Pool.take?_eq_some h
  rfl

/-- Of those who give up a hold on a slot, the last one has the slot. -/
theorem holders_lower {p : Pool} {j : Nat} (hpos : 0 < p.holders j) (i : Nat) :
    min 1 (p.holders i) =
      (decide ([j] = [i]) && p.isLastHolder i).toNat + min 1 ((p.lower j).holders i) := by
  rw [Pool.holders_lower]
  by_cases hij : i = j
  · subst i
    rw [Pool.isLastHolder]
    by_cases hlast : p.holders j = 1
    · simp [hlast]
    · simp only [hlast, decide_false, Bool.and_false, Bool.toNat_false, if_true]
      omega
  · simp [hij, Ne.symm hij]

/-- A request makes no first hold and gives up no last one. -/
theorem holders_request (h : c.Kept) (hidle : (c.worker w).errand = .none) (r : PoolRequest)
    (i : Nat) : min 1 ((c.request w r).pool.holders i) = min 1 (c.pool.holders i) := by
  cases r with
  | clone hold =>
    rw [request]
    split
    · rename_i j hj
      have hmem : j ∈ (c.worker w).holds := by
        rw [(PoolWorker.idle_eq hidle).2]
        exact List.mem_of_getElem? hj
      have hpos := (h.of_mem_held (mem_held hmem)).1
      rw [pool_setWorker, Pool.holders_retain]
      split
      · rename_i hij
        rw [hij.1]
        omega
      · rfl
    · rfl
  | give hold v =>
    rw [request]
    split
    · split <;> rfl
    · rfl
  | _ => rfl

theorem holders_advance (h : c.Kept) (w i : Nat) :
    (c.claims w i).toNat + min 1 (c.pool.holders i) =
      (c.releases w i).toNat + min 1 ((c.advance w).pool.holders i) := by
  have hstash : ∀ j ∈ (c.worker w).errand.carried,
      c.pool.holders j = 0 ∧ j < c.pool.capacity :=
    fun j hj => (h.of_mem_stashed (mem_stashed (List.mem_append_right _ hj))).2.2
  have hholds : ∀ j ∈ (c.worker w).errand.yielded, 0 < c.pool.holders j :=
    fun j hj => (h.of_mem_held (mem_held (List.mem_append_right _ hj))).1
  unfold Crowd.advance claims releases
  dsimp only
  split
  · rename_i he
    simp [he, Errand.yielded]
  · rename_i he
    simp only [he, Errand.yielded]
    split
    · split
      · rename_i j pool ht
        simp [holders_take ht]
      · simp
    · simp
  · rename_i he
    simp only [he, Errand.yielded]
    split
    · rename_i j pool ht
      simp [holders_take ht]
    · simp
  · rename_i j he
    rw [he] at hstash
    obtain ⟨hnone, hlt⟩ := hstash j (List.mem_singleton_self j)
    rw [pool_setWorker, Pool.holders_setHolders, he]
    by_cases hij : i = j
    · subst i
      simp [hnone, hlt, Errand.yielded]
    · simp [hij, Ne.symm hij, Errand.yielded]
  · rename_i j he
    rw [he] at hholds
    simpa [he, Errand.yielded, Pool.relinquish] using
      holders_lower (hholds j (List.mem_singleton_self j)) i
  · rename_i j he
    rw [he] at hholds
    simpa [he, Errand.yielded, Pool.relinquish] using
      holders_lower (hholds j (List.mem_singleton_self j)) i
  · rename_i he
    simp [he, Errand.yielded]
  · rename_i j rest he
    simp [he, Errand.yielded]

theorem holders_step (h : c.Kept) (w : Nat) (r : PoolRequest) (i : Nat) :
    (c.claims w i).toNat + min 1 (c.pool.holders i) =
      (c.releases w i).toNat + min 1 ((c.step w r).pool.holders i) := by
  unfold Crowd.step
  split
  · rename_i hidle
    rw [holders_request h hidle, claims, releases, hidle]
    simp [Errand.yielded]
  · exact holders_advance h w i

/-- Between two moments, a slot is released once for every time that it was claimed, and once more
if it was held before, and once less if it is held after. -/
theorem tally_releases (h : c.Kept) (i : Nat) (schedule : List (Nat × PoolRequest)) :
    tally (·.claims · i) c schedule + min 1 (c.pool.holders i) =
      tally (·.releases · i) c schedule + min 1 ((c.run schedule).pool.holders i) := by
  induction schedule generalizing c with
  | nil => rfl
  | cons x rest ih =>
    have hstep := holders_step h x.1 x.2 i
    have hrest := ih (h.step x.1 x.2)
    change _ = _ + min 1 (((c.step x.1 x.2).run rest).pool.holders i)
    rw [tally, tally]
    omega

/-- The worker that gives up a hold gets the slot exactly if that was the last hold. -/
theorem mem_stash_of_yielded (h : c.Kept) (hi : (c.worker w).errand.yielded = [i])
    (r : PoolRequest) : i ∈ ((c.step w r).worker w).stash ↔ c.releases w i = true := by
  have hbusy : (c.worker w).errand ≠ .none := by
    intro hidle
    rw [hidle] at hi
    cases hi
  have hheld : i ∈ (c.worker w).holds :=
    List.mem_append_right _ (hi ▸ List.mem_singleton_self i)
  -- The slot is held, so it is not in the cache of the worker already.
  have hout : i ∉ (c.worker w).stack := fun hstack =>
    (h.of_mem_held (mem_held hheld)).2.2.1 (mem_stashed (List.mem_append_left _ hstack))
  have hw := lt_size_of_errand hbusy
  have hkeep := ((c.worker w).keep_moves c.cacheSize i).1
  have hset : ∀ x, ({ c with pool := c.pool.lower i }.setWorker w x).worker w = x :=
    fun x => (worker_setWorker (c := { c with pool := c.pool.lower i }) hw x w).trans (if_pos rfl)
  rw [Crowd.step, if_neg hbusy, Crowd.advance, releases, hi]
  cases he : (c.worker w).errand with
  | drop j =>
    rw [he] at hi
    obtain rfl : j = i := List.singleton_inj.mp hi
    dsimp only [Pool.relinquish]
    rw [hset, PoolWorker.stash]
    cases c.pool.isLastHolder j <;> simp [Errand.carried, hout]
  | recycle j =>
    rw [he] at hi
    obtain rfl : j = i := List.singleton_inj.mp hi
    dsimp only [Pool.relinquish]
    rw [hset]
    cases c.pool.isLastHolder j with
    | true => simp [hkeep.mem_iff]
    | false => simp [PoolWorker.stash, Errand.carried, hout]
  | _ =>
    rw [he] at hi
    cases hi

/-! ## Allocation -/

theorem worker_pool (c : Crowd) (pool : Pool) (hw : w < c.workers.size) (x : PoolWorker) (v : Nat) :
    ({ c with pool }.setWorker w x).worker v = if v = w then x else c.worker v :=
  worker_setWorker (c := { c with pool }) hw x v

theorem pop_cases (hpop : (c.worker w).errand = .pop) (r : PoolRequest) :
    (∃ i, c.pool.free.toList = i :: (c.step w r).pool.free.toList ∧
      (c.step w r).worker w = { c.worker w with errand := .claim i }) ∨
    (c.pool.free.toList = [] ∧ (c.step w r).pool = c.pool ∧
      (c.step w r).worker w = { c.worker w with errand := .none, starved := true }) := by
  have hw : w < c.workers.size := lt_size_of_errand (by simp [hpop])
  rw [Crowd.step, if_neg (by simp [hpop]), Crowd.advance, hpop]
  dsimp only
  split
  · rename_i i pool ht
    obtain ⟨free, hfree, rfl⟩ := Pool.take?_eq_some ht
    exact .inl ⟨i, hfree, by rw [worker_pool c _ hw, if_pos rfl]⟩
  · rename_i hnone
    exact .inr ⟨(Pool.take?_eq_none_iff _).mp hnone, rfl, by rw [worker_setWorker hw, if_pos rfl]⟩

/-- A step that fills a cache takes one slot. Once there are enough, or no more, the worker goes on
with what it wanted from its cache. -/
theorem refill_cases (hrefill : (c.worker w).errand = .refill) (r : PoolRequest) :
    ((c.worker w).stack.length < c.cacheSize ∧
      ∃ i, c.pool.free.toList = i :: (c.step w r).pool.free.toList ∧
        (c.step w r).worker w = { c.worker w with stack := i :: (c.worker w).stack }) ∨
    ((c.cacheSize ≤ (c.worker w).stack.length ∨ c.pool.free.toList = []) ∧
      (c.step w r).pool = c.pool ∧ (c.step w r).worker w = (c.worker w).popCache) := by
  have hw : w < c.workers.size := lt_size_of_errand (by simp [hrefill])
  have hset := worker_setWorker hw (c.worker w).popCache w
  rw [if_pos rfl] at hset
  rw [Crowd.step, if_neg (by simp [hrefill]), Crowd.advance, hrefill]
  dsimp only
  split
  · rename_i hshort
    split
    · rename_i i pool ht
      obtain ⟨free, hfree, rfl⟩ := Pool.take?_eq_some ht
      exact .inl ⟨hshort, i, hfree, by rw [worker_pool c _ hw, if_pos rfl, hrefill]⟩
    · rename_i hnone
      exact .inr ⟨.inr ((Pool.take?_eq_none_iff _).mp hnone), rfl, hset⟩
  · rename_i hfull
    exact .inr ⟨.inl (Nat.le_of_not_lt hfull), rfl, hset⟩

/-- A push never finds the queue full, so the slot gets there. -/
theorem push_arrives (h : c.Kept) {rest : List Nat} (hpush : (c.worker w).errand = .push (i :: rest))
    (r : PoolRequest) :
    (c.step w r).pool.free.toList = c.pool.free.toList ++ [i] ∧ (c.step w r).worker w =
      { c.worker w with errand := if rest.isEmpty then .none else .push rest } := by
  have hw : w < c.workers.size := lt_size_of_errand (by simp [hpush])
  have hcarried : i ∈ (c.worker w).stash := by simp [PoolWorker.stash, hpush, Errand.carried]
  have hroom := h.available_lt (mem_stashed hcarried)
  rw [Crowd.step, if_neg (by simp [hpush]), Crowd.advance, hpush]
  dsimp only
  exact ⟨Pool.toList_release hroom i, by rw [worker_pool c _ hw, if_pos rfl]⟩

theorem claim_arrives (hclaim : (c.worker w).errand = .claim i) (r : PoolRequest) :
    (c.step w r).worker w = (c.worker w).hold i := by
  have hw : w < c.workers.size := lt_size_of_errand (by simp [hclaim])
  rw [Crowd.step, if_neg (by simp [hclaim]), Crowd.advance, hclaim]
  dsimp only
  rw [worker_pool c _ hw, if_pos rfl]

theorem starved_setWorker {x : PoolWorker} (hv : ((c.setWorker w x).worker v).starved = true)
    (hx : x.starved = true → (c.worker w).starved = true) : (c.worker v).starved = true := by
  by_cases hw : w < c.workers.size
  · rw [worker_setWorker hw] at hv
    split at hv
    · rename_i hvw
      rw [hvw]
      exact hx hv
    · exact hv
  · rw [setWorker_of_size_le (Nat.le_of_not_lt hw)] at hv
    exact hv

theorem starved_popCache {x : PoolWorker} (h : x.popCache.starved = true) : x.starved = true := by
  unfold PoolWorker.popCache at h
  split at h <;> exact h

theorem starved_giveUp {x : PoolWorker} {hold : Nat} {errand : Nat → Errand}
    (h : (x.giveUp hold errand).starved = true) : x.starved = true := by
  unfold PoolWorker.giveUp at h
  split at h <;> exact h

theorem starved_keep {x : PoolWorker} {size : Nat} (h : (x.keep size i).starved = true) :
    x.starved = true := by
  unfold PoolWorker.keep at h
  dsimp only at h
  split at h <;> exact h

theorem starved_hold {x : PoolWorker} : (x.hold i).starved ≠ true := Bool.false_ne_true

theorem starved_request {r : PoolRequest} (h : ((c.request w r).worker v).starved = true) :
    (c.worker v).starved = true := by
  cases r with
  | alloc => exact starved_setWorker h fun hx => hx
  | cacheAlloc =>
    refine starved_setWorker h fun hx => ?_
    split at hx
    · exact hx
    · exact starved_popCache hx
  | clone hold =>
    rw [request] at h
    split at h
    · exact starved_setWorker (c := { c with pool := _ }) h fun hx => absurd hx starved_hold
    · exact h
  | drop hold => exact starved_setWorker h starved_giveUp
  | cacheFree hold => exact starved_setWorker h starved_giveUp
  | flush => exact starved_setWorker h fun hx => hx
  | give hold u =>
    rw [request] at h
    split at h
    · split at h
      · exact starved_setWorker (starved_setWorker h fun hx => hx) starved_giveUp
      · exact h
    · exact h

theorem starved_step {r : PoolRequest} (h : ((c.step w r).worker v).starved = true) :
    (c.worker v).starved = true ∨
      v = w ∧ (c.worker w).errand = .pop ∧ c.pool.free.toList = [] := by
  unfold Crowd.step at h
  split at h
  · exact .inl (starved_request h)
  · rename_i hbusy
    unfold Crowd.advance at h
    dsimp only at h
    split at h
    · exact .inl h
    · split at h
      · split at h
        · exact .inl (starved_setWorker (c := { c with pool := _ }) h fun hx => hx)
        · exact .inl (starved_setWorker h starved_popCache)
      · exact .inl (starved_setWorker h starved_popCache)
    · rename_i hpop
      split at h
      · exact .inl (starved_setWorker (c := { c with pool := _ }) h fun hx => hx)
      · rename_i hnone
        rw [worker_setWorker (lt_size_of_errand hbusy)] at h
        split at h
        · rename_i hv
          exact .inr ⟨hv, hpop, (Pool.take?_eq_none_iff _).mp hnone⟩
        · exact .inl h
    · exact .inl (starved_setWorker (c := { c with pool := _ }) h
        fun hx => absurd hx starved_hold)
    · exact .inl (starved_setWorker (c := { c with pool := _ }) h fun hx => hx)
    · refine .inl (starved_setWorker (c := { c with pool := _ }) h fun hx => ?_)
      split at hx
      · exact starved_keep hx
      · exact hx
    · exact .inl (starved_setWorker h fun hx => hx)
    · exact .inl (starved_setWorker (c := { c with pool := _ }) h fun hx => hx)

/-! ## Coming home -/

theorem all_nil_iff (c : Crowd) {φ : PoolWorker → List Nat} (hφ : φ {} = []) :
    c.workers.toList.flatMap φ = [] ↔ ∀ w, φ (c.worker w) = [] := by
  constructor
  · intro hnil w
    have hle := c.le_all w hφ
    rw [hnil] at hle
    exact (Multiset.coe_eq_zero _).mp (Multiset.le_zero.mp hle)
  · intro hall
    rw [List.flatMap_eq_nil_iff]
    intro x hx
    obtain ⟨w, hw⟩ := List.mem_iff_getElem?.mp hx
    have hworker : c.worker w = x := by
      rw [Array.getElem?_toList] at hw
      simp [worker, hw]
    rw [← hworker]
    exact hall w

theorem available_eq_capacity_iff (h : c.Kept) : c.pool.available = c.pool.capacity ↔
    ∀ w, (c.worker w).stash = [] ∧ (c.worker w).holds = [] := by
  have hcard := congrArg Multiset.card h.places
  rw [Multiset.card_add, Multiset.card_add, Multiset.coe_card, Multiset.coe_card,
    FreeQueue.length_toList, List.length_range] at hcard
  have hstashed : c.stashed.card = 0 ↔ ∀ w, (c.worker w).stash = [] := by
    rw [Multiset.card_eq_zero, stashed, Multiset.coe_eq_zero, all_nil_iff c rfl]
  have hheld : c.held.dedup.card = 0 ↔ ∀ w, (c.worker w).holds = [] := by
    rw [Multiset.card_eq_zero, Multiset.dedup_eq_zero, held, Multiset.coe_eq_zero,
      all_nil_iff c rfl]
  rw [forall_and, ← hstashed, ← hheld]
  change c.pool.free.size = _ ↔ _
  omega

/-! ## All schedules -/

/-- What holds between any two steps, and what the next ones do. -/
structure Sound (c : Crowd) : Prop where
  apart : c.Apart
  tally : ∀ i schedule, tally (·.claims · i) c schedule + min 1 (c.pool.holders i) =
    tally (·.releases · i) c schedule + min 1 ((c.run schedule).pool.holders i)
  once : ∀ i schedule, 0 < c.pool.holders i → (c.run schedule).pool.holders i = 0 →
    Crowd.tally (·.claims · i) c schedule = 0 → Crowd.tally (·.releases · i) c schedule = 1
  passed : ∀ w i, (c.worker w).errand.yielded = [i] → ∀ r,
    i ∈ ((c.step w r).worker w).stash ↔ c.releases w i = true
  popped : ∀ w, (c.worker w).errand = .pop → ∀ r,
    (∃ i, c.pool.free.toList = i :: (c.step w r).pool.free.toList ∧
      (c.step w r).worker w = { c.worker w with errand := .claim i }) ∨
    (c.pool.free.toList = [] ∧ (c.step w r).pool = c.pool ∧
      (c.step w r).worker w = { c.worker w with errand := .none, starved := true })
  arrived : ∀ w i, (c.worker w).errand = .claim i → ∀ r,
    (c.step w r).worker w = (c.worker w).hold i
  refilled : ∀ w, (c.worker w).errand = .refill → ∀ r,
    ((c.worker w).stack.length < c.cacheSize ∧
      ∃ i, c.pool.free.toList = i :: (c.step w r).pool.free.toList ∧
        (c.step w r).worker w = { c.worker w with stack := i :: (c.worker w).stack }) ∨
    ((c.cacheSize ≤ (c.worker w).stack.length ∨ c.pool.free.toList = []) ∧
      (c.step w r).pool = c.pool ∧ (c.step w r).worker w = (c.worker w).popCache)
  pushed : ∀ w i rest, (c.worker w).errand = .push (i :: rest) → ∀ r,
    (c.step w r).pool.free.toList = c.pool.free.toList ++ [i] ∧ (c.step w r).worker w =
      { c.worker w with errand := if rest.isEmpty then .none else .push rest }
  starved : ∀ w v r, ((c.step w r).worker v).starved = true → (c.worker v).starved = true ∨
    v = w ∧ (c.worker w).errand = .pop ∧ c.pool.free.toList = []
  home : c.pool.available = c.pool.capacity ↔
    ∀ w, (c.worker w).stash = [] ∧ (c.worker w).holds = []

theorem Kept.sound (h : c.Kept) : c.Sound where
  apart := h.apart
  tally := tally_releases h
  once i schedule hheld hgone hnone := by
    have htally := tally_releases h i schedule
    omega
  passed _ _ hi r := mem_stash_of_yielded h hi r
  popped _ hpop r := pop_cases hpop r
  arrived _ _ hclaim r := claim_arrives hclaim r
  refilled _ hrefill r := refill_cases hrefill r
  pushed _ _ _ hpush r := push_arrives h hpush r
  starved _ _ _ hv := starved_step hv
  home := available_eq_capacity_iff h

/-- However many workers share a new pool and in whatever order they take their steps: every slot is
in one place, of those who give up the holds on a slot one releases it, an allocation fails only
at an empty queue, and the pool is full when everybody has left. -/
theorem sound_run {name : String} {config : PoolConfig} {hasMemory : Bool} {pool : Pool}
    (h : Pool.create name config hasMemory = .ok pool) (cacheSize workers : Nat)
    (schedule : List (Nat × PoolRequest)) :
    ((Crowd.start pool cacheSize workers).run schedule).Sound :=
  ((Kept.start h cacheSize workers).run schedule).sound

/-- Two workers give up two holds on one slot, one of them to its cache. -/
theorem sound_run_clone :
    ∃ pool, Pool.create "p" { buffers := 2, cacheSize := 1 } true = .ok pool ∧
      ((Crowd.start pool 1 2).run [(0, .alloc), (0, .alloc), (0, .alloc), (0, .clone 0),
        (0, .give 1 1), (0, .drop 0), (1, .cacheFree 0), (0, .alloc), (1, .alloc)]).Sound := by
  obtain ⟨pool, h⟩ : ∃ pool, Pool.create "p" { buffers := 2, cacheSize := 1 } true = .ok pool :=
    ⟨_, rfl⟩
  exact ⟨pool, h, sound_run h 1 2 _⟩

end Crowd
end Dataplane
