import Dataplane.Pool.Crowd
import Dataplane.Proofs.Pool.Caching
import Dataplane.Proofs.Port.Parts

/-! # The ledger of a crowd

Between any two atomic steps of any workers, every slot of the pool they share is in one place: in
the queue, with the one worker that has it in its cache or on its way, or held. A hold is in the
hands of a worker or about to be given up by it. Steps of other workers change nothing of what a
worker has, so that each step is one move in the ledger of the pool.
-/
namespace Dataplane

open Store

namespace Pool

/-! ## A pool alone -/

def alone (p : Pool) : Store := ⟨#[p]⟩

theorem update_alone (p : Pool) (f : Pool → Pool) : p.alone.update 0 f = (f p).alone := by
  simp [alone, Store.update]

/-- The ledger of a pool with its holds and its slots set aside. -/
def Kept (p : Pool) (held stashed : Multiset Nat) : Prop :=
  ∃ live : Multiset Buffer, live.map Buffer.place = held.map (Prod.mk 0) ∧
    p.alone.Ledger live (stashed.map (Prod.mk 0))

namespace Kept

variable {p q : Pool} {i : Nat} {held stashed : Multiset Nat}

theorem holders_eq (h : p.Kept held stashed) (i : Nat) : p.holders i = held.count i := by
  obtain ⟨live, hlive, hledger⟩ := h
  have hcount := hledger.holders_eq (0, i)
  rw [hlive, Multiset.count_map_eq_count' _ _ (Prod.mk_right_injective 0)] at hcount
  exact hcount

theorem placed (h : p.Kept held stashed) (i : Nat) :
    p.free.toList.count i + stashed.count i + min 1 (p.holders i) =
      if i < p.capacity then 1 else 0 := by
  obtain ⟨live, -, hledger⟩ := h
  have hplaced := hledger.placed (0, i)
  rw [Multiset.count_map_eq_count' _ _ (Prod.mk_right_injective 0)] at hplaced
  exact hplaced

theorem take (h : p.Kept held stashed) (ht : p.take? = some (i, q)) :
    q.Kept held (i ::ₘ stashed) := by
  obtain ⟨live, hlive, hledger⟩ := h
  have htake : p.alone.take? 0 = some (i, q.alone) := by
    simp [Store.take?, alone, Store.pool, ht]
  refine ⟨live, hlive, ?_⟩
  rw [Multiset.map_cons]
  exact hledger.take htake

theorem claim (h : p.Kept held (i ::ₘ stashed)) :
    (p.setHolders i 1).Kept (i ::ₘ held) stashed := by
  obtain ⟨live, hlive, hledger⟩ := h
  rw [Multiset.map_cons] at hledger
  have hclaim := hledger.claim
  rw [Store.claim, update_alone] at hclaim
  refine ⟨_, ?_, hclaim⟩
  rw [Multiset.map_cons, Multiset.map_cons, hlive]
  rfl

theorem release (h : p.Kept held (i ::ₘ stashed)) : (p.release i).Kept held stashed := by
  obtain ⟨live, hlive, hledger⟩ := h
  rw [Multiset.map_cons] at hledger
  have hrelease := hledger.release
  rw [update_alone] at hrelease
  exact ⟨live, hlive, hrelease⟩

theorem exists_buffer {live : Multiset Buffer} (h : live.map Buffer.place = held.map (Prod.mk 0))
    (hi : i ∈ held) : ∃ b ∈ live, b.pool = 0 ∧ b.slot = i := by
  have hmem : (0, i) ∈ live.map Buffer.place := h ▸ Multiset.mem_map_of_mem _ hi
  obtain ⟨b, hb, hplace⟩ := Multiset.mem_map.mp hmem
  exact ⟨b, hb, congrArg Prod.fst hplace, congrArg Prod.snd hplace⟩

theorem lower (h : p.Kept (i ::ₘ held) stashed) :
    (p.lower i).Kept held (if p.isLastHolder i then i ::ₘ stashed else stashed) := by
  obtain ⟨live, hlive, hledger⟩ := h
  obtain ⟨b, hb, hpool, rfl⟩ := exists_buffer hlive (Multiset.mem_cons_self i held)
  have hplace : b.place = (0, b.slot) := Prod.ext hpool rfl
  rw [← Multiset.cons_erase hb] at hledger hlive
  have hlower := hledger.lower
  rw [hpool, update_alone] at hlower
  refine ⟨live.erase b, ?_, ?_⟩
  · rw [Multiset.map_cons, Multiset.map_cons, hplace] at hlive
    exact (Multiset.cons_inj_right _).mp hlive
  · have hlast : p.alone.holdersAt b.place = 1 ↔ p.isLastHolder b.slot = true := by
      rw [hplace, isLastHolder, decide_eq_true_iff]
      rfl
    split
    · rename_i hone
      rw [if_pos (hlast.mpr hone), hplace] at hlower
      rw [Multiset.map_cons]
      exact hlower
    · rename_i hmore
      rw [if_neg (fun hone => hmore (hlast.mp hone))] at hlower
      exact hlower

theorem retain (h : p.Kept held stashed) (hi : i ∈ held) :
    (p.retain i).Kept (i ::ₘ held) stashed := by
  obtain ⟨live, hlive, hledger⟩ := h
  obtain ⟨b, hb, hpool, rfl⟩ := exists_buffer hlive hi
  have hplace : b.place = (0, b.slot) := Prod.ext hpool rfl
  have hretain := hledger.retain hb
  rw [hpool, update_alone] at hretain
  refine ⟨b ::ₘ live, ?_, hretain⟩
  rw [Multiset.map_cons, Multiset.map_cons, hlive, hplace]

theorem create {name : String} {config : PoolConfig} {hasMemory : Bool}
    (h : Pool.create name config hasMemory = .ok p) : p.Kept 0 0 := by
  have hstore : Store.create {} name config hasMemory = .ok (0, p.alone) := by
    rw [Store.create, h]
    rfl
  exact ⟨0, rfl, Ledger.empty.create hstore⟩

theorem places (h : p.Kept held stashed) :
    ↑p.free.toList + stashed + held.dedup = ↑(List.range p.capacity) := by
  ext i
  have hplaced := h.placed i
  have hheld : held.dedup.count i = min 1 (held.count i) := by
    rw [Multiset.count_dedup]
    by_cases hi : i ∈ held
    · have hpos := Multiset.count_pos.mpr hi
      rw [if_pos hi]
      omega
    · rw [if_neg hi, Multiset.count_eq_zero_of_notMem hi]
      rfl
  rw [h.holders_eq] at hplaced
  rw [Multiset.count_add, Multiset.count_add, hheld, Multiset.coe_count, Multiset.coe_count,
    List.count_range, hplaced]

/-- A slot set aside has its room in the queue. -/
theorem available_lt (h : p.Kept held stashed) (hi : i ∈ stashed) : p.available < p.capacity := by
  have hcard := congrArg Multiset.card h.places
  rw [Multiset.card_add, Multiset.card_add, Multiset.coe_card, Multiset.coe_card,
    FreeQueue.length_toList, List.length_range] at hcard
  have hpos : 0 < stashed.card := Multiset.card_pos_iff_exists_mem.mpr ⟨i, hi⟩
  change p.free.size < _
  omega

/-- A slot set aside is in one place, and nobody holds it. -/
theorem of_mem_stashed (h : p.Kept held stashed) (hi : i ∈ stashed) :
    stashed.count i = 1 ∧ i ∉ p.free.toList ∧ p.holders i = 0 ∧ i < p.capacity := by
  have hplaced := h.placed i
  have hpos := Multiset.count_pos.mpr hi
  split at hplaced
  · rename_i hlt
    exact ⟨by omega, List.count_eq_zero.mp (by omega), by omega, hlt⟩
  · omega

theorem of_mem_free (h : p.Kept held stashed) (hi : i ∈ p.free.toList) :
    p.free.toList.count i = 1 ∧ i ∉ stashed ∧ i ∉ held := by
  have hplaced := h.placed i
  have hpos := List.count_pos_iff.mpr hi
  rw [h.holders_eq] at hplaced
  split at hplaced
  · exact ⟨by omega, Multiset.count_eq_zero.mp (by omega), Multiset.count_eq_zero.mp (by omega)⟩
  · omega

theorem of_mem_held (h : p.Kept held stashed) (hi : i ∈ held) :
    0 < p.holders i ∧ i ∉ p.free.toList ∧ i ∉ stashed ∧ i < p.capacity := by
  have hplaced := h.placed i
  have hpos := Multiset.count_pos.mpr hi
  rw [h.holders_eq] at hplaced ⊢
  split at hplaced
  · rename_i hlt
    exact ⟨hpos, List.count_eq_zero.mp (by omega), Multiset.count_eq_zero.mp (by omega), hlt⟩
  · omega

end Kept
end Pool

/-! ## What workers have -/

namespace Errand

/-- The slots on their way with a worker. -/
def carried : Errand → List Nat
  | .claim i => [i]
  | .push slots => slots
  | _ => []

/-- The hold that a worker is about to give up. -/
def yielded : Errand → List Nat
  | .drop i => [i]
  | .recycle i => [i]
  | _ => []

end Errand

namespace PoolWorker

/-- The slots that only this worker knows of. -/
def stash (x : PoolWorker) : List Nat := x.stack ++ x.errand.carried

def holds (x : PoolWorker) : List Nat := x.held ++ x.errand.yielded

variable {x : PoolWorker} {i : Nat}

theorem idle_eq (hidle : x.errand = .none) : x.stash = x.stack ∧ x.holds = x.held := by
  unfold stash holds
  rw [hidle]
  exact ⟨List.append_nil _, List.append_nil _⟩

theorem popCache_moves (x : PoolWorker) (hx : x.errand.carried = [] ∧ x.errand.yielded = []) :
    x.popCache.stash.Perm x.stash ∧ x.popCache.holds = x.holds := by
  unfold popCache stash holds
  rw [hx.1, hx.2]
  split
  · rename_i hstack
    rw [hstack]
    exact ⟨by simp [Errand.carried], rfl⟩
  · rename_i hstack
    rw [hstack]
    exact ⟨List.Perm.refl _, rfl⟩

theorem keep_moves (x : PoolWorker) (size i : Nat) :
    (x.keep size i).stash.Perm (i :: x.stack) ∧ (x.keep size i).holds = x.held := by
  unfold keep stash holds
  dsimp only
  split
  · refine ⟨?_, List.append_nil _⟩
    refine List.perm_append_comm.trans (List.Perm.of_eq ?_)
    exact List.take_append_drop _ _
  · exact ⟨List.Perm.of_eq (List.append_nil _), List.append_nil _⟩

/-- A worker gives up a hold that it has, or does nothing. -/
theorem giveUp_cases (x : PoolWorker) (hold : Nat) (errand : Nat → Errand) :
    (∃ i, x.held[hold]? = some i ∧ x.held.Perm (i :: x.held.eraseIdx hold) ∧
      x.giveUp hold errand = { x with held := x.held.eraseIdx hold, errand := errand i }) ∨
    x.held[hold]? = none ∧ x.giveUp hold errand = x := by
  unfold giveUp
  split
  · rename_i i hi
    obtain ⟨hlt, rfl⟩ := List.getElem?_eq_some_iff.mp hi
    exact .inl ⟨_, hi, (List.getElem_cons_eraseIdx_perm hlt).symm, rfl⟩
  · rename_i hnone
    exact .inr ⟨hnone, rfl⟩

end PoolWorker

namespace Crowd

/-- All slots that are in a cache or on their way. -/
def stashed (c : Crowd) : Multiset Nat := ↑(c.workers.toList.flatMap PoolWorker.stash)

def held (c : Crowd) : Multiset Nat := ↑(c.workers.toList.flatMap PoolWorker.holds)

def Kept (c : Crowd) : Prop := c.pool.Kept c.held c.stashed

variable {c : Crowd} {w : Nat}

@[simp] theorem pool_setWorker (c : Crowd) (w : Nat) (x : PoolWorker) :
    (c.setWorker w x).pool = c.pool := rfl

theorem worker_of_size_le (hw : c.workers.size ≤ w) : c.worker w = {} := by
  simp [worker, Array.getElem?_eq_none hw]
  rfl

theorem worker_setWorker (hw : w < c.workers.size) (x : PoolWorker) (v : Nat) :
    (c.setWorker w x).worker v = if v = w then x else c.worker v := by
  unfold setWorker worker
  rw [Array.getD_eq_getD_getElem?, Array.getD_eq_getD_getElem?, Array.getElem?_setIfInBounds]
  by_cases hv : v = w
  · simp [hv, hw]
  · simp [hv, Ne.symm hv]

theorem setWorker_of_size_le (hw : c.workers.size ≤ w) (x : PoolWorker) :
    c.setWorker w x = c := by
  simp [setWorker, Array.setIfInBounds, Nat.not_lt.mpr hw]

/-- What all workers have is what one has and what the others have. -/
theorem split (hw : w < c.workers.size) (φ : PoolWorker → List Nat) : ∃ others : Multiset Nat,
    ↑(c.workers.toList.flatMap φ) = ↑(φ (c.worker w)) + others ∧ ∀ pool x,
      ↑(({ c with pool }.setWorker w x).workers.toList.flatMap φ) = ↑(φ x) + others := by
  have hentry : c.workers.toList[w]? = some (c.worker w) := by simp [worker, hw]
  obtain ⟨others, hold, hnew⟩ := flatMap_modify φ hentry
  refine ⟨others, hold, fun pool x => ?_⟩
  rw [setWorker, Array.toList_setIfInBounds, List.set_eq_modify]
  exact hnew fun _ => x

/-- The rest of the crowd stays out of a move between the pool and one worker. -/
theorem Kept.move (h : c.Kept) (hw : w < c.workers.size) {pool : Pool} {x : PoolWorker}
    (hmove : ∀ held stashed,
      c.pool.Kept (↑(c.worker w).holds + held) (↑(c.worker w).stash + stashed) →
        pool.Kept (↑x.holds + held) (↑x.stash + stashed)) :
    ({ c with pool }.setWorker w x).Kept := by
  obtain ⟨held, hheld, hheld'⟩ := split hw PoolWorker.holds
  obtain ⟨stashed, hstashed, hstashed'⟩ := split hw PoolWorker.stash
  unfold Kept Crowd.held Crowd.stashed at h ⊢
  rw [hheld, hstashed] at h
  rw [hheld', hstashed']
  exact hmove held stashed h

/-- A worker moves slots and holds about among what it has. -/
theorem Kept.shuffle (h : c.Kept) {x : PoolWorker} (hholds : x.holds.Perm (c.worker w).holds)
    (hstash : x.stash.Perm (c.worker w).stash) : (c.setWorker w x).Kept := by
  by_cases hw : w < c.workers.size
  · refine h.move hw fun held stashed hkept => ?_
    rw [Multiset.coe_eq_coe.mpr hholds, Multiset.coe_eq_coe.mpr hstash]
    exact hkept
  · rw [setWorker_of_size_le (Nat.le_of_not_lt hw)]
    exact h

/-- A worker goes over to another errand with the same slots and holds. -/
theorem Kept.setErrand (h : c.Kept) {e : Errand} {starved : Bool}
    (hcarried : e.carried = (c.worker w).errand.carried)
    (hyielded : e.yielded = (c.worker w).errand.yielded) :
    (c.setWorker w { c.worker w with errand := e, starved }).Kept := by
  refine h.shuffle (List.Perm.of_eq ?_) (List.Perm.of_eq ?_)
  · rw [PoolWorker.holds, PoolWorker.holds, hyielded]
  · rw [PoolWorker.stash, PoolWorker.stash, hcarried]

/-! ## Moves between the pool and a worker -/

theorem coe_add_of_perm {i : Nat} {l l' : List Nat} (h : l.Perm (i :: l')) (rest : Multiset Nat) :
    (↑l : Multiset Nat) + rest = i ::ₘ (↑l' + rest) := by
  rw [Multiset.coe_eq_coe.mpr h, ← Multiset.cons_coe, Multiset.cons_add]

section Moves

variable {i : Nat} {pool : Pool} {x : PoolWorker} (h : c.Kept) (hw : w < c.workers.size)
include h hw

theorem Kept.take (ht : c.pool.take? = some (i, pool)) (hholds : x.holds = (c.worker w).holds)
    (hstash : x.stash.Perm (i :: (c.worker w).stash)) :
    ({ c with pool }.setWorker w x).Kept :=
  h.move hw fun held stashed hkept => by
    rw [hholds, coe_add_of_perm hstash]
    exact hkept.take ht

theorem Kept.claim (hholds : x.holds.Perm (i :: (c.worker w).holds))
    (hstash : (c.worker w).stash.Perm (i :: x.stash)) :
    ({ c with pool := c.pool.setHolders i 1 }.setWorker w x).Kept :=
  h.move hw fun held stashed hkept => by
    rw [coe_add_of_perm hstash] at hkept
    rw [coe_add_of_perm hholds]
    exact hkept.claim

theorem Kept.release (hholds : x.holds = (c.worker w).holds)
    (hstash : (c.worker w).stash.Perm (i :: x.stash)) :
    ({ c with pool := c.pool.release i }.setWorker w x).Kept :=
  h.move hw fun held stashed hkept => by
    rw [coe_add_of_perm hstash] at hkept
    rw [hholds]
    exact hkept.release

/-- The worker gives up a hold, and gets the slot if that was the last one. -/
theorem Kept.relinquish (hholds : (c.worker w).holds.Perm (i :: x.holds))
    (hstash : x.stash.Perm
      (if c.pool.isLastHolder i then i :: (c.worker w).stash else (c.worker w).stash)) :
    ({ c with pool := c.pool.lower i }.setWorker w x).Kept :=
  h.move hw fun held stashed hkept => by
    rw [coe_add_of_perm hholds] at hkept
    have hlower := hkept.lower
    split at hlower
    · rename_i hlast
      rw [if_pos hlast] at hstash
      rwa [coe_add_of_perm hstash]
    · rename_i hmore
      rw [if_neg hmore] at hstash
      rwa [Multiset.coe_eq_coe.mpr hstash]

theorem Kept.retain (hi : i ∈ (c.worker w).holds) (hholds : x.holds.Perm (i :: (c.worker w).holds))
    (hstash : x.stash = (c.worker w).stash) :
    ({ c with pool := c.pool.retain i }.setWorker w x).Kept :=
  h.move hw fun held stashed hkept => by
    rw [coe_add_of_perm hholds, hstash]
    exact hkept.retain (Multiset.mem_add.mpr (.inl (Multiset.mem_coe.mpr hi)))

end Moves

/-! ## Requests -/

theorem lt_size_of_held {hold i : Nat} (hi : (c.worker w).held[hold]? = some i) :
    w < c.workers.size := by
  by_contra hw
  rw [worker_of_size_le (Nat.le_of_not_lt hw)] at hi
  cases hi

theorem Kept.giveUp (h : c.Kept) (hidle : (c.worker w).errand = .none) (hold : Nat)
    {errand : Nat → Errand} (herrand : ∀ i, (errand i).yielded = [i] ∧ (errand i).carried = []) :
    (c.setWorker w ((c.worker w).giveUp hold errand)).Kept := by
  obtain ⟨hstash, hholds⟩ := PoolWorker.idle_eq hidle
  rcases (c.worker w).giveUp_cases hold errand with ⟨i, -, hperm, heq⟩ | ⟨-, heq⟩
  · rw [heq]
    refine h.shuffle ?_ ?_
    · rw [hholds, PoolWorker.holds, (herrand i).1]
      exact List.perm_append_comm.trans hperm.symm
    · rw [hstash, PoolWorker.stash, (herrand i).2, List.append_nil]
  · rw [heq]
    exact h.shuffle (List.Perm.refl _) (List.Perm.refl _)

/-- What one worker gets or loses, the crowd gets or loses. -/
theorem held_setWorker (hw : w < c.workers.size) {x : PoolWorker} {lost gained : Multiset Nat}
    (hx : ↑x.holds + lost = ↑(c.worker w).holds + gained) :
    (c.setWorker w x).held + lost = c.held + gained := by
  obtain ⟨others, hold, hnew⟩ := split hw PoolWorker.holds
  have hafter : (c.setWorker w x).held = ↑x.holds + others := hnew c.pool x
  rw [hafter, held, hold, add_right_comm, hx, add_right_comm]

theorem stashed_setWorker (hw : w < c.workers.size) {x : PoolWorker}
    (hx : x.stash = (c.worker w).stash) : (c.setWorker w x).stashed = c.stashed := by
  obtain ⟨others, hold, hnew⟩ := split hw PoolWorker.stash
  have hafter : (c.setWorker w x).stashed = ↑x.stash + others := hnew c.pool x
  rw [hafter, stashed, hold, hx]

theorem Kept.give (h : c.Kept) (hidle : (c.worker w).errand = .none) {hold i v : Nat}
    (hi : (c.worker w).held[hold]? = some i) (hv : v < c.workers.size) {d : Crowd}
    (hd : d = c.setWorker w ((c.worker w).giveUp hold fun _ => .none)) :
    (d.setWorker v { d.worker v with held := (d.worker v).held ++ [i] }).Kept := by
  obtain ⟨hstash, hholds⟩ := PoolWorker.idle_eq hidle
  have hw := lt_size_of_held hi
  have hv' : v < d.workers.size := by simpa [hd, setWorker] using hv
  rcases (c.worker w).giveUp_cases hold fun _ => .none with ⟨j, hj, hperm, heq⟩ | ⟨hnone, -⟩
  · obtain rfl : i = j := Option.some.inj (hi.symm.trans hj)
    rw [heq] at hd
    -- The two workers may be one and the same, so the hold is followed through the crowd in
    -- which nobody has it.
    have hgiven : d.held + {i} = c.held + 0 := by
      rw [hd]
      refine held_setWorker hw ?_
      rw [hholds, add_zero, Multiset.coe_eq_coe.mpr hperm, ← Multiset.cons_coe,
        ← Multiset.singleton_add, add_comm]
      exact congrArg _ (congrArg _ (List.append_nil _))
    have hsame : d.stashed = c.stashed := by
      rw [hd]
      refine stashed_setWorker hw ?_
      rw [hstash]
      exact List.append_nil _
    have htaken : (d.setWorker v { d.worker v with held := (d.worker v).held ++ [i] }).held + 0 =
        d.held + {i} := by
      refine held_setWorker hv' ?_
      rw [add_zero, ← Multiset.coe_singleton, Multiset.coe_add, Multiset.coe_eq_coe,
        PoolWorker.holds, PoolWorker.holds, List.append_assoc, List.append_assoc]
      exact List.perm_append_comm.append_left _
    have hkept : d.pool.Kept (d.held + {i}) d.stashed := by
      rw [hgiven, add_zero, hsame, hd]
      exact h
    rw [← htaken, add_zero] at hkept
    unfold Kept
    rwa [stashed_setWorker hv' (x := { d.worker v with held := (d.worker v).held ++ [i] }) rfl]
  · rw [hi] at hnone
    cases hnone

theorem Kept.request (h : c.Kept) (hidle : (c.worker w).errand = .none) (r : PoolRequest) :
    (c.request w r).Kept := by
  obtain ⟨hstash, hholds⟩ := PoolWorker.idle_eq hidle
  cases r with
  | alloc => exact h.setErrand (by rw [hidle]; rfl) (by rw [hidle]; rfl)
  | cacheAlloc =>
    unfold Crowd.request
    dsimp only
    split
    · exact h.setErrand (by rw [hidle]; rfl) (by rw [hidle]; rfl)
    · obtain ⟨hperm, hsame⟩ := (c.worker w).popCache_moves (by rw [hidle]; exact ⟨rfl, rfl⟩)
      exact h.shuffle (List.Perm.of_eq hsame) hperm
  | clone hold =>
    rw [Crowd.request]
    split
    · rename_i i hi
      obtain ⟨hstash', hholds'⟩ := PoolWorker.idle_eq (x := (c.worker w).hold i) rfl
      refine h.retain (lt_size_of_held hi) ?_ ?_ ?_
      · rw [hholds]
        exact List.mem_of_getElem? hi
      · rw [hholds', hholds]
        exact List.perm_append_comm
      · rw [hstash', hstash]
        rfl
    · exact h
  | drop hold => exact h.giveUp hidle hold fun _ => ⟨rfl, rfl⟩
  | cacheFree hold =>
    rw [Crowd.request]
    split
    · exact h.giveUp hidle hold fun _ => ⟨rfl, rfl⟩
    · exact h.giveUp hidle hold fun _ => ⟨rfl, rfl⟩
  | flush =>
    refine h.shuffle ?_ ?_
    · rw [hholds]
      exact List.Perm.of_eq (List.append_nil _)
    · rw [hstash]
      exact List.reverse_perm _
  | give hold v =>
    rw [Crowd.request]
    split
    · rename_i i hi
      split
      · rename_i hv
        exact h.give hidle hi hv rfl
      · exact h
    · exact h

/-! ## Steps of an errand -/

theorem lt_size_of_errand (he : (c.worker w).errand ≠ .none) : w < c.workers.size := by
  by_contra hw
  rw [worker_of_size_le (Nat.le_of_not_lt hw)] at he
  exact he rfl

/-- A worker that gives up a hold gets the slot, in one way or another, or nothing. -/
theorem Kept.letGo (h : c.Kept) (hw : w < c.workers.size) {i : Nat} {x y : PoolWorker}
    (hholds : (c.worker w).holds = (c.worker w).held ++ [i])
    (hstash : (c.worker w).stash = (c.worker w).stack)
    (hx : x.stash.Perm (i :: (c.worker w).stack) ∧ x.holds = (c.worker w).held)
    (hy : y.stash = (c.worker w).stack ∧ y.holds = (c.worker w).held) :
    ({ c with pool := c.pool.lower i }.setWorker w
      (if c.pool.isLastHolder i then x else y)).Kept := by
  have hheld : (if c.pool.isLastHolder i then x else y).holds = (c.worker w).held := by
    split
    · exact hx.2
    · exact hy.2
  apply h.relinquish hw
  · rw [hholds, hheld]
    exact List.perm_append_comm
  · rw [hstash]
    split
    · exact hx.1
    · exact List.Perm.of_eq hy.1

theorem Kept.advance (h : c.Kept) (w : Nat) : (c.advance w).Kept := by
  have hlt : ∀ e, (c.worker w).errand = e → e ≠ .none → w < c.workers.size :=
    fun e he hne => lt_size_of_errand (he ▸ hne)
  have hstash : ∀ e, (c.worker w).errand = e →
      (c.worker w).stash = (c.worker w).stack ++ e.carried := fun e he => he ▸ rfl
  have hholds : ∀ e, (c.worker w).errand = e →
      (c.worker w).holds = (c.worker w).held ++ e.yielded := fun e he => he ▸ rfl
  unfold Crowd.advance
  dsimp only
  split
  · exact h
  · rename_i he
    obtain ⟨hperm, hsame⟩ := (c.worker w).popCache_moves (by rw [he]; exact ⟨rfl, rfl⟩)
    have hpop := h.shuffle (List.Perm.of_eq hsame) hperm
    split
    · split
      · rename_i i pool ht
        exact h.take (hlt _ he (by simp)) ht rfl (List.Perm.refl _)
      · exact hpop
    · exact hpop
  · rename_i he
    split
    · rename_i i pool ht
      refine h.take (hlt _ he (by simp)) ht (hholds _ he).symm ?_
      rw [(hstash _ he).trans (List.append_nil _)]
      exact List.perm_append_comm
    · exact h.setErrand (by rw [he]; rfl) (by rw [he]; rfl)
  · rename_i i he
    refine h.claim (hlt _ he (by simp)) ?_ ?_
    · rw [(hholds _ he).trans (List.append_nil _), (PoolWorker.idle_eq rfl).2]
      exact List.perm_append_comm
    · rw [hstash _ he, (PoolWorker.idle_eq rfl).1]
      exact List.perm_append_comm
  · rename_i i he
    have hworker : { c.worker w with
        errand := if c.pool.isLastHolder i then Errand.push [i] else Errand.none } =
        if c.pool.isLastHolder i then { c.worker w with errand := Errand.push [i] }
        else { c.worker w with errand := Errand.none } := by
      split <;> rfl
    rw [Pool.relinquish]
    dsimp only
    rw [hworker]
    exact h.letGo (hlt _ he (by simp)) (hholds _ he) ((hstash _ he).trans (List.append_nil _))
      ⟨List.perm_append_comm, List.append_nil _⟩ ⟨List.append_nil _, List.append_nil _⟩
  · rename_i i he
    rw [Pool.relinquish]
    dsimp only
    exact h.letGo (hlt _ he (by simp)) (hholds _ he) ((hstash _ he).trans (List.append_nil _))
      ((c.worker w).keep_moves c.cacheSize i) ⟨List.append_nil _, List.append_nil _⟩
  · rename_i he
    exact h.setErrand (by rw [he]; rfl) (by rw [he]; rfl)
  · rename_i i rest he
    have hrest : ∀ slots : List Nat,
        (if slots.isEmpty then Errand.none else .push slots).carried = slots ∧
          (if slots.isEmpty then Errand.none else .push slots).yielded = [] := by
      rintro (_ | _) <;> exact ⟨rfl, rfl⟩
    refine h.release (hlt _ he (by simp)) ?_ ?_
    · rw [hholds _ he, PoolWorker.holds, (hrest rest).2]
      rfl
    · rw [hstash _ he, PoolWorker.stash, (hrest rest).1]
      exact List.perm_middle

theorem Kept.step (h : c.Kept) (w : Nat) (r : PoolRequest) : (c.step w r).Kept := by
  unfold Crowd.step
  split
  · rename_i hidle
    exact h.request hidle r
  · exact h.advance w

end Crowd
end Dataplane
