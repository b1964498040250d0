import Dataplane.Pool.Bulk
import Dataplane.Proofs.Pool.Ledger

/-! # Allocation and release

Every way to take buffers from a pool grants slots that nobody names, each held once and seen
through the default window. Every way to give one up returns its slot when the last hold is gone.
No byte changes on either way.
-/
namespace Dataplane
namespace Store

variable {s t : Store} {live : Multiset Buffer} {aside : Multiset Place}

/-- Handles that were just made: each is alone on its slot, no handle in `live` names one of their
slots, and their windows are empty and leave the headroom of the pool. -/
structure Granted (t : Store) (live : Multiset Buffer) (bs : List Buffer) : Prop where
  alone : ∀ b ∈ bs, t.holders b = 1
  unnamed : ∀ b ∈ bs, ∀ c ∈ live, c.place ≠ b.place
  distinct : (bs.map Buffer.place).Nodup
  window : ∀ b ∈ bs, b.window = .fresh (t.pool b.pool).config.headroom

theorem Granted.nil (t : Store) (live : Multiset Buffer) : Granted t live [] :=
  ⟨by simp, by simp, by simp, by simp⟩

theorem Ledger.count_place (h : s.Ledger live aside) {b : Buffer} (hb : s.holders b = 1) :
    (live.map Buffer.place).count b.place = 1 :=
  (h.holders_eq b.place).symm.trans hb

theorem Ledger.unnamed_of_alone {b : Buffer} (h : s.Ledger (b ::ₘ live) aside)
    (hb : s.holders b = 1) {c : Buffer} (hc : c ∈ live) : c.place ≠ b.place := by
  intro hplace
  have hcount := h.count_place hb
  rw [Multiset.map_cons, Multiset.count_cons_self] at hcount
  have hpos := Multiset.count_pos.mpr (Multiset.mem_map_of_mem Buffer.place hc)
  rw [hplace] at hpos
  omega

theorem Ledger.alone_of_unnamed {b : Buffer} (h : s.Ledger (b ::ₘ live) aside)
    (hb : ∀ c ∈ live, c.place ≠ b.place) : s.holders b = 1 := by
  have hnone : (live.map Buffer.place).count b.place = 0 := by
    rw [Multiset.count_eq_zero, Multiset.mem_map]
    rintro ⟨c, hc, hplace⟩
    exact hb c hc hplace
  refine (h.holders_eq b.place).trans ?_
  rw [Multiset.map_cons, Multiset.count_cons_self, hnone]

theorem SameMemory.claim (s : Store) (p i : Nat) : SameMemory s (s.claim p i).2 :=
  .update s p (by simp [Pool.setHolders, default]) (by simp) (by simp) (by simp)

theorem SameMemory.lower (s : Store) (p i : Nat) : SameMemory s (s.update p (·.lower i)) :=
  .update s p (by simp [Pool.lower, Pool.setHolders, default]) (by simp [Pool.lower])
    (by simp [Pool.lower]) (by simp [Pool.lower])

theorem SameMemory.release (s : Store) (p i : Nat) : SameMemory s (s.update p (·.release i)) :=
  .update s p rfl (by simp) (by simp) (by simp)

/-! ## Making a pool -/

theorem create_eq_ok {name : String} {c : PoolConfig} {hasMemory : Bool} {n : Nat}
    (h : s.create name c hasMemory = .ok (n, t)) :
    ∃ p, Pool.create name c hasMemory = .ok p ∧
      ∀ q, t.pool q = if q = s.pools.size then p else s.pool q := by
  unfold create at h
  cases hp : Pool.create name c hasMemory with
  | error e => simp [hp, bind, Except.bind] at h
  | ok p =>
    simp only [hp, bind, Except.bind, pure, Except.pure, Except.ok.injEq, Prod.mk.injEq] at h
    obtain ⟨-, rfl⟩ := h
    refine ⟨p, rfl, fun q => ?_⟩
    unfold pool
    rw [Array.getD_eq_getD_getElem?, Array.getD_eq_getD_getElem?, Array.getElem?_push]
    split <;> rfl

theorem Ledger.empty : Ledger {} 0 0 where
  holders_eq _ := rfl
  placed _ := rfl
  fits _ hb := absurd hb (Multiset.notMem_zero _)
  filled _ _ h := absurd h (Nat.not_lt_zero _)
  checked p := by
    have hnone : Store.pool {} p = default := by simp [pool]
    rw [hnone]
    exact Pool.checked_default

theorem Ledger.pool_ne_size (h : s.Ledger live aside) {b : Buffer} (hb : b ∈ live) :
    b.pool ≠ s.pools.size := by
  intro hnew
  have hslot := h.isSlot_of_mem hb
  simp [IsSlot, Buffer.place, hnew, pool] at hslot

theorem Ledger.create {name : String} {c : PoolConfig} {hasMemory : Bool} {n : Nat}
    (h : s.Ledger live aside) (hc : s.create name c hasMemory = .ok (n, t)) :
    t.Ledger live aside := by
  obtain ⟨p, hp, hpool⟩ := create_eq_ok hc
  obtain ⟨hchecked, rfl⟩ := Pool.Checked.create hp
  have hnew : s.pool s.pools.size = default := by simp [pool]
  refine ⟨fun x => ?_, fun x => ?_, fun b hb => ?_, fun q i hi => ?_, fun q => ?_⟩
  · rw [← h.holders_eq, holdersAt, holdersAt, hpool]
    split
    · rename_i hx
      rw [hx, hnew]
      simp only [Pool.holders, Array.getElem?_replicate]
      split <;> rfl
    · rfl
  · have hold := h.placed x
    by_cases hx : x.1 = s.pools.size
    · have hnone : ¬s.IsSlot x := by simp [IsSlot, hx, hnew]
      have hholders : t.holdersAt x = 0 := by
        rw [holdersAt, hpool, if_pos hx]
        simp only [Pool.holders, Array.getElem?_replicate]
        split <;> rfl
      have hqueued : t.queuedAt x = if t.IsSlot x then 1 else 0 := by
        simp only [queuedAt, IsSlot, hpool, if_pos hx]
        simp [Pool.capacity, List.count_range]
      rw [if_neg hnone] at hold
      omega
    · simpa only [queuedAt, holdersAt, IsSlot, hpool, if_neg hx] using hold
  · have hfits := h.fits b hb
    unfold Fits Store.bufferLength at hfits ⊢
    rwa [hpool, if_neg (h.pool_ne_size hb)]
  · rw [hpool]
    split
    · rename_i hq
      simp only [IsSlot, hpool, if_pos hq, Pool.capacity, Array.size_replicate] at hi
      simp [Pool.bytes, Pool.bufferLength, hi]
    · rename_i hq
      simp only [IsSlot, hpool, if_neg hq] at hi
      exact h.filled q i hi
  · rw [hpool]
    split
    · exact hchecked
    · exact h.checked q

/-! ## One buffer -/

theorem alloc_eq_ok {p : Nat} {b : Buffer} (h : s.alloc p = .ok (b, t)) :
    ∃ i u, s.take? p = some (i, u) ∧ b = (u.claim p i).1 ∧ t = (u.claim p i).2 := by
  unfold alloc at h
  cases ht : s.take? p with
  | none => simp [ht] at h
  | some r =>
    obtain ⟨i, u⟩ := r
    simp only [ht, Except.ok.injEq] at h
    exact ⟨i, u, rfl, (congrArg Prod.fst h).symm, (congrArg Prod.snd h).symm⟩

theorem pool_of_alloc {p : Nat} {b : Buffer} (h : s.alloc p = .ok (b, t)) : b.pool = p := by
  obtain ⟨i, u, -, rfl, -⟩ := alloc_eq_ok h
  rfl

theorem sameMemory_alloc {p : Nat} {b : Buffer} (h : s.alloc p = .ok (b, t)) : SameMemory s t := by
  obtain ⟨i, u, ht, -, rfl⟩ := alloc_eq_ok h
  exact (SameMemory.take ht).trans (.claim u p i)

theorem alloc_eq_error {p : Nat} {e : Fault} (h : s.alloc p = .error e) :
    e = .exhausted .pool ∧ (s.pool p).available = 0 := by
  unfold alloc at h
  cases ht : s.take? p with
  | some r =>
    rw [ht] at h
    cases h
  | none =>
    rw [ht] at h
    refine ⟨(Except.error.inj h).symm, ?_⟩
    unfold take? at ht
    split at ht
    · rename_i hpool
      have hempty := (Pool.take?_eq_none_iff _).mp hpool
      rw [Pool.available, ← FreeQueue.length_toList, hempty, List.length_nil]
    · cases ht

theorem available_of_alloc {p : Nat} {b : Buffer} (h : s.alloc p = .ok (b, t)) :
    0 < (s.pool p).available := by
  obtain ⟨i, u, htake, -, -⟩ := alloc_eq_ok h
  obtain ⟨free, hfree, -⟩ := take?_eq_some htake
  rw [Pool.available, ← FreeQueue.length_toList, hfree, List.length_cons]
  exact Nat.succ_pos _

/-- The first handle to a slot that was set aside is alone there. -/
theorem Ledger.claim_granted {p i : Nat} (h : s.Ledger live ((p, i) ::ₘ aside)) :
    (s.claim p i).2.Ledger ((s.claim p i).1 ::ₘ live) aside ∧
      Granted (s.claim p i).2 live [(s.claim p i).1] := by
  have hslot := h.isSlot_of_mem_aside (Multiset.mem_cons_self _ _)
  have hledger := h.claim
  have halone : (s.claim p i).2.holders (s.claim p i).1 = 1 := by
    change (s.claim p i).2.holdersAt (p, i) = 1
    rw [Store.claim, holdersAt_setHolders]
    simp [hslot]
  have hconfig := (SameMemory.claim s p i).config p
  refine ⟨hledger, ?_, ?_, by simp, ?_⟩
  · simpa using halone
  · simpa using fun c hc => hledger.unnamed_of_alone halone hc
  · simp only [List.mem_singleton, forall_eq]
    rw [show (s.claim p i).1.pool = p from rfl, hconfig]
    rfl

theorem Ledger.alloc {p : Nat} {b : Buffer} (h : s.Ledger live aside)
    (ha : s.alloc p = .ok (b, t)) : t.Ledger (b ::ₘ live) aside ∧ Granted t live [b] := by
  obtain ⟨i, u, ht, rfl, rfl⟩ := alloc_eq_ok ha
  exact (h.take ht).claim_granted

/-! ## Giving a handle up -/

theorem isLastHolder_iff (s : Store) (b : Buffer) :
    (s.pool b.pool).isLastHolder b.slot = true ↔ s.holdersAt b.place = 1 := by
  simp [Pool.isLastHolder, holdersAt, Buffer.place]

/-- The slot of the last handle goes from the holder to the queue by way of being set aside. -/
theorem drop_eq (s : Store) (b : Buffer) :
    s.drop b = if s.holdersAt b.place = 1 then
      (s.update b.pool (·.lower b.slot)).update b.pool (·.release b.slot)
    else s.update b.pool (·.lower b.slot) := by
  rw [Store.drop]
  split
  · rename_i hlast
    rw [update_update]
    apply update_congr
    simp only [Pool.unhold, Pool.relinquish, (s.isLastHolder_iff b).mpr hlast]
  · rename_i hlast
    apply update_congr
    have hmore : (s.pool b.pool).isLastHolder b.slot = false := by
      rw [← Bool.not_eq_true, isLastHolder_iff]
      exact hlast
    simp only [Pool.unhold, Pool.relinquish, hmore]

theorem sameMemory_drop (s : Store) (b : Buffer) : SameMemory s (s.drop b) := by
  rw [drop_eq]
  split
  · exact (SameMemory.lower s _ _).trans (.release _ _ _)
  · exact .lower s _ _

theorem Ledger.drop {b : Buffer} (h : s.Ledger (b ::ₘ live) aside) :
    (s.drop b).Ledger live aside := by
  have hlower := h.lower
  rw [drop_eq]
  by_cases hlast : s.holdersAt b.place = 1
  · rw [if_pos hlast] at hlower ⊢
    exact hlower.release
  · rw [if_neg hlast] at hlower ⊢
    exact hlower

theorem sameMemory_dropAll (s : Store) (bs : List Buffer) : SameMemory s (s.dropAll bs) := by
  induction bs generalizing s with
  | nil => exact .refl s
  | cons b rest ih => exact (sameMemory_drop s b).trans (ih _)

theorem Ledger.dropAll {bs : List Buffer} (h : s.Ledger (↑bs + live) aside) :
    (s.dropAll bs).Ledger live aside := by
  induction bs generalizing s with
  | nil => simpa [Store.dropAll] using h
  | cons b rest ih =>
    rw [← Multiset.cons_coe, Multiset.cons_add] at h
    exact ih h.drop

/-! ## Several buffers -/

theorem Granted.cons {aside' : Multiset Place} {b : Buffer} {bs : List Buffer}
    (hs : s.Ledger (b ::ₘ live) aside) (hb : Granted s live [b])
    (ht : t.Ledger (↑bs + b ::ₘ live) aside') (hbs : Granted t (b ::ₘ live) bs)
    (hmem : SameMemory s t) : Granted t live (b :: bs) := by
  have hlive : ∀ c ∈ live, c.place ≠ b.place := hb.unnamed b List.mem_cons_self
  have hapart : ∀ c ∈ bs, b.place ≠ c.place := fun c hc =>
    hbs.unnamed c hc b (Multiset.mem_cons_self _ _)
  refine ⟨?_, ?_, ?_, ?_⟩
  · intro c hc
    rcases List.mem_cons.mp hc with rfl | hc
    · have hone := hs.count_place (hb.alone c List.mem_cons_self)
      have hnot : c.place ∉ (bs : Multiset Buffer).map Buffer.place := by
        intro hmem
        obtain ⟨d, hd, hplace⟩ := Multiset.mem_map.mp hmem
        exact hapart d (Multiset.mem_coe.mp hd) hplace.symm
      change t.holdersAt c.place = 1
      rw [ht.holders_eq, Multiset.map_add, Multiset.count_add, hone,
        Multiset.count_eq_zero_of_notMem hnot]
    · exact hbs.alone c hc
  · intro c hc d hd
    rcases List.mem_cons.mp hc with rfl | hc
    · exact hlive d hd
    · exact hbs.unnamed c hc d (Multiset.mem_cons_of_mem hd)
  · rw [List.map_cons, List.nodup_cons]
    refine ⟨?_, hbs.distinct⟩
    intro hmem
    obtain ⟨d, hd, hplace⟩ := List.mem_map.mp hmem
    exact hapart d hd hplace.symm
  · intro c hc
    rcases List.mem_cons.mp hc with rfl | hc
    · rw [hmem.config]
      exact hb.window c List.mem_cons_self
    · exact hbs.window c hc

theorem sameMemory_allocUpTo (s : Store) (p n : Nat) : SameMemory s (s.allocUpTo p n).2 := by
  induction n generalizing s with
  | zero => exact .refl s
  | succ n ih =>
    rw [allocUpTo]
    cases ha : s.alloc p with
    | error e => exact .refl s
    | ok r => exact (sameMemory_alloc ha).trans (ih r.2)

theorem Ledger.allocUpTo (h : s.Ledger live aside) (p n : Nat) :
    (s.allocUpTo p n).2.Ledger (↑(s.allocUpTo p n).1 + live) aside ∧
      Granted (s.allocUpTo p n).2 live (s.allocUpTo p n).1 := by
  induction n generalizing s live with
  | zero => exact ⟨by simpa [Store.allocUpTo] using h, .nil _ _⟩
  | succ n ih =>
    rw [Store.allocUpTo]
    cases ha : s.alloc p with
    | error e => exact ⟨by simpa using h, .nil _ _⟩
    | ok r =>
      obtain ⟨hone, hgranted⟩ := h.alloc ha
      obtain ⟨hrest, hothers⟩ := ih hone
      refine ⟨?_, hgranted.cons hone hrest hothers (sameMemory_allocUpTo _ _ _)⟩
      rw [Multiset.add_cons, ← Multiset.cons_add, Multiset.cons_coe] at hrest
      exact hrest

theorem allocBulk?_eq_some {p n : Nat} {r : List Buffer × Store} (h : s.allocBulk? p n = some r) :
    r = s.allocUpTo p n := by
  unfold allocBulk? at h
  split at h
  · cases h
  · exact (Option.some.inj h).symm

/-- Exactly as many buffers as asked for, or a store from which every buffer is gone again. -/
theorem allocExact?_eq_some {p n : Nat} {r : Except Fault (List Buffer) × Store}
    (h : s.allocExact? p n = some r) :
    r = (.error (.exhausted .pool), (s.allocUpTo p n).2.dropAll (s.allocUpTo p n).1) ∨
      r = (.ok (s.allocUpTo p n).1, (s.allocUpTo p n).2) := by
  unfold allocExact? at h
  obtain ⟨q, hq, hr⟩ := Option.map_eq_some_iff.mp h
  cases allocBulk?_eq_some hq
  dsimp only at hr
  split at hr
  · exact Or.inl hr.symm
  · exact Or.inr hr.symm

end Store
end Dataplane
