import Mathlib.Data.List.Count
import Dataplane.Buffer.Content

/-! # What pool operations do to a slot

Each operation on a pool is described by what it does to the count of holders, the bytes and the
queue. Numbers of pools that were never made behave as pools without slots, so that no statement
needs to know that a number is in use.
-/
namespace Dataplane
namespace Pool

@[simp] theorem holders_default (i : Nat) : (default : Pool).holders i = 0 := rfl
@[simp] theorem capacity_default : (default : Pool).capacity = 0 := rfl

theorem holders_setHolders (p : Pool) (i n j : Nat) :
    (p.setHolders i n).holders j = if j = i ∧ j < p.capacity then n else p.holders j := by
  unfold setHolders holders capacity
  rw [Array.getElem?_modify]
  by_cases hj : j = i
  · subst j
    by_cases hi : i < p.slots.size
    · simp [hi]
    · simp [hi]
  · simp [hj, Ne.symm hj]

@[simp] theorem bytes_setHolders (p : Pool) (i n j : Nat) :
    (p.setHolders i n).bytes j = p.bytes j := by
  unfold setHolders bytes
  rw [Array.getElem?_modify]
  split <;> cases p.slots[j]? <;> rfl

@[simp] theorem capacity_setHolders (p : Pool) (i n : Nat) :
    (p.setHolders i n).capacity = p.capacity := by simp [setHolders, capacity]

@[simp] theorem free_setHolders (p : Pool) (i n : Nat) : (p.setHolders i n).free = p.free := rfl
@[simp] theorem config_setHolders (p : Pool) (i n : Nat) :
    (p.setHolders i n).config = p.config := rfl

@[simp] theorem holders_write (p : Pool) (i start : Nat) (new : List UInt8) (j : Nat) :
    (p.write i start new).holders j = p.holders j := by
  unfold write holders
  rw [Array.getElem?_modify]
  split <;> cases p.slots[j]? <;> rfl

theorem bytes_write (p : Pool) (i start : Nat) (new : List UInt8) (j : Nat) :
    (p.write i start new).bytes j =
      if j = i ∧ j < p.capacity then overwrite (p.bytes j) start new else p.bytes j := by
  unfold write bytes capacity
  rw [Array.getElem?_modify]
  by_cases hj : j = i
  · subst j
    by_cases hi : i < p.slots.size
    · simp [hi]
    · simp [hi]
  · simp [hj, Ne.symm hj]

@[simp] theorem capacity_write (p : Pool) (i start : Nat) (new : List UInt8) :
    (p.write i start new).capacity = p.capacity := by simp [write, capacity]

@[simp] theorem free_write (p : Pool) (i start : Nat) (new : List UInt8) :
    (p.write i start new).free = p.free := rfl
@[simp] theorem config_write (p : Pool) (i start : Nat) (new : List UInt8) :
    (p.write i start new).config = p.config := rfl

@[simp] theorem holders_release (p : Pool) (i j : Nat) :
    (p.release i).holders j = p.holders j := by
  unfold release
  split <;> rfl

@[simp] theorem bytes_release (p : Pool) (i j : Nat) : (p.release i).bytes j = p.bytes j := by
  unfold release
  split <;> rfl

@[simp] theorem capacity_release (p : Pool) (i : Nat) : (p.release i).capacity = p.capacity := by
  unfold release
  split <;> rfl

@[simp] theorem config_release (p : Pool) (i : Nat) : (p.release i).config = p.config := by
  unfold release
  split <;> rfl

theorem toList_release {p : Pool} (h : p.available < p.capacity) (i : Nat) :
    (p.release i).free.toList = p.free.toList ++ [i] := by
  have hroom : p.free.size < p.slots.size := h
  simp [release, hroom]

theorem toList_releaseAll {p : Pool} {slots : List Nat}
    (h : p.available + slots.length ≤ p.capacity) :
    (p.releaseAll slots).free.toList = p.free.toList ++ slots := by
  induction slots generalizing p with
  | nil => simp [releaseAll]
  | cons i rest ih =>
    rw [List.length_cons] at h
    have hlist := toList_release (p := p) (by omega) i
    have hsize : (p.release i).available = p.available + 1 := by
      have hlength := congrArg List.length hlist
      simpa [available] using hlength
    change ((p.release i).releaseAll rest).free.toList = _
    rw [ih (by rw [hsize, capacity_release]; omega), hlist, List.append_assoc]
    rfl

theorem releaseAll_default (slots : List Nat) : (default : Pool).releaseAll slots = default := by
  induction slots with
  | nil => rfl
  | cons i rest ih => exact ih

theorem holders_lt_capacity {p : Pool} {i : Nat} (h : p.holders i ≠ 0) : i < p.capacity := by
  by_contra hi
  apply h
  have hnone : p.slots[i]? = none := Array.getElem?_eq_none (Nat.le_of_not_lt hi)
  simp [holders, hnone]

theorem holders_retain (p : Pool) (i j : Nat) :
    (p.retain i).holders j =
      if j = i ∧ j < p.capacity then p.holders j + 1 else p.holders j := by
  rw [retain, holders_setHolders]
  by_cases hj : j = i
  · subst j
    rfl
  · simp [hj]

theorem holders_lower (p : Pool) (i j : Nat) :
    (p.lower i).holders j = p.holders j - if j = i then 1 else 0 := by
  rw [lower, holders_setHolders]
  by_cases hj : j = i
  · subst j
    by_cases hi : i < p.capacity
    · simp [hi]
    · have hzero : p.holders i = 0 := by
        by_contra h
        exact hi (holders_lt_capacity h)
      simp [hi, hzero]
  · simp [hj]

@[simp] theorem free_retain (p : Pool) (i : Nat) : (p.retain i).free = p.free := rfl
@[simp] theorem free_lower (p : Pool) (i : Nat) : (p.lower i).free = p.free := rfl

theorem take?_eq_some {p q : Pool} {i : Nat} (h : p.take? = some (i, q)) :
    ∃ free : FreeQueue, p.free.toList = i :: free.toList ∧ q = { p with free } := by
  unfold take? at h
  obtain ⟨⟨j, free⟩, hpop, heq⟩ := Option.map_eq_some_iff.mp h
  obtain ⟨rfl, rfl⟩ := Prod.mk.inj heq
  exact ⟨free, FreeQueue.toList_of_pop? hpop, rfl⟩

theorem take?_eq_none_iff (p : Pool) : p.take? = none ↔ p.free.toList = [] := by
  rw [take?, Option.map_eq_none_iff, FreeQueue.pop?_eq_none_iff]

theorem length_overwrite {old new : List UInt8} {start : Nat}
    (h : start + new.length ≤ old.length) : (overwrite old start new).length = old.length := by
  simp only [overwrite, List.length_append, List.length_take, List.length_drop]
  omega

end Pool

namespace Store

theorem pool_update (s : Store) (p : Nat) {f : Pool → Pool} (hf : f default = default) (q : Nat) :
    (s.update p f).pool q = if q = p then f (s.pool q) else s.pool q := by
  unfold update pool
  rw [Array.getD_eq_getD_getElem?, Array.getD_eq_getD_getElem?, Array.getElem?_modify]
  by_cases hq : q = p
  · subst q
    cases hs : s.pools[p]? with
    | none => simp [hf]
    | some _ => simp
  · simp [hq, Ne.symm hq]

theorem pool_setHolders (s : Store) (p i n q : Nat) :
    (s.update p (·.setHolders i n)).pool q =
      if q = p then (s.pool q).setHolders i n else s.pool q :=
  s.pool_update p (by simp [Pool.setHolders, default]) q

theorem pool_release (s : Store) (p i q : Nat) :
    (s.update p (·.release i)).pool q = if q = p then (s.pool q).release i else s.pool q :=
  s.pool_update p rfl q

theorem pool_releaseAll (s : Store) (p : Nat) (slots : List Nat) (q : Nat) :
    (s.update p (·.releaseAll slots)).pool q =
      if q = p then (s.pool q).releaseAll slots else s.pool q :=
  s.pool_update p (Pool.releaseAll_default slots) q

theorem pool_retain (s : Store) (p i q : Nat) :
    (s.update p (·.retain i)).pool q = if q = p then (s.pool q).retain i else s.pool q :=
  s.pool_update p (by simp [Pool.retain, Pool.setHolders, default]) q

theorem pool_lower (s : Store) (p i q : Nat) :
    (s.update p (·.lower i)).pool q = if q = p then (s.pool q).lower i else s.pool q :=
  s.pool_update p (by simp [Pool.lower, Pool.setHolders, default]) q

theorem pool_write (s : Store) (b : Buffer) (start : Nat) (new : List UInt8) (q : Nat) :
    (s.write b start new).pool q =
      if q = b.pool then (s.pool q).write b.slot (b.window.headroom + start) new else s.pool q :=
  s.pool_update b.pool (by simp [Pool.write, default]) q

theorem update_update (s : Store) (p : Nat) (f g : Pool → Pool) :
    (s.update p f).update p g = s.update p fun x => g (f x) := by
  simp only [update, Store.mk.injEq]
  apply Array.ext_getElem?
  intro i
  simp only [Array.getElem?_modify]
  split <;> cases s.pools[i]? <;> rfl

theorem update_congr {s : Store} {p : Nat} {f g : Pool → Pool} (h : f (s.pool p) = g (s.pool p)) :
    s.update p f = s.update p g := by
  simp only [update, Store.mk.injEq]
  apply Array.ext_getElem?
  intro i
  simp only [Array.getElem?_modify]
  split
  · subst i
    cases hx : s.pools[p]? with
    | none => rfl
    | some x =>
      have hpool : s.pool p = x := by simp [pool, hx]
      rw [hpool] at h
      simp [h]
  · rfl

theorem take?_eq_some {s t : Store} {p i : Nat} (h : s.take? p = some (i, t)) :
    ∃ free : FreeQueue, (s.pool p).free.toList = i :: free.toList ∧
      ∀ q, t.pool q = if q = p then { s.pool p with free } else s.pool q := by
  unfold take? at h
  split at h
  · cases h
  · rename_i j p' htake
    obtain ⟨rfl, rfl⟩ := Prod.mk.inj (Option.some.inj h)
    obtain ⟨free, hfree, rfl⟩ := Pool.take?_eq_some htake
    refine ⟨free, hfree, ?_⟩
    have hp : p < s.pools.size := by
      by_contra hp
      have hnone : s.pool p = default := by
        simp [pool, Array.getElem?_eq_none (Nat.le_of_not_lt hp)]
      rw [hnone] at hfree
      cases hfree
    intro q
    unfold pool
    rw [Array.getD_eq_getD_getElem?, Array.getElem?_setIfInBounds]
    by_cases hq : q = p
    · subst q
      simp [hp]
    · simp [hq, Ne.symm hq]

end Store

/-! ## Places -/

/-- A slot, named by its pool and its number there. -/
abbrev Place := Nat × Nat

def Buffer.place (b : Buffer) : Place := (b.pool, b.slot)

namespace Store

def IsSlot (s : Store) (x : Place) : Prop := x.2 < (s.pool x.1).capacity

instance (s : Store) (x : Place) : Decidable (s.IsSlot x) := by
  unfold IsSlot
  infer_instance

/-- How many times a slot is in the queue of its pool. -/
def queuedAt (s : Store) (x : Place) : Nat := (s.pool x.1).free.toList.count x.2

def holdersAt (s : Store) (x : Place) : Nat := (s.pool x.1).holders x.2

variable (s : Store) (p i n : Nat) (x : Place)

theorem holdersAt_setHolders : (s.update p (·.setHolders i n)).holdersAt x =
    if x = (p, i) ∧ s.IsSlot x then n else s.holdersAt x := by
  obtain ⟨q, j⟩ := x
  simp only [holdersAt, pool_setHolders, IsSlot, Prod.mk.injEq]
  by_cases hq : q = p
  · simp [hq, Pool.holders_setHolders]
  · simp [hq]

@[simp] theorem queuedAt_setHolders :
    (s.update p (·.setHolders i n)).queuedAt x = s.queuedAt x := by
  simp only [queuedAt, pool_setHolders]
  split <;> simp

@[simp] theorem holdersAt_write (b : Buffer) (start : Nat) (new : List UInt8) :
    (s.write b start new).holdersAt x = s.holdersAt x := by
  simp only [holdersAt, pool_write]
  split <;> simp

@[simp] theorem queuedAt_write (b : Buffer) (start : Nat) (new : List UInt8) :
    (s.write b start new).queuedAt x = s.queuedAt x := by
  simp only [queuedAt, pool_write]
  split <;> simp

theorem holdersAt_lower : (s.update p (·.lower i)).holdersAt x =
    s.holdersAt x - if x = (p, i) then 1 else 0 := by
  obtain ⟨q, j⟩ := x
  simp only [holdersAt, pool_lower, Prod.mk.injEq]
  by_cases hq : q = p
  · simp [hq, Pool.holders_lower]
  · simp [hq]

@[simp] theorem queuedAt_lower : (s.update p (·.lower i)).queuedAt x = s.queuedAt x := by
  simp only [queuedAt, pool_lower]
  split <;> simp

theorem holdersAt_retain : (s.update p (·.retain i)).holdersAt x =
    if x = (p, i) ∧ s.IsSlot x then s.holdersAt x + 1 else s.holdersAt x := by
  obtain ⟨q, j⟩ := x
  simp only [holdersAt, pool_retain, IsSlot, Prod.mk.injEq]
  by_cases hq : q = p
  · simp [hq, Pool.holders_retain]
  · simp [hq]

@[simp] theorem queuedAt_retain : (s.update p (·.retain i)).queuedAt x = s.queuedAt x := by
  simp only [queuedAt, pool_retain]
  split <;> simp

@[simp] theorem holdersAt_release :
    (s.update p (·.release i)).holdersAt x = s.holdersAt x := by
  simp only [holdersAt, pool_release]
  split <;> simp

theorem queuedAt_release (h : (s.pool p).available < (s.pool p).capacity) :
    (s.update p (·.release i)).queuedAt x = s.queuedAt x + if x = (p, i) then 1 else 0 := by
  obtain ⟨q, j⟩ := x
  simp only [queuedAt, pool_release, Prod.mk.injEq]
  by_cases hq : q = p
  · subst q
    by_cases hj : j = i
    · simp [Pool.toList_release h, hj]
    · simp [Pool.toList_release h, hj, Ne.symm hj, List.count_append]
  · simp [hq]

variable {s p i}

theorem holdersAt_take {t : Store} (h : s.take? p = some (i, t)) :
    t.holdersAt x = s.holdersAt x := by
  obtain ⟨free, -, hpool⟩ := take?_eq_some h
  simp only [holdersAt, hpool]
  split <;> simp_all [Pool.holders]

theorem queuedAt_take {t : Store} (h : s.take? p = some (i, t)) :
    s.queuedAt x = t.queuedAt x + if x = (p, i) then 1 else 0 := by
  obtain ⟨free, hfree, hpool⟩ := take?_eq_some h
  obtain ⟨q, j⟩ := x
  simp only [queuedAt, hpool, Prod.mk.injEq]
  by_cases hq : q = p
  · subst q
    by_cases hj : j = i
    · simp [hfree, hj]
    · simp [hfree, hj, Ne.symm hj]
  · simp [hq]

end Store
end Dataplane
