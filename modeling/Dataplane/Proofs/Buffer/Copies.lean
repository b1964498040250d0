import Dataplane.Proofs.Buffer.Contents

/-! # Copies

A copy takes the first free slot of the pool and shows the same bytes through the same window; the
handle that was copied stays as it is. A handle that shares its slot is made private by giving way
to a copy: one hold of the old slot is then given up. With no free slot nothing is done.
-/
namespace Dataplane
namespace Store

/-- From `s` to `t`, the first free slot of its pool became a copy `c` of handle `b`. -/
structure Doubled (s : Store) (b : Buffer) (t : Store) (c : Buffer) : Prop where
  pool : c.pool = b.pool
  queue : (s.pool b.pool).free.toList = c.slot :: (t.pool b.pool).free.toList
  otherPools : ∀ p ≠ b.pool, t.pool p = s.pool p
  config : ∀ p, (t.pool p).config = (s.pool p).config
  capacity : ∀ p, (t.pool p).capacity = (s.pool p).capacity
  apart : c.place ≠ b.place
  alone : t.holders c = 1
  holdersAt : ∀ x, x ≠ c.place → t.holdersAt x = s.holdersAt x
  window : c.window = b.window
  data : t.data c = s.data b

/-- From `s` to `t`, handle `b` gave up its slot, and `c` took the first free slot of its pool. -/
structure Relocated (s : Store) (b : Buffer) (t : Store) (c : Buffer) : Prop where
  pool : c.pool = b.pool
  queue : (s.pool b.pool).free.toList = c.slot :: (t.pool b.pool).free.toList
  otherPools : ∀ p ≠ b.pool, t.pool p = s.pool p
  config : ∀ p, (t.pool p).config = (s.pool p).config
  capacity : ∀ p, (t.pool p).capacity = (s.pool p).capacity
  apart : c.place ≠ b.place
  alone : t.holders c = 1
  old : t.holders b + 1 = s.holders b
  holdersAt : ∀ x, x ≠ b.place → x ≠ c.place → t.holdersAt x = s.holdersAt x

/-- From `s` to `t`, handle `b` gave way to its copy `c`. -/
structure Copied (s : Store) (b : Buffer) (t : Store) (c : Buffer) : Prop
    extends Relocated s b t c where
  window : c.window = b.window
  data : t.data c = s.data b

variable {s t u : Store} {live : Multiset Buffer} {aside : Multiset Place} {b c d : Buffer}

theorem pool_alloc {p : Nat} (h : s.alloc p = .ok (d, t)) :
    (s.pool p).free.toList = d.slot :: (t.pool p).free.toList ∧
      ∀ q ≠ p, t.pool q = s.pool q := by
  obtain ⟨i, u, htake, rfl, rfl⟩ := alloc_eq_ok h
  obtain ⟨free, hfree, hpool⟩ := take?_eq_some htake
  refine ⟨?_, fun q hq => ?_⟩
  · rw [hfree, claim, pool_setHolders, if_pos rfl, Pool.free_setHolders, hpool, if_pos rfl]
  · rw [claim, pool_setHolders, if_neg hq, hpool, if_neg hq]

theorem pool_drop_shared (hb : 1 < s.holdersAt b.place) (p : Nat) :
    ((s.drop b).pool p).free = (s.pool p).free ∧ (p ≠ b.pool → (s.drop b).pool p = s.pool p) := by
  rw [drop_eq, if_neg (Nat.ne_of_gt hb), pool_lower]
  split
  · rename_i hp
    exact ⟨Pool.free_lower _ _, fun hne => absurd hp hne⟩
  · exact ⟨rfl, fun _ => rfl⟩

theorem duplicate_of_alloc (h : s.alloc b.pool = .ok (d, u)) :
    s.duplicate b = .ok ({ d with window := b.window },
      u.write { d with window := b.window } 0 (u.data b)) := by
  unfold Store.duplicate
  rw [h]
  rfl

theorem Ledger.data_duplicate (h : s.Ledger (b ::ₘ live) aside)
    (hd : s.duplicate b = .ok (c, t)) : t.data c = s.data b := by
  obtain ⟨d, u, ha, rfl, rfl⟩ := duplicate_eq_ok hd
  have halloc := (h.alloc ha).1
  have hfits : u.Fits { d with window := b.window } := by
    have hb := halloc.fits b (by simp)
    unfold Fits Store.bufferLength at hb ⊢
    rwa [pool_of_alloc ha]
  have hu := halloc.rewindow hfits
  have hmem := Multiset.mem_cons_self ({ d with window := b.window } : Buffer) (b ::ₘ live)
  have hlength : (u.data b).length = (u.data { d with window := b.window }).length := by
    rw [hu.length_data hmem, hu.length_data (by simp)]
  rw [hu.data_write_all hmem hlength, (sameMemory_alloc ha).data]

theorem isShared_iff : s.isShared b = true ↔ 1 < s.holdersAt b.place := by
  unfold isShared
  exact decide_eq_true_iff

theorem Ledger.doubled (h : s.Ledger (b ::ₘ live) aside) (hd : s.duplicate b = .ok (c, t)) :
    Doubled s b t c := by
  have hdata := h.data_duplicate hd
  obtain ⟨hledger, -, hapart⟩ := h.duplicate hd
  have halone := hledger.alone_of_unnamed hapart
  -- The counts are those of the handles before and after.
  have hcount : ∀ x, t.holdersAt x = s.holdersAt x + if x = c.place then 1 else 0 := by
    intro x
    rw [hledger.holders_eq, h.holders_eq, Multiset.map_cons, Multiset.count_cons]
  obtain ⟨d, u, ha, rfl, rfl⟩ := duplicate_eq_ok hd
  obtain ⟨hqueue, hothers⟩ := pool_alloc ha
  have hpool := pool_of_alloc ha
  have hplace := hapart b (Multiset.mem_cons_self _ _)
  refine ⟨hpool, ?_, fun p hp => ?_, fun p => ?_, fun p => ?_, hplace.symm, halone,
    fun x hx => ?_, rfl, hdata⟩
  · rw [hqueue, pool_write]
    split <;> rfl
  · rw [pool_write, if_neg (by rw [hpool]; exact hp), hothers p hp]
  · rw [config_write, (sameMemory_alloc ha).config]
  · rw [pool_write]
    split <;> simp [(sameMemory_alloc ha).capacity]
  · rw [hcount, if_neg hx, Nat.add_zero]

namespace Doubled

theorem old (h : Doubled s b t c) : t.holders b = s.holders b := h.holdersAt b.place h.apart.symm

theorem drop (h : Doubled s b t c) (hb : s.isShared b = true) : Copied s b (t.drop b) c := by
  have hshared : 1 < t.holdersAt b.place := by
    rw [h.holdersAt b.place h.apart.symm]
    exact isShared_iff.mp hb
  have hcount : ∀ x, (t.drop b).holdersAt x = t.holdersAt x - if x = b.place then 1 else 0 := by
    intro x
    rw [drop_eq, if_neg (Nat.ne_of_gt hshared), holdersAt_lower]
    rfl
  have hfree := pool_drop_shared hshared
  refine ⟨⟨h.pool, ?_, fun p hp => ?_, fun p => ?_, fun p => ?_, h.apart, ?_, ?_,
    fun x hxb hxc => ?_⟩, h.window, ?_⟩
  · rw [(hfree b.pool).1, h.queue]
  · rw [(hfree p).2 hp, h.otherPools p hp]
  · rw [(sameMemory_drop t b).config, h.config]
  · rw [(sameMemory_drop t b).capacity, h.capacity]
  · refine (hcount c.place).trans ?_
    rw [if_neg h.apart]
    exact h.alone
  · have hold := hcount b.place
    rw [if_pos rfl] at hold
    change (t.drop b).holdersAt b.place + 1 = s.holdersAt b.place
    rw [← h.holdersAt b.place h.apart.symm]
    omega
  · rw [hcount, if_neg hxb, h.holdersAt x hxc]
    exact Nat.sub_zero _
  · rw [(sameMemory_drop t b).data, h.data]

end Doubled

/-- There is a copy if there is a free slot for it, and else a fault. -/
theorem Ledger.duplicate_cases (h : s.Ledger (b ::ₘ live) aside) :
    ((s.pool b.pool).available = 0 ∧ s.duplicate b = .error (.exhausted .pool)) ∨
    (0 < (s.pool b.pool).available ∧
      ∃ c t, s.duplicate b = .ok (c, t) ∧ Doubled s b t c) := by
  cases ha : s.alloc b.pool with
  | error e =>
    obtain ⟨rfl, hnone⟩ := alloc_eq_error ha
    refine .inl ⟨hnone, ?_⟩
    simp only [Store.duplicate, ha, bind, Except.bind]
  | ok r =>
    obtain ⟨d, u⟩ := r
    have hd := duplicate_of_alloc ha
    exact .inr ⟨available_of_alloc ha, _, _, hd, h.doubled hd⟩

/-- A handle that is alone stays, one that shares its slot gives way to a copy, and with no slot
for the copy there is a fault. -/
theorem Ledger.unshare_cases (h : s.Ledger (b ::ₘ live) aside) :
    (s.isShared b = false ∧ s.unshare b = .ok (b, s)) ∨
    (s.isShared b = true ∧ (s.pool b.pool).available = 0 ∧
      s.unshare b = .error (.exhausted .pool)) ∨
    (s.isShared b = true ∧ 0 < (s.pool b.pool).available ∧
      ∃ c t, s.unshare b = .ok (c, t) ∧ Copied s b t c) := by
  cases hb : s.isShared b with
  | false => exact .inl ⟨rfl, if_neg (by simp [hb])⟩
  | true =>
    rcases h.duplicate_cases with ⟨hnone, hd⟩ | ⟨havailable, c, t, hd, hdoubled⟩
    · refine .inr (.inl ⟨rfl, hnone, ?_⟩)
      simp only [Store.unshare, hb, hd, if_true, bind, Except.bind]
    · refine .inr (.inr ⟨rfl, havailable, c, t.drop b, ?_, hdoubled.drop hb⟩)
      simp only [Store.unshare, hb, hd, if_true, bind, Except.bind, pure, Except.pure]

namespace Relocated

variable (h : Relocated s b t c)
include h

theorem bufferLength : t.bufferLength c = s.bufferLength b := by
  unfold Store.bufferLength Pool.bufferLength
  rw [h.pool, h.config]

theorem of_place (hd : d.place = c.place) : Relocated s b t d := by
  obtain ⟨hpool, hslot⟩ := Prod.mk.inj hd
  refine ⟨hpool.trans h.pool, hslot ▸ h.queue, h.otherPools, h.config, h.capacity, hd ▸ h.apart, ?_,
    h.old, fun x hxb hxd => h.holdersAt x hxb (hd ▸ hxd)⟩
  rw [holders, hpool, hslot]
  exact h.alone

/-- One slot was taken. -/
theorem available : (t.pool b.pool).available + 1 = (s.pool b.pool).available := by
  have hlength := congrArg List.length h.queue
  rw [FreeQueue.length_toList, List.length_cons, FreeQueue.length_toList] at hlength
  exact hlength.symm

end Relocated

/-! ## What holds of every live handle -/

/-- What making `b` private does, beside `others`: it fails when a copy is needed and there is no
slot for one. Else the handle is alone on its slot, and sees what it saw through the same window.
A copy costs one free slot, and a slot that was given up is still held by somebody. -/
structure Unshares (s : Store) (others : Multiset Buffer) (b : Buffer) : Prop where
  succeeds_iff : (∃ r, s.unshare b = .ok r) ↔
    s.isShared b = false ∨ 0 < (s.pool b.pool).available
  fault : ∀ e, s.unshare b = .error e → e = .exhausted .pool
  sole : ∀ c t, s.unshare b = .ok (c, t) →
    t.holders c = 1 ∧ t.writable c = .ok () ∧ ∀ d ∈ others, d.place ≠ c.place
  same : ∀ c t, s.unshare b = .ok (c, t) →
    c.window = b.window ∧ t.data c = s.data b ∧ ∀ d ∈ others, t.data d = s.data d
  kept : s.isShared b = false → s.unshare b = .ok (b, s)
  copied : ∀ c t, s.isShared b = true → s.unshare b = .ok (c, t) → Copied s b t c ∧
    (t.pool b.pool).available + 1 = (s.pool b.pool).available ∧ 1 ≤ t.holders b

/-- What copying `b` does, beside `others`: it fails when there is no free slot. -/
structure Duplicates (s : Store) (others : Multiset Buffer) (b : Buffer) : Prop where
  succeeds_iff : (∃ r, s.duplicate b = .ok r) ↔ 0 < (s.pool b.pool).available
  fault : ∀ e, s.duplicate b = .error e → e = .exhausted .pool
  doubled : ∀ c t, s.duplicate b = .ok (c, t) → Doubled s b t c
  sole : ∀ c t, s.duplicate b = .ok (c, t) →
    t.writable c = .ok () ∧ ∀ d ∈ b ::ₘ others, d.place ≠ c.place
  untouched : ∀ c t, s.duplicate b = .ok (c, t) →
    t.holders b = s.holders b ∧ ∀ d ∈ b ::ₘ others, t.data d = s.data d

theorem writable_of_alone (h : t.holders c = 1) : t.writable c = .ok () := by
  refine if_neg ?_
  rw [isShared_iff, show t.holdersAt c.place = 1 from h]
  exact Nat.lt_irrefl 1

theorem Ledger.duplicates (h : s.Ledger (b ::ₘ live) aside) : s.Duplicates live b where
  succeeds_iff := by
    rcases h.duplicate_cases with ⟨hnone, heq⟩ | ⟨havailable, c, t, heq, -⟩
    · simp [heq, hnone]
    · simp [heq, havailable]
  fault e he := by
    rcases h.duplicate_cases with ⟨-, heq⟩ | ⟨-, c, t, heq, -⟩
    · rw [heq] at he
      exact (Except.error.inj he).symm
    · rw [heq] at he
      cases he
  doubled _ _ hd := h.doubled hd
  sole _ _ hd := ⟨writable_of_alone (h.doubled hd).alone, (h.duplicate hd).2.2⟩
  untouched _ _ hd := ⟨(h.doubled hd).old, (h.duplicate hd).2.1⟩

theorem Ledger.unshare_eq_ok (h : s.Ledger (b ::ₘ live) aside) (hu : s.unshare b = .ok (c, t)) :
    (s.isShared b = false ∧ c = b ∧ t = s) ∨ (s.isShared b = true ∧ Copied s b t c) := by
  rcases h.unshare_cases with ⟨hb, heq⟩ | ⟨-, -, heq⟩ | ⟨hb, -, d, u, heq, hcopied⟩
  · rw [heq] at hu
    cases hu
    exact .inl ⟨hb, rfl, rfl⟩
  · rw [heq] at hu
    cases hu
  · rw [heq] at hu
    cases hu
    exact .inr ⟨hb, hcopied⟩

theorem Ledger.unshares (h : s.Ledger (b ::ₘ live) aside) : s.Unshares live b where
  succeeds_iff := by
    rcases h.unshare_cases with ⟨hb, heq⟩ | ⟨hb, hnone, heq⟩ | ⟨hb, havailable, c, t, heq, -⟩
    · simp [heq, hb]
    · simp [heq, hb, hnone]
    · simp [heq, havailable]
  fault e he := by
    rcases h.unshare_cases with ⟨-, heq⟩ | ⟨-, -, heq⟩ | ⟨-, -, c, t, heq, -⟩
    · rw [heq] at he
      cases he
    · rw [heq] at he
      exact (Except.error.inj he).symm
    · rw [heq] at he
      cases he
  sole c t hu := by
    obtain ⟨hledger, -, hapart⟩ := h.unshare hu
    have halone := hledger.alone_of_unnamed hapart
    exact ⟨halone, writable_of_alone halone, hapart⟩
  same c t hu := by
    obtain ⟨-, hdata, -⟩ := h.unshare hu
    rcases h.unshare_eq_ok hu with ⟨-, rfl, rfl⟩ | ⟨-, hcopied⟩
    · exact ⟨rfl, rfl, hdata⟩
    · exact ⟨hcopied.window, hcopied.data, hdata⟩
  kept hb := if_neg (by simp [hb])
  copied c t hshared hu := by
    rcases h.unshare_eq_ok hu with ⟨hb, -, -⟩ | ⟨-, hcopied⟩
    · rw [hb] at hshared
      cases hshared
    · have hmany : 1 < s.holders b := isShared_iff.mp hshared
      have hold := hcopied.old
      exact ⟨hcopied, hcopied.available, by omega⟩

end Store
end Dataplane
