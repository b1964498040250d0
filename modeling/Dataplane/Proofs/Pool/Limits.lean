import Dataplane.Proofs.Buffer.Sharing

/-! # How many buffers there can be

A pool never has more free slots than slots, however it is used, since a slot that finds no room in
the queue is not put there. The pools of a store that were made small thus stay small, and an
allocation never gives more buffers than the largest of them has.
-/
namespace Dataplane

/-- A pool of less than `n` slots, with no more free ones than there are. -/
def Pool.Within (n : Nat) (p : Pool) : Prop := p.available ≤ p.capacity ∧ p.capacity < n

namespace Pool.Within

variable {n : Nat} {p : Pool}

theorem setHolders (h : p.Within n) (i m : Nat) : (p.setHolders i m).Within n := by
  unfold Within available at h ⊢
  rwa [capacity_setHolders, free_setHolders]

theorem write (h : p.Within n) (i start : Nat) (new : List UInt8) :
    (p.write i start new).Within n := by
  unfold Within available at h ⊢
  rwa [capacity_write, free_write]

theorem release (h : p.Within n) (i : Nat) : (p.release i).Within n := by
  unfold Pool.release
  split
  · rename_i hroom
    exact ⟨hroom, h.2⟩
  · exact h

theorem unhold (h : p.Within n) (i : Nat) : (p.unhold i).Within n := by
  unfold Pool.unhold Pool.relinquish
  cases p.isLastHolder i with
  | true => exact (h.setHolders i _).release i
  | false => exact h.setHolders i _

theorem create {name : String} {c : PoolConfig} {hasMemory : Bool} (hc : c.buffers < n)
    (h : Pool.create name c hasMemory = .ok p) : p.Within n := by
  obtain ⟨-, rfl⟩ := Checked.create h
  have hfree : (FreeQueue.ofList (List.range c.buffers)).size = c.buffers := List.length_range
  refine ⟨?_, ?_⟩
  · simp [available, capacity, hfree]
  · simpa [capacity] using hc

end Pool.Within

namespace Store

def Within (n : Nat) (s : Store) : Prop := ∀ p, (s.pool p).Within n

namespace Within

variable {n : Nat} {s t : Store} {b c : Buffer}

theorem update (h : s.Within n) (p : Nat) {f : Pool → Pool}
    (hf : ∀ x : Pool, x.Within n → (f x).Within n) : (s.update p f).Within n := by
  intro q
  have hq := h q
  unfold Store.update pool at hq ⊢
  rw [Array.getD_eq_getD_getElem?] at hq ⊢
  rw [Array.getElem?_modify]
  split
  · cases hx : s.pools[q]? with
    | none => rwa [hx] at hq
    | some x =>
      rw [hx] at hq
      exact hf x hq
  · exact hq

theorem take (h : s.Within n) {p i : Nat} (ht : s.take? p = some (i, t)) : t.Within n := by
  obtain ⟨free, hfree, hpool⟩ := take?_eq_some ht
  intro q
  rw [hpool]
  split
  · obtain ⟨hle, hlt⟩ := h p
    have hlength := congrArg List.length hfree
    rw [FreeQueue.length_toList, List.length_cons, FreeQueue.length_toList] at hlength
    refine ⟨?_, hlt⟩
    change free.size ≤ (s.pool p).capacity
    change (s.pool p).free.size ≤ _ at hle
    omega
  · exact h q

theorem alloc (h : s.Within n) {p : Nat} (ha : s.alloc p = .ok (b, t)) : t.Within n := by
  obtain ⟨i, u, ht, -, rfl⟩ := alloc_eq_ok ha
  exact (h.take ht).update p fun _ hx => hx.setHolders i 1

theorem drop (h : s.Within n) (b : Buffer) : (s.drop b).Within n :=
  h.update b.pool fun _ hx => hx.unhold b.slot

theorem dropAll (h : s.Within n) (bs : List Buffer) : (s.dropAll bs).Within n := by
  induction bs generalizing s with
  | nil => exact h
  | cons b rest ih => exact ih (h.drop b)

theorem write (h : s.Within n) (b : Buffer) (start : Nat) (new : List UInt8) :
    (s.write b start new).Within n :=
  h.update b.pool fun _ hx => hx.write _ _ _

theorem clone (h : s.Within n) (b : Buffer) : (s.clone b).2.Within n :=
  h.update b.pool fun _ hx => hx.setHolders _ _

theorem duplicate (h : s.Within n) (hd : s.duplicate b = .ok (c, t)) : t.Within n := by
  obtain ⟨d, u, ha, -, rfl⟩ := duplicate_eq_ok hd
  exact (h.alloc ha).write _ _ _

theorem unshare (h : s.Within n) (hu : s.unshare b = .ok (c, t)) : t.Within n := by
  unfold Store.unshare at hu
  split at hu
  · cases hd : s.duplicate b with
    | error e => simp [hd, bind, Except.bind] at hu
    | ok r =>
      simp only [hd, bind, Except.bind, pure, Except.pure, Except.ok.injEq, Prod.mk.injEq] at hu
      obtain ⟨-, rfl⟩ := hu
      exact (h.duplicate hd).drop b
  · cases hu
    exact h

theorem allocUpTo (h : s.Within n) (p m : Nat) : (s.allocUpTo p m).2.Within n := by
  induction m generalizing s with
  | zero => exact h
  | succ m ih =>
    rw [Store.allocUpTo]
    cases ha : s.alloc p with
    | error e => exact h
    | ok r => exact ih (h.alloc ha)

theorem allocExact (h : s.Within n) {p m : Nat} {r : Except Fault (List Buffer)}
    (ha : s.allocExact? p m = some (r, t)) : t.Within n := by
  rcases allocExact?_eq_some ha with heq | heq
  · cases heq
    exact (h.allocUpTo p m).dropAll _
  · cases heq
    exact h.allocUpTo p m

theorem create (h : s.Within n) {name : String} {config : PoolConfig} {hasMemory : Bool} {p : Nat}
    (hconfig : config.buffers < n) (hc : s.create name config hasMemory = .ok (p, t)) :
    t.Within n := by
  obtain ⟨new, hnew, hpool⟩ := create_eq_ok hc
  intro q
  rw [hpool]
  split
  · exact .create hconfig hnew
  · exact h q

theorem empty (hn : 0 < n) : ({} : Store).Within n := fun _ => ⟨Nat.le_refl _, hn⟩

end Within

theorem length_allocUpTo_le (s : Store) (p m : Nat) :
    (s.allocUpTo p m).1.length ≤ (s.pool p).available := by
  induction m generalizing s with
  | zero => exact Nat.zero_le _
  | succ m ih =>
    rw [allocUpTo]
    cases ha : s.alloc p with
    | error e => exact Nat.zero_le _
    | ok r =>
      obtain ⟨b, t⟩ := r
      obtain ⟨i, u, ht, -, rfl⟩ := alloc_eq_ok ha
      obtain ⟨free, hfree, hpool⟩ := take?_eq_some ht
      have hrest : ((u.claim p i).2.pool p).available = free.size := by
        rw [Pool.available, claim, pool_setHolders, if_pos rfl, Pool.free_setHolders, hpool,
          if_pos rfl]
      have hlength := congrArg List.length hfree
      rw [FreeQueue.length_toList, List.length_cons, FreeQueue.length_toList] at hlength
      have hle := ih (u.claim p i).2
      rw [hrest] at hle
      change _ + 1 ≤ (s.pool p).free.size
      omega

end Store
end Dataplane
