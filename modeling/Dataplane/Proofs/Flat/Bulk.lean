import Dataplane.Proofs.Flat.Ledger
import Dataplane.Proofs.Pool.Bulk

/-! # Arrays that are filled whole

A call that fills an array with new buffers fills as many entries as it was asked to, or none. Where
the pool is short, or no pool or array is named, registers, ports, rings and pools are what they
were.
-/
namespace Dataplane
namespace Flat

variable {f g : Flat} {array : String} {i n : Nat}

/-- The bulk was there, and the first handles to the first slots of the queue were stored. -/
structure TakesWhole (f : Flat) (i n : Nat) (array : String) (r : Step) : Prop where
  reply : r.1 = .filled 0 n
  length : (f.store.nextHandles i n).length = n
  stored : ∃ t, Store.Drawn f.store i n (f.store.nextHandles i n) t ∧
    f.Stored array (f.store.nextHandles i n) (f.fabric.updateStore fun _ => t) r.2

/-- The call failed, and nothing but the record of errors has changed. -/
structure LeavesAlone (f : Flat) (code : Int32) (r : Step) : Prop where
  reply : r.1 = .filled code 0
  pools : Store.Restored f.store r.2.store
  rest : r.2 = { f.setStore r.2.store with lastError := code }

/-- What a call for `n` buffers does that fills an array whole. -/
structure FillsWhole (f : Flat) (n : Nat) : Prop where
  enough : ∀ p i array, f.pools.get? p = some i → n ≤ (f.store.pool i).available →
    f.TakesWhole i n array (f.exec (.buffer (.allocBulk p (some array) n)))
  short : ∀ p i array, f.pools.get? p = some i → (f.store.pool i).available < n →
    f.LeavesAlone (Fault.exhausted .pool).code (f.exec (.buffer (.allocBulk p (some array) n)))
  null : ∀ p array, f.pools.get? p = none ∨ array = none →
    f.LeavesAlone Fault.nullHandle (f.exec (.buffer (.allocBulk p array n)))

theorem allocBulk_takes (h : f.store.Whole i n) (henough : n ≤ (f.store.pool i).available)
    (array : String) : f.TakesWhole i n array (f.allocBulk i array n) := by
  obtain ⟨t, ht, hdrawn⟩ := h.enough henough
  have hlength : (f.store.nextHandles i n).length = n := by
    rw [Store.length_nextHandles, Nat.min_eq_left henough]
  rw [allocBulk, ht]
  dsimp only
  rw [hlength]
  exact ⟨rfl, hlength, t, hdrawn, f.keepArray_stored array _ _⟩

theorem allocBulk_leaves (h : f.store.Whole i n) (hshort : (f.store.pool i).available < n)
    (array : String) :
    f.LeavesAlone (Fault.exhausted .pool).code (f.allocBulk i array n) := by
  obtain ⟨t, ht, hrestored⟩ := h.short hshort
  rw [allocBulk, ht]
  exact ⟨rfl, hrestored, rfl⟩

theorem leaves_failNull (f : Flat) :
    f.LeavesAlone Fault.nullHandle (.filled Fault.nullHandle 0, f.failNull) :=
  ⟨rfl, .refl f.store, rfl⟩

theorem Orderly.fillsWhole (h : f.Orderly) (hn : n ≤ maxReserved) : f.FillsWhole n where
  enough p i array hp henough := by
    simp only [Flat.exec, Flat.runBuffer, Flat.withPool, hp]
    exact allocBulk_takes (h.ledger.whole i hn) henough array
  short p i array hp hshort := by
    simp only [Flat.exec, Flat.runBuffer, Flat.withPool, hp]
    exact allocBulk_leaves (h.ledger.whole i hn) hshort array
  null p array hnull := by
    simp only [Flat.exec, Flat.runBuffer, Flat.withPool]
    rcases hnull with hnone | rfl
    · rw [hnone]
      exact leaves_failNull f
    · cases f.pools.get? p <;> exact leaves_failNull f

/-- In every state that calls can bring about, of pools or of the flat interface, a bulk that must
be whole is the front of the queue, or the pool is short and stays as it was. -/
theorem whole_run {n : Nat} (hn : n ≤ maxReserved) :
    (∀ calls p, (Client.run calls).store.Whole p n) ∧
      ∀ machine calls, (∀ c ∈ calls, c.Proper) → (Flat.run { machine } calls).FillsWhole n :=
  ⟨fun calls p => (Client.balanced_run calls).ledger.whole p hn,
    fun machine _ hcalls => (orderly_of_run machine hcalls).fillsWhole hn⟩

/-- Two of four buffers are out, one of them twice, and a slot that was freed stands last in the
queue: two buffers can be had, and three cannot. -/
theorem whole_run_stirred :
    let s := (Client.run [
      .pool (.create "pool" { buffers := 4, cacheSize := 0, dataRoom := 64, headroom := 16 } true),
      .pool (.allocInto 0 3), .buffer ⟨0, 0, ⟨16, 0⟩⟩ .clone, .buffer ⟨0, 1, ⟨16, 0⟩⟩ .drop]).store
    let calls : List FlatCall := [.buffer (.createPool "p" (some [112]) 4 0 64 0 true),
      .buffer (.alloc "p" "a"), .buffer (.alloc "p" "b"), .buffer (.alloc "p" "c"),
      .buffer (.clone "a" "d"), .buffer (.free "b")]
    let f := Flat.run {} calls
    (s.pool 0).free.toList = [3, 1] ∧ s.Whole 0 2 ∧ s.Whole 0 3 ∧
      (f.store.pool 0).free.toList = [3, 1] ∧ f.FillsWhole 2 ∧ f.FillsWhole 3 ∧
      (f.exec (.buffer (.allocBulk "p" (some "v") 2))).1 = .filled 0 2 ∧
      (f.exec (.buffer (.allocBulk "p" (some "v") 3))).1 = .filled (-105) 0 := by
  intro s calls f
  have hcalls : ∀ c ∈ calls, c.Proper := by simp [calls, FlatCall.Proper]
  refine ⟨?_, (whole_run (by decide)).1 _ 0, (whole_run (by decide)).1 _ 0, ?_,
    (whole_run (by decide)).2 {} calls hcalls, (whole_run (by decide)).2 {} calls hcalls, rfl, rfl⟩
  · decide +kernel
  · decide +kernel

end Flat
end Dataplane
