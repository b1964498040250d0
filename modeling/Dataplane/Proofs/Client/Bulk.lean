import Dataplane.Proofs.Client.Accounting
import Dataplane.Proofs.Pool.Bulk

/-! # How much can be asked for

Taking up to a number of buffers gives what there is, however large the number is. A call that
reserves room for its result before it looks at the pool needs a number of handles that memory can
be reserved for, and does not return where there is none: asking for more than that is not a short
allocation, whether the pool could have given much or little.
-/
namespace Dataplane

/-- What the ways to ask a pool for up to `n` buffers do, and those that ask for exactly `n`. -/
structure Store.Yields (s : Store) (p n : Nat) : Prop where
  /-- The buffers that are appended are the first handles to the first slots of the queue. -/
  appended : s.Drawn p n (s.allocUpTo p n).1 (s.allocUpTo p n).2
  length : (s.allocUpTo p n).1.length = min n (s.pool p).available
  /-- Those that are returned are the same, if the list for them can be reserved. -/
  returned : s.allocBulk? p n = if n ≤ maxReserved then some (s.allocUpTo p n) else none
  exact : (∃ r, s.allocExact? p n = some r) ↔ n ≤ maxReserved
  short : n ≤ maxReserved → ((s.pool p).available < n ↔
    ∃ t, s.allocExact? p n = some (.error (.exhausted .pool), t))

theorem Store.Ledger.yields {s : Store} {live : Multiset Buffer} {aside : Multiset Place}
    (h : s.Ledger live aside) (p n : Nat) : s.Yields p n := by
  have hdrawn := h.allocUpTo_drawn p n
  have hreturned := s.allocBulk?_eq p n
  refine ⟨hdrawn, hdrawn.length, hreturned, ⟨fun ⟨r, hr⟩ => ?_, fun hn => ?_⟩, fun hn => ?_⟩
  · by_contra hn
    rw [allocExact?, hreturned, if_neg hn] at hr
    cases hr
  · rw [allocExact?, hreturned, if_pos hn]
    exact ⟨_, rfl⟩
  · constructor
    · intro hshort
      obtain ⟨t, ht, -⟩ := (h.whole p hn).short hshort
      exact ⟨t, ht⟩
    · rintro ⟨t, ht⟩
      by_contra henough
      obtain ⟨u, hu, -⟩ := (h.whole p hn).enough (Nat.le_of_not_lt henough)
      rw [hu] at ht
      cases ht

namespace Client

/-- Whatever was called, up to `n` buffers are what the queue begins with, and a call that reserves
a list for them returns if and only if there can be such a list. -/
theorem yields_run (calls : List Call) (p n : Nat) : (run calls).store.Yields p n :=
  (balanced_run calls).ledger.yields p n

/-- Two buffers are there, and all that there are is asked for. -/
theorem not_returned_huge :
    let s := (run [.pool (.create "pool"
      { buffers := 2, cacheSize := 0, dataRoom := 8, headroom := 0 } true)]).store
    (s.pool 0).available = 2 ∧
      (s.allocUpTo 0 18446744073709551615).1 = [⟨0, 0, ⟨0, 0⟩⟩, ⟨0, 1, ⟨0, 0⟩⟩] ∧
      s.allocBulk? 0 18446744073709551615 = none ∧
      s.allocExact? 0 18446744073709551615 = none := by
  refine ⟨rfl, ?_, rfl, rfl⟩
  decide +kernel

end Client
end Dataplane
