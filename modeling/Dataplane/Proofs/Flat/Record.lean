import Dataplane.Proofs.Flat.Errors

/-! # The record of failures over a run

The record always holds the code of the last call that failed, and zero before the first one. So it
is from every state that a thread can bring about, and so each call reports.
-/
namespace Dataplane

def FlatCall.isRelease : FlatCall → Bool
  | .lock (.free _) | .lock (.freeRecursive _) | .buffer (.freePool _) | .buffer (.free _)
  | .queue (.putRx _) | .queue (.putTx _) => true
  | _ => false

namespace Flat

def failures (f : Flat) : List FlatCall → List Int32
  | [] => []
  | c :: rest => (f.failure? c).toList ++ (f.exec c).2.failures rest

/-- How a call reports from `f`: what it records, and what its result shows. -/
structure Reports (f : Flat) (c : FlatCall) : Prop where
  recorded : (f.exec c).2.lastError = (f.failure? c).getD f.lastError
  int : c.kind = some .int → ∃ n, (f.exec c).1.int? = some n ∧ ((f.failure? c).isSome ↔ n < 0) ∧
    ∀ e, f.failure? c = some e → n = e
  pointer : c.kind = some .pointer → (f.exec c).1.isNull? = some (f.failure? c).isSome
  plain : c.kind = some .plain →
    f.failure? c = if f.lacks c then some Fault.nullHandle else none
  released : c.isRelease = true → (f.exec c).2.lastError = f.lastError

variable {f : Flat}

theorem reports_exec (h : f.fabric.Modest 2147483648) {c : FlatCall} (hc : c.Sized 2147483648) :
    f.Reports c := by
  have htold := told_exec h hc
  refine ⟨htold.record, htold.int, htold.pointer, fun hplain => ?_, fun hrelease => ?_⟩
  · rw [failure?, failureOf, htold.plain hplain, Option.map_none]
  · have hnone : f.failure? c = none := by
      cases c with
      | lock c => cases c <;> first | rfl | cases hrelease
      | buffer c => cases c <;> first | rfl | cases hrelease
      | queue c => cases c <;> first | rfl | cases hrelease
      | _ => cases hrelease
    rw [htold.record]
    change (f.failure? c).getD f.lastError = f.lastError
    rw [hnone, Option.getD_none]

theorem lastError_run (h : f.fabric.Modest 2147483648) {calls : List FlatCall}
    (hcalls : ∀ c ∈ calls, c.Sized 2147483648) :
    (f.run calls).lastError = (f.failures calls).getLast?.getD f.lastError := by
  induction calls generalizing f with
  | nil => rfl
  | cons c rest ih =>
    have hc := hcalls c List.mem_cons_self
    have hrest := ih (modest_exec h hc) fun d hd => hcalls d (List.mem_cons_of_mem _ hd)
    have hstep := (reports_exec h hc).recorded
    change ((f.exec c).2.run rest).lastError = _
    rw [hrest, failures, List.getLast?_append, hstep]
    cases f.failure? c <;> cases ((f.exec c).2.failures rest).getLast? <;> rfl

/-- A thread that starts anew, and makes only pools of less than 2^31 buffers, always finds the code
of its last failure in the record, which is zero before the first one. Every call it may make next
reports as it should. -/
theorem reports_run (machine : Machine) {calls : List FlatCall}
    (hcalls : ∀ c ∈ calls, c.Sized 2147483648) :
    let start : Flat := { machine }
    let now := start.run calls
    now.exec (.query .lastError) = (.int ((start.failures calls).getLast?.getD 0), now) ∧
      ∀ c : FlatCall, c.Sized 2147483648 → now.Reports c := by
  intro start now
  have hstart : start.fabric.Modest 2147483648 := .empty (by decide)
  refine ⟨?_, fun c hc => reports_exec (modest_run hstart hcalls) hc⟩
  have hrecord : now.lastError = (start.failures calls).getLast?.getD 0 :=
    lastError_run hstart hcalls
  rw [← hrecord]
  rfl

/-- A null pool, a port that is not there, a pool too large for the machine, and then the freeing of
nothing. -/
theorem reports_run_three :
    let calls : List FlatCall :=
      [.buffer (.alloc "p" "m"), .port (.start 0),
        .buffer (.createPool "p" (some [112]) 2147483647 0 65407 0 false), .buffer (.free "m")]
    let start : Flat := {}
    (∀ c ∈ calls, c.Sized 2147483648) ∧ start.failures calls = [-22, -19, -105] ∧
      (start.run calls).exec (.query .lastError) = (.int (-105), start.run calls) ∧
      ∀ c : FlatCall, c.Sized 2147483648 → (start.run calls).Reports c := by
  intro calls start
  have hcalls : ∀ c ∈ calls, c.Sized 2147483648 := by
    intro c hc
    simp only [calls, List.mem_cons, List.not_mem_nil, or_false] at hc
    rcases hc with rfl | rfl | rfl | rfl
    · trivial
    · trivial
    · exact (by decide : 2147483647 < 2147483648)
    · trivial
  have hfailures : start.failures calls = [-22, -19, -105] := by decide +kernel
  obtain ⟨hrecord, hreports⟩ := reports_run {} hcalls
  refine ⟨hcalls, hfailures, ?_, hreports⟩
  rw [hrecord, hfailures]
  rfl

end Flat
end Dataplane
