import Dataplane.Proofs.Flat.Record

/-! # The signs of codes

Whoever is given only a number takes a negative one for a failure, and a code is the number of a
cause with its sign turned. The numbers of the library's own faults are positive, so that their
codes signal a failure wherever they are returned or recorded. A number of the operating system
passes as it is. If it is zero, the failure looks like a success; if it is negative, the code is
positive; and the least number of all has no opposite in 32 bits. No call of the flat interface has
such a fault behind it, whatever state it is made in.
-/
namespace Dataplane
namespace Fault

variable {e : Fault}

/-! ## Signals -/

/-- What a caller relies on who is given only a number: turning the sign did not overflow, and the
code is negative, wherever it is recorded or returned. -/
structure Signals (e : Fault) : Prop where
  exact : e.code.toInt = -e.number.toInt
  negative : e.code < 0
  recorded (f : Flat) : (f.fail e).lastError < 0
  returned (f : Flat) : ∃ n, (f.status (.error e)).1.int? = some n ∧ n < 0

theorem signals_iff : e.Signals ↔ 0 < e.number := by
  constructor
  · intro h
    have hne := toInt_code_eq_iff.mp h.exact
    exact (code_neg_iff.mp h.negative).resolve_right hne
  · intro hpos
    have hneg : e.code < 0 := code_neg_iff.mpr (.inl hpos)
    have hne : e.number ≠ Int32.minValue := by
      intro hmin
      rw [hmin] at hpos
      exact absurd hpos (by decide)
    exact ⟨toInt_code_eq_iff.mpr hne, hneg, fun _ => hneg, fun _ => ⟨e.code, rfl, hneg⟩⟩

end Fault

namespace Flat

/-! ## Faults behind the calls -/

open Fault (NoneOrOwn Own)

variable {f : Flat}

theorem own_faultOn {α : Type} {m : String} {k : Buffer → Except Fault α}
    (hk : ∀ b, Own (k b)) : NoneOrOwn (f.faultOn m k) :=
  .bind fun b _ => .of (hk b)

theorem own_faultBuffer (c : FlatBufferCall) : NoneOrOwn (f.faultBuffer c) := by
  cases c with
  | createPool p name buffers cacheSize dataRoom socket hasMemory =>
    exact .bind fun octets _ => .of (.createPool _ _ _ _)
  | alloc p m => exact .bind fun i _ => .of (.alloc _ _)
  | allocBulk p array count => exact .bind fun i _ => .bind fun r hr => .of (.allocExact hr)
  | copy m target => exact own_faultOn fun b => .duplicate _ _
  | writableData m => exact own_faultOn fun b => .unshare _ _
  | prepend m n => exact own_faultOn fun b => (Own.unshare _ _).bind fun _ => .moved _ _ _ _
  | append m n => exact own_faultOn fun b => (Own.unshare _ _).bind fun _ => .moved _ _ _ _
  | adj m n => exact own_faultOn fun b => (Own.unshare _ _).bind fun _ => .moved _ _ _ _
  | trim m n => exact own_faultOn fun b => .moved _ _ _ _
  | _ => exact .none

theorem own_faultUse (c : FlatUse) : NoneOrOwn (f.faultUse c) := by
  cases c with
  | poke m start bytes => exact own_faultOn fun b => .ite (.ok _) (.unshare _ _)
  | _ => exact .none

theorem own_faultPort (c : FlatPortCall) : NoneOrOwn (f.faultPort c) := by
  unfold faultPort
  -- As in `told_runPort`, the calls that run something on one port are one case.
  cases c.onPort? with
  | some r => exact .of ((Own.portOf _ _).bind fun p => .runPort _ _ _)
  | none =>
    cases c with
    | createPair a b hasOut first second =>
      cases a with
      | none => exact .none
      | some a =>
        cases b with
        | none => exact .none
        | some b => exact .of (.createPair _ _ _ _ _)
    | createLoopback name octets => exact .bind fun octets _ => .of (.createLoopback _ _ _)
    | find name => exact .bind fun octets _ => .of (.findPort _ _)
    | info | mac | mtu | link | stats | socket | promiscuous => exact .of (.portOf _ _)
    | _ => exact .none

theorem own_faultQueue (c : FlatQueueCall) : NoneOrOwn (f.faultQueue c) := by
  cases c with
  | takeRx port queue x => exact .of ((Own.portOf _ _).bind fun p => .takeRx _ _ _)
  | takeTx port queue x => exact .of ((Own.portOf _ _).bind fun p => .takeTx _ _ _)
  | _ => exact .none

/-- Nothing behind the flat interface passes on what the operating system says. -/
theorem own_fault (c : FlatCall) : NoneOrOwn (f.fault? c) := by
  cases c with
  | query c => exact .none
  | lock c => exact .none
  | buffer c => exact own_faultBuffer c
  | use c => exact own_faultUse c
  | port c => exact own_faultPort c
  | queue c => exact own_faultQueue c

/-- A missing handle has a negative code as well. -/
theorem failure_neg {c : FlatCall} {k : Int32} (h : f.failure? c = some k) : k < 0 := by
  unfold failure? failureOf at h
  split at h
  · cases h
    decide
  · obtain ⟨e, he, rfl⟩ := Option.map_eq_some_iff.mp h
    exact Fault.code_neg (own_fault c e he)

theorem failures_neg {calls : List FlatCall} : ∀ k ∈ f.failures calls, k < 0 := by
  induction calls generalizing f with
  | nil => exact fun _ h => nomatch h
  | cons c rest ih =>
    intro k hk
    rcases List.mem_append.mp hk with hfirst | hrest
    · exact failure_neg (Option.mem_toList.mp hfirst)
    · exact ih k hrest

end Flat

namespace Fault

variable {e : Fault}

/-! ## Which faults signal -/

/-- What becomes of a fault that is turned into a number. -/
structure Coded (e : Fault) : Prop where
  /-- Turning the sign overflows for one number. -/
  exact_iff : e.code.toInt = -e.number.toInt ↔ e ≠ .system Int32.minValue
  negative_iff : e.code < 0 ↔ ∀ n, e = .system n → 0 < n ∨ n = Int32.minValue
  /-- The code is recorded and returned as it is. -/
  shown : ∀ f : Flat, (f.status (.error e)).1.int? = some e.code ∧
    (f.status (.error e)).2.lastError = e.code ∧ (f.fail e).lastError = e.code
  /-- One fault passes for a success. -/
  success_iff : ∀ f : Flat, (f.status (.error e)).1 = (f.status (.ok ())).1 ↔ e = .system 0
  signals_iff : e.Signals ↔ ∀ n, e = .system n → 0 < n
  /-- Every fault behind a call signals. -/
  signals_of_call : ∀ (f : Flat) (c : FlatCall), f.fault? c = some e → e.Signals

theorem status_eq_ok_iff (f : Flat) :
    (f.status (.error e)).1 = (f.status (.ok ())).1 ↔ e = .system 0 := by
  change FlatReply.int e.code = FlatReply.int 0 ↔ _
  rw [FlatReply.int.injEq, code_eq_zero_iff, number_eq_iff (by decide)]

theorem coded (e : Fault) : e.Coded where
  exact_iff := by rw [toInt_code_eq_iff, ne_eq, number_eq_iff (by decide)]
  negative_iff := by
    rw [code_neg_iff]
    exact number_iff (P := fun n => 0 < n ∨ n = Int32.minValue) fun n hn => .inl hn
  shown f := ⟨rfl, rfl, rfl⟩
  success_iff := status_eq_ok_iff
  signals_iff := by
    rw [signals_iff]
    exact number_iff fun n hn => hn
  signals_of_call f c h := signals_iff.mpr (number_pos (Flat.own_fault c e h))

/-- The faults that do not signal are those with a number of the operating system that is not
positive. No call of the flat interface has one behind it, so that the codes of all failures in a
run are negative. -/
theorem coded_run (e : Fault) (f : Flat) (calls : List FlatCall) :
    e.Coded ∧ ∀ k ∈ f.failures calls, k < 0 :=
  ⟨coded e, Flat.failures_neg⟩

/-- A port that is not there. -/
theorem coded_run_astray :
    let start : Flat := {}
    let call : FlatCall := .port (.start 3)
    let fault : Fault := .badHandle "port3"
    start.fault? call = some fault ∧ fault.Signals ∧
      -19 ∈ start.failures [call] ∧ (-19 : Int32) < 0 := by
  intro start call fault
  have hfault : start.fault? call = some fault := rfl
  have hmem : -19 ∈ start.failures [call] := List.mem_singleton.mpr rfl
  obtain ⟨hcoded, hneg⟩ := coded_run fault start [call]
  exact ⟨hfault, hcoded.signals_of_call start call hfault, hmem, hneg _ hmem⟩

/-- A number of the operating system that is zero makes a failure look like a success, one below
zero makes the code positive, and the least one overflows. -/
theorem not_signals_borrowed :
    (({} : Flat).status (.error (.system 0))).1 = .int 0 ∧ (system (-1)).code = 1 ∧
      (system Int32.minValue).code.toInt ≠ -(system Int32.minValue).number.toInt ∧
      ¬ ∀ e : Fault, e.Signals := by
  refine ⟨rfl, rfl, by decide, fun h => ?_⟩
  have hzero : (system 0).code < 0 := (h (system 0)).negative
  exact absurd hzero (by decide)

end Fault
end Dataplane
