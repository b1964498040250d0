import Mathlib.Algebra.Order.Ring.Nat
import Dataplane.Clock

/-! # How long a busy wait lasts

The counter is taken as a number without bounds that never goes backwards; what is read off it are
its last 64 bits. A wait has a number of ticks: while the counter has moved on by fewer, it has not
returned, and it returns with the first reading after that, unless half the range of the counter
went by in between. The number is the product of time and frequency, cut off where a word ends, over
10^6. A wait whose product does not fit in a word thus ends too early: at 1 GHz, any wait of more
than about five hours does.
-/
namespace Dataplane
namespace Clock

/-- What a program reads while the counter stands at one number after another. -/
def readings (counts : List Nat) : List UInt64 := counts.map UInt64.ofNat

/-- The ticks that a wait for `micros` microseconds lasts. -/
def span (hz : UInt64) (micros : Nat) : Nat := min (micros * hz.toNat) (2 ^ 64 - 1) / 10 ^ 6

/-- A wait lasts `span` ticks from the first reading on. -/
structure Lasts (wait : List UInt64 → Option UInt64) (span : Nat) : Prop where
  patient : ∀ first rest, (∀ now ∈ rest, first ≤ now ∧ now < first + span) →
    wait (readings (first :: rest)) = none
  punctual : ∀ first before now after, (∀ c ∈ before, first ≤ c ∧ c < first + span) →
    first + span ≤ now → now ≤ first + span + 2 ^ 63 →
      wait (readings (first :: before ++ now :: after)) = some (UInt64.ofNat now)

/-! ## Comparing with a deadline -/

theorem toInt64_pos_iff (x : UInt64) : 0 < x.toInt64 ↔ 0 < x.toNat ∧ x.toNat < 2 ^ 63 := by
  rw [Int64.lt_iff_toInt_lt, ← Int64.toInt_toBitVec, ← Int64.toInt_toBitVec,
    UInt64.toBitVec_toInt64, BitVec.toInt_eq_toNat_cond x.toBitVec, UInt64.toNat_toBitVec]
  have hzero : (0 : Int64).toBitVec.toInt = 0 := rfl
  have hword : x.toNat < 2 ^ 64 := x.toNat_lt
  rw [hzero]
  split <;> omega

theorem toNat_ofNat_sub {first span now : Nat} :
    (UInt64.ofNat first + UInt64.ofNat span - UInt64.ofNat now).toNat =
      (first + span + (2 ^ 64 - now % 2 ^ 64)) % 2 ^ 64 := by
  rw [UInt64.toNat_sub, UInt64.toNat_add, UInt64.toNat_ofNat', UInt64.toNat_ofNat',
    UInt64.toNat_ofNat']
  omega

theorem waiting_of_lt {first span now : Nat} (hspan : span < 2 ^ 63) (hle : first ≤ now)
    (hlt : now < first + span) :
    waiting (UInt64.ofNat first + UInt64.ofNat span) (UInt64.ofNat now) = true := by
  rw [waiting, decide_eq_true_eq, toInt64_pos_iff, toNat_ofNat_sub]
  omega

theorem not_waiting_of_le {first span now : Nat} (hle : first + span ≤ now)
    (hnow : now ≤ first + span + 2 ^ 63) :
    waiting (UInt64.ofNat first + UInt64.ofNat span) (UInt64.ofNat now) = false := by
  rw [waiting, decide_eq_false_iff_not, toInt64_pos_iff, toNat_ofNat_sub]
  omega

/-! ## Waits -/

theorem toNat_satMul (a b : UInt64) : (satMul a b).toNat = min (a.toNat * b.toNat) (2 ^ 64 - 1) := by
  have hmax : UInt64.size - 1 = 2 ^ 64 - 1 := rfl
  rw [satMul, UInt64.toNat_ofNat', hmax]
  exact Nat.mod_eq_of_lt (Nat.lt_of_le_of_lt (Nat.min_le_right _ _) (by decide))

theorem ticks_eq (hz micros : UInt64) : ticks hz micros = UInt64.ofNat (span hz micros.toNat) := by
  apply UInt64.toNat_inj.mp
  have hmillion : (1000000 : UInt64).toNat = 10 ^ 6 := rfl
  rw [ticks, UInt64.toNat_div, toNat_satMul, hmillion, UInt64.toNat_ofNat', span]
  symm
  apply Nat.mod_eq_of_lt
  omega

theorem span_lt (hz : UInt64) (micros : Nat) : span hz micros < 2 ^ 63 := by
  unfold span
  omega

theorem lasts_delayMicros (hz micros : UInt64) :
    Lasts (delayMicros hz micros) (span hz micros.toNat) := by
  have hspan := span_lt hz micros.toNat
  -- Each reading that is too early keeps the loop going.
  have hearly (first : Nat) (counts : List Nat)
      (hcounts : ∀ now ∈ counts, first ≤ now ∧ now < first + span hz micros.toNat) :
      (readings counts).find? (fun now => !waiting (UInt64.ofNat first + ticks hz micros) now) =
        none := by
    rw [List.find?_eq_none]
    intro x hx
    obtain ⟨now, hnow, rfl⟩ := List.mem_map.mp hx
    obtain ⟨hle, hlt⟩ := hcounts now hnow
    rw [ticks_eq, waiting_of_lt hspan hle hlt]
    exact Bool.false_ne_true
  constructor
  · intro first rest hrest
    exact hearly first rest hrest
  · intro first before now after hbefore hle hnow
    have hend : waiting (UInt64.ofNat first + ticks hz micros) (UInt64.ofNat now) = false := by
      rw [ticks_eq]
      exact not_waiting_of_le hle hnow
    change (readings (before ++ now :: after)).find? _ = _
    rw [readings, List.map_append, List.find?_append]
    rw [show List.find? _ (before.map UInt64.ofNat) = none from hearly first before hbefore]
    rw [Option.none_or, List.map_cons, List.find?_cons_of_pos]
    rw [hend]
    rfl

/-- Cutting off twice is cutting off once, as long as the counter moves at all. -/
theorem span_satMul (hz millis : UInt64) :
    span hz (satMul millis 1000).toNat = span hz (1000 * millis.toNat) := by
  have hthousand : (1000 : UInt64).toNat = 1000 := rfl
  rw [span, span, toNat_satMul, hthousand, Nat.mul_comm millis.toNat]
  rcases Nat.eq_zero_or_pos hz.toNat with hzero | hpos
  · rw [hzero, Nat.mul_zero, Nat.mul_zero]
  · congr 1
    rcases Nat.le_total (1000 * millis.toNat) (2 ^ 64 - 1) with hle | hge
    · rw [Nat.min_eq_left hle]
    · rw [Nat.min_eq_right hge, Nat.min_eq_right (Nat.le_mul_of_pos_right _ hpos),
        Nat.min_eq_right (hge.trans (Nat.le_mul_of_pos_right _ hpos))]

theorem lasts_delayMillis (hz millis : UInt64) :
    Lasts (delayMillis hz millis) (span hz (1000 * millis.toNat)) := by
  rw [← span_satMul]
  exact lasts_delayMicros hz (satMul millis 1000)

/-- All that is above the largest word counts for as much as that. -/
theorem span_eq (hz : UInt64) (micros : Nat) : span hz micros =
    if micros * hz.toNat < 2 ^ 64 then micros * hz.toNat / 10 ^ 6 else 18446744073709 := by
  unfold span
  split
  · rw [Nat.min_eq_left (by omega)]
  · rw [Nat.min_eq_right (by omega)]
    rfl

/-- What the waits do at one frequency. -/
structure Delays (hz : UInt64) : Prop where
  micros : ∀ micros, Lasts (delayMicros hz micros) (span hz micros.toNat)
  millis : ∀ millis, Lasts (delayMillis hz millis) (span hz (1000 * millis.toNat))
  micros32 : ∀ micros, Lasts (delayMicros32 hz micros) (span hz micros.toNat)
  millis32 : ∀ millis, Lasts (delayMillis32 hz millis) (span hz (1000 * millis.toNat))
  span : ∀ micros, span hz micros =
    if micros * hz.toNat < 2 ^ 64 then micros * hz.toNat / 10 ^ 6 else 18446744073709

/-- A wait lasts as long as it was asked to if its product of time and frequency fits in a word. All
longer waits last for one and the same number of ticks. -/
theorem delays (hz : UInt64) : Delays hz where
  micros := lasts_delayMicros hz
  millis := lasts_delayMillis hz
  micros32 micros := by
    rw [← UInt32.toNat_toUInt64]
    exact lasts_delayMicros hz micros.toUInt64
  millis32 millis := by
    rw [← UInt32.toNat_toUInt64]
    exact lasts_delayMillis hz millis.toUInt64
  span := span_eq hz

/-- Fifty days at 1 GHz are over after some five hours. -/
theorem not_lasts_fifty_days :
    let hz : UInt64 := 1000000000
    let millis : UInt32 := 4294967295
    delayMillis32 hz millis (readings [0, 18446744073709]) = some 18446744073709 ∧
      ¬Lasts (delayMillis32 hz millis) (1000 * millis.toNat * hz.toNat / 10 ^ 6) := by
  intro hz millis
  have hover : delayMillis32 hz millis (readings [0, 18446744073709]) = some 18446744073709 := by
    decide
  refine ⟨hover, fun h => ?_⟩
  have hwaits := h.patient 0 [18446744073709] (by decide)
  rw [hover] at hwaits
  cases hwaits

end Clock
end Dataplane
