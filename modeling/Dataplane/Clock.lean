/-! # The cycle counter

Durations from counter readings, and busy waits. The counter is a 64-bit word that may wrap, so a
deadline is compared through the signed difference.
-/
namespace Dataplane

structure Duration where
  seconds : Nat
  nanos : Nat
  deriving DecidableEq, Repr

namespace Clock

def satMul (a b : UInt64) : UInt64 := UInt64.ofNat (min (a.toNat * b.toNat) (UInt64.size - 1))

/-- The duration of a number of cycles, in whole nanoseconds modulo 2^64. -/
def duration (hz cycles : UInt64) : Duration :=
  let nanos := cycles.toNat * 1000000000 / hz.toNat % UInt64.size
  ⟨nanos / 1000000000, nanos % 1000000000⟩

def ticks (hz micros : UInt64) : UInt64 := satMul micros hz / 1000000

def waiting (deadline now : UInt64) : Bool := 0 < (deadline - now).toInt64

/-- The reading at which a wait returns. The deadline is set from the first reading, and each later
one is compared with it. -/
def delayMicros (hz micros : UInt64) : (readings : List UInt64) → Option UInt64
  | [] => none
  | first :: rest =>
    let deadline := first + ticks hz micros
    rest.find? fun now => !waiting deadline now

def delayMillis (hz millis : UInt64) (readings : List UInt64) : Option UInt64 :=
  delayMicros hz (satMul millis 1000) readings

/-- The waits of the flat interface, which takes 32-bit arguments. -/
def delayMicros32 (hz : UInt64) (micros : UInt32) (readings : List UInt64) : Option UInt64 :=
  delayMicros hz micros.toUInt64 readings

def delayMillis32 (hz : UInt64) (millis : UInt32) (readings : List UInt64) : Option UInt64 :=
  delayMillis hz millis.toUInt64 readings

end Clock
end Dataplane
