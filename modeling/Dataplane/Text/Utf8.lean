/-! # Lenient UTF-8

`decodeLossy` reads octets as UTF-8 and never fails: every longest run of octets that begins a
character but cannot be completed, and every octet that begins none, is read as one U+FFFD.
-/
namespace Dataplane.Text

def replacement : Char := '\uFFFD'

/-- How many octets follow the first one of a character, and the range of the first of these. -/
structure Lead where
  more : Nat
  low : Nat
  high : Nat
  bits : Nat

def lead? (b : Nat) : Option Lead :=
  if b < 0x80 then some ⟨0, 0, 0, b⟩
  else if b < 0xC2 then none
  else if b < 0xE0 then some ⟨1, 0x80, 0xBF, b - 0xC0⟩
  else if b = 0xE0 then some ⟨2, 0xA0, 0xBF, 0⟩
  else if b = 0xED then some ⟨2, 0x80, 0x9F, 0xD⟩
  else if b < 0xF0 then some ⟨2, 0x80, 0xBF, b - 0xE0⟩
  else if b = 0xF0 then some ⟨3, 0x90, 0xBF, 0⟩
  else if b < 0xF4 then some ⟨3, 0x80, 0xBF, b - 0xF0⟩
  else if b = 0xF4 then some ⟨3, 0x80, 0x8F, 4⟩
  else none

/-- Reads the octets that a character still lacks. The count says how many octets were read, and
the value is there when none was missing. -/
def continue? : (more low high bits : Nat) → List UInt8 → Nat × Option Nat
  | 0, _, _, bits, _ => (0, some bits)
  | _ + 1, _, _, _, [] => (0, none)
  | more + 1, low, high, bits, b :: rest =>
    if low ≤ b.toNat ∧ b.toNat ≤ high then
      let (n, value) := continue? more 0x80 0xBF (bits * 64 + (b.toNat - 0x80)) rest
      (n + 1, value)
    else (0, none)

/-- The first character of a non-empty text and the number of further octets it takes. -/
def decodeFirst (b : UInt8) (rest : List UInt8) : Char × Nat :=
  match lead? b.toNat with
  | none => (replacement, 0)
  | some l =>
    match continue? l.more l.low l.high l.bits rest with
    | (n, some value) => (Char.ofNat value, n)
    | (n, none) => (replacement, n)

def decodeChars : List UInt8 → List Char
  | [] => []
  | b :: rest =>
    let (c, n) := decodeFirst b rest
    c :: decodeChars (rest.drop n)
termination_by bytes => bytes.length
decreasing_by simp only [List.length_drop, List.length_cons]; omega

def decodeLossy (bytes : List UInt8) : String := String.ofList (decodeChars bytes)

end Dataplane.Text
