/-! # Lowercase hexadecimal

Octets as pairs of lowercase hexadecimal digits, and the reader of such pairs.
-/
namespace Dataplane.Text

def hexDigit (n : Nat) : Char := Nat.digitChar (n % 16)

def hexOctet (b : UInt8) : List Char := [hexDigit (b.toNat / 16), hexDigit b.toNat]

def hex (bytes : List UInt8) : String := String.ofList (bytes.flatMap hexOctet)

def hexValue? (c : Char) : Option Nat :=
  if '0' ≤ c ∧ c ≤ '9' then some (c.toNat - '0'.toNat)
  else if 'a' ≤ c ∧ c ≤ 'f' then some (c.toNat - 'a'.toNat + 10)
  else none

def octets? : List Char → Option (List UInt8)
  | [] => some []
  | [_] => none
  | a :: b :: rest => do
    let high ← hexValue? a
    let low ← hexValue? b
    let tail ← octets? rest
    return UInt8.ofNat (high * 16 + low) :: tail

def unhex? (s : String) : Option (List UInt8) := octets? s.toList

end Dataplane.Text
