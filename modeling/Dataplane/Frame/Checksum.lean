/-! # The Internet checksum

The ones' complement of the ones' complement sum of 16-bit words, the most significant octet first.
A last odd octet is the high half of a word whose low half is zero.
-/
namespace Dataplane.Frame

def words : List UInt8 → List Nat
  | [] => []
  | [a] => [a.toNat * 256]
  | a :: b :: rest => (a.toNat * 256 + b.toNat) :: words rest

/-- The sum with every carry out of 16 bits added back in. Only the empty sum is zero. -/
def endAround (n : Nat) : Nat := if n = 0 then 0 else (n - 1) % 65535 + 1

def checksum (bytes : List UInt8) : Nat :=
  65535 - endAround ((words bytes).foldr (· + ·) 0)

/-- The two octets of a 16-bit number, the most significant first. -/
def octets16 (n : Nat) : List UInt8 := [UInt8.ofNat (n / 256), UInt8.ofNat n]

def number16 (high low : UInt8) : Nat := high.toNat * 256 + low.toNat

end Dataplane.Frame
