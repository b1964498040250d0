import Dataplane.Text.Hex

/-! # Network addresses as text

IPv4 addresses are four decimal numbers. IPv6 addresses are groups of hexadecimal digits without
leading zeros; the first of the longest runs of at least two zero groups is left out.
-/
namespace Dataplane.Frame

def ipv4Text (address : List UInt8) : String :=
  ".".intercalate (address.map fun b => toString b.toNat)

def groups : List UInt8 → List Nat
  | a :: b :: rest => (a.toNat * 256 + b.toNat) :: groups rest
  | _ => []

def groupText (g : Nat) : String := String.ofList (Nat.toDigits 16 g)

def zeroRun (gs : List Nat) : Nat := (gs.takeWhile (· = 0)).length

/-- Where the first of the longest runs of zeros starts, and its length. -/
def longestZeros : List Nat → Nat × Nat
  | [] => (0, 0)
  | g :: gs =>
    let here := zeroRun (g :: gs)
    let (start, length) := longestZeros gs
    if length ≤ here then (0, here) else (start + 1, length)

def joinGroups (gs : List Nat) : String := ":".intercalate (gs.map groupText)

def ipv6Text (address : List UInt8) : String :=
  let gs := groups address
  if gs.take 6 = [0, 0, 0, 0, 0, 0xFFFF] then "::ffff:" ++ ipv4Text (address.drop 12)
  else
    let (start, length) := longestZeros gs
    if length < 2 then joinGroups gs
    else joinGroups (gs.take start) ++ "::" ++ joinGroups (gs.drop (start + length))

end Dataplane.Frame
