import Dataplane.Frame.Address
import Dataplane.Frame.Checksum

/-! # Headers of received frames

Reads the headers of a frame from the outside in: Ethernet, up to two VLAN tags, then IPv4, IPv6 or
ARP, the extension headers of the packet, and the header of an unfragmented datagram. A reader
returns `none` where a header is cut short or contradicts itself. The network addresses are the
only result that is kept.
-/
namespace Dataplane.Frame

inductive Network
  | ipv4 (source destination : List UInt8)
  | ipv6 (source destination : List UInt8)
  | arp
  | unknown
  deriving DecidableEq, Repr

/-- What follows a header: the number of the next protocol, the octets, and whether they are only a
fragment of a datagram. -/
structure Payload where
  protocol : Nat
  bytes : List UInt8
  fragmented : Bool
  deriving DecidableEq, Repr

def octet (bytes : List UInt8) (i : Nat) : Nat := (bytes.getD i 0).toNat

def word16 (bytes : List UInt8) (i : Nat) : Nat := octet bytes i * 256 + octet bytes (i + 1)

def slice (bytes : List UInt8) (start length : Nat) : List UInt8 := (bytes.drop start).take length

/-- The octets after a header of `length` octets, all of which must be there. -/
def after? (bytes : List UInt8) (length : Nat) : Option (List UInt8) :=
  if bytes.length < length then none else some (bytes.drop length)

def authLength? (bytes : List UInt8) : Option Nat :=
  if bytes.length < 12 ∨ octet bytes 1 = 0 then none else some ((octet bytes 1 + 2) * 4)

def optionsLength? (bytes : List UInt8) : Option Nat :=
  if bytes.length < 8 then none else some ((octet bytes 1 + 1) * 8)

def ipv4Payload? (bytes : List UInt8) : Option Payload := do
  let headed ← if bytes.length < 20 then none else some bytes
  let header := (octet headed 0 % 16) * 4
  let total := word16 headed 2
  if octet headed 0 / 16 ≠ 4 ∨ header < 20 ∨ headed.length < header ∨ total < header
      ∨ headed.length < total then none
  let fragmented := word16 headed 6 % 0x4000 ≠ 0
  let rest := slice headed header (total - header)
  if octet headed 9 = 51 then
    let length ← authLength? rest
    let inner ← after? rest length
    return ⟨octet rest 0, inner, fragmented⟩
  else return ⟨octet headed 9, rest, fragmented⟩

/-- The extension headers seen so far. An options header may stand once before the routing header
and once after it, every other one once. -/
structure Extensions where
  options : Bool := false
  routing : Bool := false
  finalOptions : Bool := false
  fragment : Bool := false
  auth : Bool := false
  fragmented : Bool := false

/-- The bits of the second word of a fragment header that tell a fragment from a whole datagram. Two
bits are left out and may be anything. -/
def fragmentMask : Nat := 0xFF9F

/-- Reads one extension header. `some none` is the end of the chain: a protocol that is none of
them, or a header that must not stand here again. -/
def extension? (seen : Extensions) (protocol : Nat) (bytes : List UInt8) :
    Option (Option (Extensions × Nat)) :=
  match protocol with
  | 0 => none
  | 60 =>
    if seen.routing then
      if seen.finalOptions then some none
      else (optionsLength? bytes).map fun n => some ({ seen with finalOptions := true }, n)
    else if seen.options then some none
    else (optionsLength? bytes).map fun n => some ({ seen with options := true }, n)
  | 43 =>
    if seen.routing then some none
    else (optionsLength? bytes).map fun n => some ({ seen with routing := true }, n)
  | 44 =>
    if seen.fragment then some none
    else if bytes.length < 8 then none
    else
      let split := word16 bytes 2 &&& fragmentMask ≠ 0
      some (some ({ seen with fragment := true, fragmented := split }, 8))
  | 51 =>
    if seen.auth then some none
    else (authLength? bytes).map fun n => some ({ seen with auth := true }, n)
  | _ => some none

/-- Follows the chain. At most five extension headers can be read, so `fuel` is never used up by a
caller that allows six steps. -/
def extensions? : (fuel : Nat) → Extensions → Nat → List UInt8 → Option Payload
  | 0, seen, protocol, bytes => some ⟨protocol, bytes, seen.fragmented⟩
  | fuel + 1, seen, protocol, bytes =>
    match extension? seen protocol bytes with
    | none => none
    | some none => some ⟨protocol, bytes, seen.fragmented⟩
    | some (some (seen, length)) =>
      match after? bytes length with
      | none => none
      | some rest => extensions? fuel seen (octet bytes 0) rest

def ipv6Payload? (bytes : List UInt8) : Option Payload := do
  let headed ← if bytes.length < 40 ∨ octet bytes 0 / 16 ≠ 6 then none else some bytes
  let length := word16 headed 4
  let body := headed.drop 40
  let rest ← if length = 0 then some body
    else if body.length < length then none else some (body.take length)
  let protocol := octet headed 6
  if protocol = 0 then
    let hop ← optionsLength? rest
    let inner ← after? rest hop
    extensions? 6 {} (octet rest 0) inner
  else extensions? 6 {} protocol rest

/-- Whether the header of the datagram is whole. Protocols other than the four are not looked at. -/
def transportWhole (p : Payload) : Bool :=
  let n := p.bytes.length
  if p.fragmented then true
  else match p.protocol with
    | 17 => 8 ≤ n
    | 6 =>
      let header := octet p.bytes 12 / 16 * 4
      20 ≤ n && 20 ≤ header && header ≤ n
    | 1 =>
      let timestamp := (octet p.bytes 0 = 13 || octet p.bytes 0 = 14) && octet p.bytes 1 = 0
      8 ≤ n && (!timestamp || n = 20)
    | 58 => 8 ≤ n
    | _ => true

def arpWhole (bytes : List UInt8) : Bool :=
  8 ≤ bytes.length && 8 + 2 * (octet bytes 4 + octet bytes 5) ≤ bytes.length

def network? (etherType : Nat) (bytes : List UInt8) : Option Network :=
  match etherType with
  | 0x0800 => do
    let p ← ipv4Payload? bytes
    if transportWhole p then return .ipv4 (slice bytes 12 4) (slice bytes 16 4) else none
  | 0x86DD => do
    let p ← ipv6Payload? bytes
    if transportWhole p then return .ipv6 (slice bytes 8 16) (slice bytes 24 16) else none
  | 0x0806 => if arpWhole bytes then some .arp else none
  | _ => some .unknown

def isTag (etherType : Nat) : Bool :=
  etherType = 0x8100 || etherType = 0x88A8 || etherType = 0x9100

/-- Skips up to `n` tags. -/
def untag? : (n : Nat) → Nat → List UInt8 → Option (Nat × List UInt8)
  | 0, etherType, bytes => some (etherType, bytes)
  | n + 1, etherType, bytes =>
    if isTag etherType then
      match after? bytes 4 with
      | none => none
      | some rest => untag? n (word16 bytes 2) rest
    else some (etherType, bytes)

def headers? (frame : List UInt8) : Option Network := do
  let body ← after? frame 14
  let (etherType, bytes) ← untag? 2 (word16 frame 12) body
  network? etherType bytes

/-- Why a frame has no addresses to print. -/
inductive NoAddresses
  | malformed
  | noNetwork
  deriving DecidableEq, Repr

def NoAddresses.message : NoAddresses → String
  | malformed => "Error: malformed frame"
  | noNetwork => "Error: IP header not found"

def addressLine (frame : List UInt8) : Except NoAddresses String :=
  match headers? frame with
  | none => .error .malformed
  | some (.ipv4 source destination) =>
    .ok s!"IP: {ipv4Text source} > {ipv4Text destination}"
  | some (.ipv6 source destination) =>
    .ok s!"IP: {ipv6Text source} > {ipv6Text destination}"
  | some _ => .error .noNetwork

end Dataplane.Frame
