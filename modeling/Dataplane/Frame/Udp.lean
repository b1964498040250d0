import Dataplane.Frame.Checksum
import Dataplane.Frame.Mac

/-! # Generated frames

A UDP datagram in an IPv4 packet in an Ethernet frame. Its payload is zeros, its addresses and ports
are fixed, and only the two station addresses and the length of the payload vary.
-/
namespace Dataplane.Frame

/-- The datagram does not fit the length field of an IPv4 packet. -/
structure TooLong where
  length : Nat
  deriving DecidableEq, Repr

def maxDatagram : Nat := 65515

def TooLong.message (f : TooLong) : String :=
  s!"building frame: Error '{f.length}' is too big to be a 'IPv4 Header 'Payload Length' (sets "
    ++ s!"'Total Length')' (maximum allowed value is '{maxDatagram}')"

def sender : List UInt8 := [10, 0, 0, 1]

def receiver : List UInt8 := [10, 0, 0, 2]

/-- An IPv4 header without options around a datagram of `length` octets, with a given checksum. -/
def ipv4Header (length sum : Nat) : List UInt8 :=
  [0x45, 0] ++ octets16 (20 + length) ++ [0, 0, 0x40, 0, 64, 17] ++ octets16 sum
    ++ sender ++ receiver

def udpHeader (length sum : Nat) : List UInt8 :=
  octets16 4000 ++ octets16 4001 ++ octets16 length ++ octets16 sum

/-- What the checksum of a datagram covers before the datagram itself. -/
def pseudoHeader (length : Nat) : List UInt8 :=
  sender ++ receiver ++ [0, 17] ++ octets16 length

/-- A sum of zero is sent as all ones, because zero says that there is no checksum. -/
def udpSum (payload : List UInt8) : Nat :=
  let length := 8 + payload.length
  let sum := checksum (pseudoHeader length ++ udpHeader length 0 ++ payload)
  if sum = 0 then 65535 else sum

def etherHeader (src dst : Mac) (etherType : Nat) : List UInt8 :=
  dst.bytes ++ src.bytes ++ octets16 etherType

def udp (src dst : Mac) (payload : Nat) : Except TooLong (List UInt8) :=
  let length := 8 + payload
  if length > maxDatagram then .error ⟨length⟩
  else
    let zeros := List.replicate payload 0
    .ok (etherHeader src dst 0x0800 ++ ipv4Header length (checksum (ipv4Header length 0))
      ++ udpHeader length (udpSum zeros) ++ zeros)

end Dataplane.Frame
