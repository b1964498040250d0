import Dataplane.Text.Hex

/-! # Station addresses

The six octets that name a station of an Ethernet. Two bits of the first octet say whether the
address names a group and whether it was assigned locally.
-/
namespace Dataplane

structure Mac where
  octets : Vector UInt8 6
  deriving DecidableEq, Repr

namespace Mac

def bytes (m : Mac) : List UInt8 := m.octets.toList

def ofBytes? (bytes : List UInt8) : Option Mac :=
  if h : bytes.toArray.size = 6 then some ⟨⟨bytes.toArray, h⟩⟩ else none

def isGroup (m : Mac) : Bool := m.octets[0] &&& 1 != 0

def isLocal (m : Mac) : Bool := m.octets[0] &&& 2 != 0

def text (m : Mac) : String :=
  ":".intercalate (m.bytes.map fun b => String.ofList (Text.hexOctet b))

/-- The address with its octets kept, except that it becomes locally assigned and names one
station. -/
def toLocalUnicast (m : Mac) : Mac :=
  ⟨m.octets.set 0 ((m.octets[0] ||| 2) &&& ~~~1)⟩

/-- The address of a new port, made of octets that its host draws at random. -/
def drawn (octets : Vector UInt8 6) : Mac := toLocalUnicast ⟨octets⟩

/-- The address that a forwarder writes into frames for a port. -/
def forwarding (port : Nat) : Mac := ⟨#v[2, 0, 0, 0, 0, UInt8.ofNat port]⟩

@[simp] theorem length_bytes (m : Mac) : m.bytes.length = 6 := by simp [bytes]

end Mac
end Dataplane
