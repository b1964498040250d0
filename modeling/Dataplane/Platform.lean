import Dataplane.Fault

/-! # The machine

Facts of the machine the library is built for: its version text, the length of a cache line, and
the optional processor features that change how locks behave.
-/
namespace Dataplane

def version : String := "burstio 0.1.0"

def cacheLine : UInt64 := 64

/-- The least multiple of a cache line that is at least `size`, as long as that fits in a word. -/
def roundup (size : UInt64) : UInt64 := (size + cacheLine - 1) &&& ~~~(cacheLine - 1)

/-- What the processor offers beyond the plain instruction set. -/
structure Capabilities where
  transactions : Bool := false
  deriving DecidableEq, Repr

namespace Capabilities

def none : Capabilities := {}

def requireTransactions (c : Capabilities) : Except Fault Unit :=
  if c.transactions then .ok () else .error (.unsupported "hardware lock elision (rtm)")

def debug (c : Capabilities) : String := s!"Capabilities \x7b rtm: {c.transactions} \x7d"

end Capabilities
end Dataplane
