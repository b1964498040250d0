import Dataplane.Fault

/-! # Data windows

A handle sees a window of its slot. Growing the window eats into the headroom before it or the
tailroom after it, and shrinking gives the room back; no byte moves. Each operation fails when it
is asked for more than there is, and then reports what there was.
-/
namespace Dataplane

structure Window where
  offset : UInt16
  length : UInt16
  deriving DecidableEq, Repr

namespace Window

def headroom (w : Window) : Nat := w.offset.toNat

def size (w : Window) : Nat := w.length.toNat

def tailroom (w : Window) (capacity : Nat) : Nat := capacity - w.headroom - w.size

def fresh (headroom : UInt16) : Window := ⟨headroom, 0⟩

def limited (n room : Nat) (w : Window) : Except Fault Window :=
  if n > room then .error (.window n room) else .ok w

def prepend (w : Window) (n : Nat) : Except Fault Window :=
  limited n w.headroom ⟨w.offset - UInt16.ofNat n, w.length + UInt16.ofNat n⟩

def append (w : Window) (capacity n : Nat) : Except Fault Window :=
  limited n (w.tailroom capacity) ⟨w.offset, w.length + UInt16.ofNat n⟩

def adj (w : Window) (n : Nat) : Except Fault Window :=
  limited n w.size ⟨w.offset + UInt16.ofNat n, w.length - UInt16.ofNat n⟩

def trim (w : Window) (n : Nat) : Except Fault Window :=
  limited n w.size ⟨w.offset, w.length - UInt16.ofNat n⟩

/-- Puts an empty window back to its first place. A window with data stays. -/
def resetHeadroom (w : Window) (headroom : UInt16) : Window :=
  if w.length = 0 then { w with offset := headroom } else w

end Window
end Dataplane
