import Dataplane.Buffer.Window

/-! # What moving a window does

Four operations move one end of a window. Each takes its bytes from some room, is granted exactly
when the room is large enough, and says what was asked for and what there was when it is refused. In
a slot of at most 65535 bytes a window that lies inside never wraps around: no sum, no difference
and no number cut down to sixteen bits is another than it was reckoned to be.
-/
namespace Dataplane
namespace Window

variable {w : Window} {n : Nat}

theorem toNat_ofNat_of_le (h : n ≤ 65535) : (UInt16.ofNat n).toNat = n := by
  rw [UInt16.toNat_ofNat']
  exact Nat.mod_eq_of_lt (by omega)

theorem toNat_add_of_le {a b : UInt16} (h : a.toNat + b.toNat ≤ 65535) :
    (a + b).toNat = a.toNat + b.toNat := by
  rw [UInt16.toNat_add]
  exact Nat.mod_eq_of_lt (by omega)

theorem toNat_sub_of_le {a b : UInt16} (h : b.toNat ≤ a.toNat) :
    (a - b).toNat = a.toNat - b.toNat :=
  UInt16.toNat_sub_of_le _ _ (UInt16.le_iff_toNat_le.mpr h)

theorem resetHeadroom_cases (w : Window) (headroom : UInt16) :
    w.resetHeadroom headroom = fresh headroom ∨ w.resetHeadroom headroom = w := by
  unfold resetHeadroom
  split
  · rename_i hempty
    left
    rw [fresh, ← hempty]
  · exact Or.inr rfl

end Window

/-- The operations that move one end of a window. -/
inductive Shift
  | prepend
  | append
  | adj
  | trim

namespace Shift

variable {w v : Window} {n capacity : Nat}

def apply (w : Window) (capacity n : Nat) : Shift → Except Fault Window
  | prepend => w.prepend n
  | append => w.append capacity n
  | adj => w.adj n
  | trim => w.trim n

def room (w : Window) (capacity : Nat) : Shift → Nat
  | prepend => w.headroom
  | append => w.tailroom capacity
  | adj => w.size
  | trim => w.size

/-- The window that is set, reckoned in sixteen bits. -/
def target (w : Window) (n : Nat) : Shift → Window
  | prepend => ⟨w.offset - UInt16.ofNat n, w.length + UInt16.ofNat n⟩
  | append => ⟨w.offset, w.length + UInt16.ofNat n⟩
  | adj => ⟨w.offset + UInt16.ofNat n, w.length - UInt16.ofNat n⟩
  | trim => ⟨w.offset, w.length - UInt16.ofNat n⟩

/-- From `w` to `v`, one end of the window was moved by `n` bytes, reckoned without bounds. -/
def Moves (w v : Window) (n : Nat) : Shift → Prop
  | prepend => v.headroom + n = w.headroom ∧ v.size = w.size + n
  | append => v.headroom = w.headroom ∧ v.size = w.size + n
  | adj => v.headroom = w.headroom + n ∧ v.size + n = w.size
  | trim => v.headroom = w.headroom ∧ v.size + n = w.size

theorem apply_eq (m : Shift) (w : Window) (capacity n : Nat) :
    m.apply w capacity n = Window.limited n (m.room w capacity) (m.target w n) := by
  cases m <;> rfl

/-- Sixteen bits are enough for what an operation reckons if there is room. -/
theorem moves_target (m : Shift) (hw : w.headroom + w.size ≤ capacity) (hc : capacity ≤ 65535)
    (hn : n ≤ m.room w capacity) :
    (UInt16.ofNat n).toNat = n ∧ m.Moves w (m.target w n) n := by
  have hle : n ≤ capacity := by
    cases m <;> simp only [room, Window.tailroom] at hn <;> omega
  have hnat := Window.toNat_ofNat_of_le (Nat.le_trans hle hc)
  refine ⟨hnat, ?_⟩
  unfold Window.headroom Window.size at hw
  -- What is taken off an end is there, and what is put to one still ends in the slot.
  have hgrown (h : w.length.toNat + n ≤ 65535) :
      (w.length + UInt16.ofNat n).toNat = w.length.toNat + n := by
    rw [Window.toNat_add_of_le (by omega), hnat]
  have hshrunk (h : n ≤ w.length.toNat) :
      (w.length - UInt16.ofNat n).toNat + n = w.length.toNat := by
    rw [Window.toNat_sub_of_le (by omega), hnat, Nat.sub_add_cancel h]
  cases m with
  | prepend =>
    have hroom : n ≤ w.offset.toNat := hn
    refine ⟨?_, hgrown (by omega)⟩
    change (w.offset - UInt16.ofNat n).toNat + n = w.offset.toNat
    rw [Window.toNat_sub_of_le (by omega), hnat, Nat.sub_add_cancel hroom]
  | append =>
    have hroom : n ≤ capacity - w.offset.toNat - w.length.toNat := hn
    exact ⟨rfl, hgrown (by omega)⟩
  | adj =>
    have hroom : n ≤ w.length.toNat := hn
    refine ⟨?_, hshrunk hroom⟩
    change (w.offset + UInt16.ofNat n).toNat = w.offset.toNat + n
    rw [Window.toNat_add_of_le (by omega), hnat]
  | trim => exact ⟨rfl, hshrunk hn⟩

theorem Moves.fits {m : Shift} (h : m.Moves w v n) (hw : w.headroom + w.size ≤ capacity)
    (hn : n ≤ m.room w capacity) : v.headroom + v.size ≤ capacity := by
  cases m <;> simp only [Moves, room, Window.tailroom] at h hn <;> omega

end Shift
end Dataplane
