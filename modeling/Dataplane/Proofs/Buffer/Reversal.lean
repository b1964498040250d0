import Dataplane.Proofs.Buffer.Contents

/-! # Moves there and back

Each operation on a window has one that takes it back. What was granted can be taken back, and the
handle is then the one that it was before. Two moves of the same kind are one move by the sum, with
the same outcome, and are granted when that one is. No move touches a byte, so that what a window
shows after a move is what it showed before, less what was cut off, or with what stood next to it in
the slot.
-/
namespace Dataplane
namespace Shift

variable {w v : Window} {capacity n i j : Nat}

def inverse : Shift → Shift
  | prepend => adj
  | append => trim
  | adj => prepend
  | trim => append

/-- The bytes `new` in a window that was moved are those of `old` as far as both show them. -/
def Shows (n : Nat) (old new : List UInt8) : Shift → Prop
  | prepend => new.drop n = old
  | append => new.take old.length = old
  | adj => new = old.drop n
  | trim => new = old.take (old.length - n)

theorem inverse_target (m : Shift) (w : Window) (n : Nat) :
    m.inverse.target (m.target w n) n = w := by
  cases m <;> simp [inverse, target]

theorem target_add (m : Shift) (w : Window) (i j : Nat) :
    m.target w (i + j) = m.target (m.target w i) j := by
  have hsub (a b c : UInt16) : a - (b + c) = a - b - c := by
    rw [UInt16.sub_eq_iff_eq_add, UInt16.add_comm b c, ← UInt16.add_assoc, UInt16.sub_add_cancel,
      UInt16.sub_add_cancel]
  cases m <;> simp only [target, UInt16.ofNat_add, hsub, UInt16.add_assoc]

/-- What was granted leaves so much less room for more of it. -/
theorem Moves.room_add {m : Shift} (h : m.Moves w v n) (hn : n ≤ m.room w capacity) :
    m.room v capacity + n = m.room w capacity := by
  cases m <;> simp only [Moves, room, Window.tailroom] at h hn ⊢ <;> omega

/-- What was granted has made room for its return. -/
theorem Moves.le_room_inverse {m : Shift} (h : m.Moves w v n)
    (hw : w.headroom + w.size ≤ capacity) : n ≤ m.inverse.room v capacity := by
  cases m <;> simp only [Moves, room, inverse, Window.tailroom] at h ⊢ <;> omega

variable {s : Store} {b c : Buffer}

theorem move_eq_ok (m : Shift) : m.move s b n = .ok c ↔
    n ≤ m.roomOf s b ∧ c = { b with window := m.target b.window n } := by
  rw [move_eq]
  constructor
  · intro h
    split at h
    · cases h
    · rename_i hn
      cases h
      exact ⟨Nat.le_of_not_lt hn, rfl⟩
  · rintro ⟨hn, rfl⟩
    exact if_neg (Nat.not_lt.mpr hn)

end Shift

namespace Store

variable {s : Store} {live : Multiset Buffer} {aside : Multiset Place} {b c d : Buffer}

/-- What an operation that was granted has taken it gives back. -/
theorem Ledger.move_inverse {n : Nat} (h : s.Ledger live aside) (hb : b ∈ live) (m : Shift)
    (hc : m.move s b n = .ok c) : m.inverse.move s c n = .ok b := by
  obtain ⟨-, -, -, hmoves⟩ := h.granted hb m hc
  obtain ⟨-, rfl⟩ := m.move_eq_ok.mp hc
  apply m.inverse.move_eq_ok.mpr
  constructor
  · exact hmoves.le_room_inverse (h.bounds hb).1
  · rw [m.inverse_target]

/-- Two operations of one kind are one by the sum. -/
theorem Ledger.move_add (h : s.Ledger live aside) (hb : b ∈ live) (m : Shift) (i j : Nat) :
    (∃ c, m.move s b i = .ok c ∧ m.move s c j = .ok d) ↔ m.move s b (i + j) = .ok d := by
  have hroom {c : Buffer} (hc : m.move s b i = .ok c) : m.roomOf s c + i = m.roomOf s b := by
    obtain ⟨hi, -, hsame, hmoves⟩ := h.granted hb m hc
    have hlength : s.bufferLength c = s.bufferLength b := by
      rw [hsame]
      rfl
    rw [Shift.roomOf, hlength]
    exact hmoves.room_add hi
  constructor
  · rintro ⟨c, hc, hd⟩
    have hleft := hroom hc
    obtain ⟨hi, rfl⟩ := m.move_eq_ok.mp hc
    obtain ⟨hj, rfl⟩ := m.move_eq_ok.mp hd
    apply m.move_eq_ok.mpr
    constructor
    · omega
    · rw [m.target_add]
  · intro hd
    obtain ⟨hij, rfl⟩ := m.move_eq_ok.mp hd
    obtain ⟨c, hc⟩ := m.move_eq_ok_iff.mpr ((Nat.le_add_right i j).trans hij)
    have hleft := hroom hc
    refine ⟨c, hc, m.move_eq_ok.mpr ⟨by omega, ?_⟩⟩
    obtain ⟨-, rfl⟩ := m.move_eq_ok.mp hc
    rw [m.target_add]

theorem Ledger.shows {n : Nat} (h : s.Ledger live aside) (hb : b ∈ live) (m : Shift)
    (hc : m.move s b n = .ok c) : m.Shows n (s.data b) (s.data c) := by
  have hlength := h.length_data hb
  obtain ⟨hn, -, hsame, hmoves⟩ := h.granted hb m hc
  rw [hsame]
  cases m with
  | prepend =>
    obtain ⟨hhead, hsize⟩ := hmoves
    simp only [Shift.Shows, Store.data, hsize]
    rw [List.drop_take, List.drop_drop, hhead, Nat.add_sub_cancel]
  | append =>
    obtain ⟨hhead, hsize⟩ := hmoves
    simp only [Shift.Shows, hlength]
    simp only [Store.data, hhead, hsize]
    rw [List.take_take, Nat.min_eq_left (Nat.le_add_right _ _)]
  | adj =>
    obtain ⟨hhead, hsize⟩ := hmoves
    simp only [Shift.Shows, Store.data, hhead]
    rw [List.drop_take, List.drop_drop, Nat.eq_sub_of_add_eq hsize]
  | trim =>
    obtain ⟨hhead, hsize⟩ := hmoves
    simp only [Shift.Shows, hlength]
    simp only [Store.data, hhead]
    rw [List.take_take, Nat.min_eq_left (Nat.sub_le _ _), Nat.eq_sub_of_add_eq hsize]

end Store
end Dataplane
