import Dataplane.Proofs.Buffer.Copies
import Dataplane.Proofs.Buffer.Reversal

/-! # Pointers for writing

A pointer for writing is asked for as the data is, or along with a move of the window. The move
needs room, and shows the bytes that it leaves in the window as they were.
-/
namespace Dataplane

/-- What may be done to the window along with asking for a pointer. -/
inductive Reach
  | data
  | prepend (n : Nat)
  | append (n : Nat)
  | adj (n : Nat)

namespace Reach

def move (s : Store) (b : Buffer) : Reach → Except Fault Buffer
  | data => .ok b
  | prepend n => b.prepend n
  | append n => b.append s n
  | adj n => b.adj n

def Fits (s : Store) (b : Buffer) : Reach → Prop
  | data => True
  | prepend n => n ≤ b.window.headroom
  | append n => n ≤ s.tailroom b
  | adj n => n ≤ b.window.size

def headroom (w : Window) : Reach → Nat
  | prepend n => w.headroom - n
  | adj n => w.headroom + n
  | _ => w.headroom

def size (w : Window) : Reach → Nat
  | data => w.size
  | prepend n => w.size + n
  | append n => w.size + n
  | adj n => w.size - n

/-- How far behind the start of the data the pointer is: it points to the first new byte at the
back, and else to the start. -/
def distance (w : Window) : Reach → Nat
  | append _ => w.size
  | _ => 0

/-- The place in the slot that is pointed to. -/
def target (w : Window) : Reach → Nat
  | data => w.headroom
  | prepend n => w.headroom - n
  | append _ => w.headroom + w.size
  | adj n => w.headroom + n

/-- The bytes `new` in the window are those of `old` as far as the move leaves them there. -/
def Shows (old new : List UInt8) : Reach → Prop
  | data => new = old
  | prepend n => new.drop n = old
  | append _ => new.take old.length = old
  | adj n => new = old.drop n

/-- What a move that fits has done to a handle. -/
structure Moved (r : Reach) (s : Store) (b c : Buffer) : Prop where
  pool : c.pool = b.pool
  slot : c.slot = b.slot
  headroom : c.window.headroom = r.headroom b.window
  size : c.window.size = r.size b.window
  shows : r.Shows (s.data b) (s.data c)

theorem Moved.pointer {r : Reach} {s : Store} {b c : Buffer} (h : r.Moved s b c) :
    c.window.headroom + r.distance b.window = r.target b.window := by
  rw [h.headroom]
  cases r <;> rfl

end Reach

namespace Store

variable {s t : Store} {live : Multiset Buffer} {aside : Multiset Place} {b c : Buffer}

section

variable (h : s.Ledger (b ::ₘ live) aside) {n : Nat}
include h

theorem Ledger.moved_prepend (hc : b.prepend n = .ok c) : (Reach.prepend n).Moved s b c := by
  have hmem := Multiset.mem_cons_self b live
  obtain ⟨-, -, hb, hhead, hsize⟩ := h.granted hmem .prepend hc
  exact ⟨by rw [hb], by rw [hb], Nat.eq_sub_of_add_eq hhead, hsize, h.shows hmem .prepend hc⟩

theorem Ledger.moved_append (hc : b.append s n = .ok c) : (Reach.append n).Moved s b c := by
  have hmem := Multiset.mem_cons_self b live
  obtain ⟨-, -, hb, hhead, hsize⟩ := h.granted hmem .append hc
  exact ⟨by rw [hb], by rw [hb], hhead, hsize, h.shows hmem .append hc⟩

theorem Ledger.moved_adj (hc : b.adj n = .ok c) : (Reach.adj n).Moved s b c := by
  have hmem := Multiset.mem_cons_self b live
  obtain ⟨-, -, hb, hhead, hsize⟩ := h.granted hmem .adj hc
  exact ⟨by rw [hb], by rw [hb], hhead, Nat.eq_sub_of_add_eq hsize, h.shows hmem .adj hc⟩

theorem Ledger.move_cases (r : Reach) :
    (r.Fits s b ∧ ∃ c, r.move s b = .ok c ∧ s.Ledger (c ::ₘ live) aside ∧ r.Moved s b c) ∨
    (¬r.Fits s b ∧ ∃ e, r.move s b = .error e) := by
  cases r with
  | data => exact .inl ⟨trivial, b, rfl, h, rfl, rfl, rfl, rfl, rfl⟩
  | prepend n =>
    by_cases hn : n ≤ Shift.prepend.roomOf s b
    · obtain ⟨c, hc⟩ := Shift.prepend.move_eq_ok_iff.mpr hn
      exact .inl ⟨hn, c, hc, h.shift .prepend hc, h.moved_prepend hc⟩
    · exact .inr ⟨hn, _, Shift.prepend.move_eq_error (Nat.lt_of_not_le hn)⟩
  | append n =>
    by_cases hn : n ≤ Shift.append.roomOf s b
    · obtain ⟨c, hc⟩ := Shift.append.move_eq_ok_iff.mpr hn
      exact .inl ⟨hn, c, hc, h.shift .append hc, h.moved_append hc⟩
    · exact .inr ⟨hn, _, Shift.append.move_eq_error (Nat.lt_of_not_le hn)⟩
  | adj n =>
    by_cases hn : n ≤ Shift.adj.roomOf s b
    · obtain ⟨c, hc⟩ := Shift.adj.move_eq_ok_iff.mpr hn
      exact .inl ⟨hn, c, hc, h.shift .adj hc, h.moved_adj hc⟩
    · exact .inr ⟨hn, _, Shift.adj.move_eq_error (Nat.lt_of_not_le hn)⟩

end

/-! ## Through a handle that may be shared -/

/-- From `s` to `t`, handle `b` was made private, and is `c` now. -/
inductive Secured (s : Store) (b : Buffer) : Store → Buffer → Prop
  | alone (hb : s.isShared b = false) : Secured s b s b
  | copied {t : Store} {c : Buffer} (hb : s.isShared b = true)
      (havailable : 0 < (s.pool b.pool).available) (hc : Copied s b t c) : Secured s b t c

namespace Secured

theorem eq_of_alone (h : Secured s b t c) (hb : s.isShared b = false) : t = s ∧ c = b := by
  cases h with
  | alone _ => exact ⟨rfl, rfl⟩
  | copied hshared _ _ =>
    rw [hb] at hshared
    cases hshared

theorem copied_of_shared (h : Secured s b t c) (hb : s.isShared b = true) :
    0 < (s.pool b.pool).available ∧ Copied s b t c := by
  cases h with
  | alone halone =>
    rw [hb] at halone
    cases halone
  | copied _ havailable hc => exact ⟨havailable, hc⟩

theorem window (h : Secured s b t c) : c.window = b.window := by
  cases h with
  | alone hb => rfl
  | copied hb havailable hc => exact hc.window

theorem data (h : Secured s b t c) : t.data c = s.data b := by
  cases h with
  | alone hb => rfl
  | copied hb havailable hc => exact hc.data

theorem pool (h : Secured s b t c) : c.pool = b.pool := by
  cases h with
  | alone hb => rfl
  | copied hb havailable hc => exact hc.pool

theorem bufferLength (h : Secured s b t c) : t.bufferLength c = s.bufferLength b := by
  cases h with
  | alone hb => rfl
  | copied hb havailable hc => exact hc.bufferLength

theorem fits_iff (h : Secured s b t c) (r : Reach) : r.Fits t c ↔ r.Fits s b := by
  cases r with
  | data => exact Iff.rfl
  | prepend n => rw [Reach.Fits, Reach.Fits, h.window]
  | append n => rw [Reach.Fits, Reach.Fits, Store.tailroom, Store.tailroom, h.window, h.bufferLength]
  | adj n => rw [Reach.Fits, Reach.Fits, h.window]

theorem holders (h : Secured s b t c) (hs : s.Ledger (b ::ₘ live) aside) : t.holders c = 1 := by
  cases h with
  | alone hb => exact hs.holders_of_not_shared hb
  | copied hb havailable hc => exact hc.alone

end Secured

/-- A shared handle with no slot for a copy stays as it is, and any other is made private. -/
theorem Ledger.secured_cases (h : s.Ledger (b ::ₘ live) aside) :
    (s.isShared b = true ∧ (s.pool b.pool).available = 0 ∧
      s.unshare b = .error (.exhausted .pool)) ∨
    ∃ t c, s.unshare b = .ok (c, t) ∧ Secured s b t c := by
  rcases h.unshare_cases with ⟨hb, heq⟩ | ⟨hb, hnone, heq⟩ | ⟨hb, havailable, c, t, heq, hc⟩
  · exact .inr ⟨s, b, heq, .alone hb⟩
  · exact .inl ⟨hb, hnone, heq⟩
  · exact .inr ⟨t, c, heq, .copied hb havailable hc⟩

end Store
end Dataplane
