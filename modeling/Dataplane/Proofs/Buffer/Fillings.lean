import Dataplane.Proofs.Buffer.Copies
import Dataplane.Proofs.Buffer.Placement
import Dataplane.Proofs.Buffer.Reversal

/-! # Growing and filling

A filling makes room at one end of the window and then writes into the room that it made. It looks
whether the handle may write before it moves the window, and once more before it writes. The second
look never stops it, so that no window is left behind that shows bytes which nobody wrote. What is
written stands next to what the window showed, whatever the slot held there before, and takes as
much of the slot as there are bytes.
-/
namespace Dataplane
namespace Filling

/-- What a window shows that showed `old` and was filled with `new`. -/
def joined (old new : List UInt8) : Filling → List UInt8
  | extend => old ++ new
  | prependBytes => new ++ old

def front (n : Nat) (old : List UInt8) : Filling → List UInt8
  | extend => old
  | prependBytes => old.take (old.length - n)

def back (n : Nat) (old : List UInt8) : Filling → List UInt8
  | extend => old.drop n
  | prependBytes => old

/-- A filling step by step: the outcome, and the handle and the store as they are when it ends. -/
def steps (s : Store) (b : Buffer) (bytes : List UInt8) (m : Filling) :
    Except Fault Unit × Buffer × Store :=
  match s.writable b with
  | .error e => (.error e, b, s)
  | .ok () =>
    match m.shift.move s b bytes.length with
    | .error e => (.error e, b, s)
    | .ok c =>
      match s.writable c with
      | .error e => (.error e, c, s)
      | .ok () => (.ok (), c, s.write c (m.start b.window) bytes)

variable {s t : Store} {b c : Buffer} {bytes : List UInt8}

/-- Nothing is left undone between the steps: they end as a whole, or where they began. -/
theorem steps_eq (m : Filling) (s : Store) (b : Buffer) (bytes : List UInt8) :
    m.steps s b bytes = match m.apply s b bytes with
      | .ok (c, t) => (.ok (), c, t)
      | .error e => (.error e, b, s) := by
  cases hb : s.isShared b with
  | true =>
    have hwritable : s.writable b = .error .shared := if_pos hb
    rw [steps, hwritable, m.apply_eq_error_of_shared hb]
  | false =>
    have hwritable : s.writable b = .ok () := if_neg (by simp [hb])
    rw [steps, hwritable, m.apply_eq, hb, if_neg Bool.false_ne_true]
    cases hc : m.shift.move s b bytes.length with
    | error e => rfl
    | ok c =>
      -- The moved handle names the slot that was looked at.
      have hagain : s.writable c = .ok () := by
        obtain ⟨-, rfl⟩ := m.shift.move_eq_ok.mp hc
        exact hwritable
      simp only [hagain]
      rfl

theorem apply_eq_shared_iff (m : Filling) :
    m.apply s b bytes = .error .shared ↔ s.isShared b = true := by
  constructor
  · intro he
    cases hb : s.isShared b with
    | true => rfl
    | false =>
      rw [m.apply_eq, hb, if_neg Bool.false_ne_true, m.shift.move_eq] at he
      split at he <;> cases he
  · exact m.apply_eq_error_of_shared

theorem apply_eq_cramped_iff (m : Filling) :
    m.apply s b bytes = .error (.window bytes.length (m.shift.roomOf s b)) ↔
      s.isShared b = false ∧ m.shift.roomOf s b < bytes.length := by
  constructor
  · intro he
    cases hb : s.isShared b with
    | true =>
      rw [m.apply_eq_error_of_shared hb] at he
      cases he
    | false =>
      refine ⟨rfl, Nat.lt_of_not_le fun hroom => ?_⟩
      obtain ⟨r, hr⟩ := m.apply_eq_ok_iff.mpr ⟨hb, hroom⟩
      rw [hr] at he
      cases he
  · rintro ⟨hb, hroom⟩
    exact m.apply_eq_error hb hroom

end Filling

namespace Store

variable {s t : Store} {live : Multiset Buffer} {aside : Multiset Place} {b c : Buffer}
  {bytes front back : List UInt8}

/-! ## The slot around a window -/

theorem Framed.front_eq (h : s.Framed b front back) :
    front = ((s.pool b.pool).bytes b.slot).take b.window.headroom := by
  rw [h.bytes, List.append_assoc, ← h.front, List.take_left]

theorem Framed.back_eq (h : s.Framed b front back) :
    back = ((s.pool b.pool).bytes b.slot).drop (b.window.headroom + b.window.size) := by
  rw [h.bytes, ← h.front, ← h.data, ← List.length_append, List.drop_left]

/-- The room that a filling makes comes off what is in front of the window or behind it. -/
theorem Ledger.framed_move {n : Nat} (h : s.Ledger (b ::ₘ live) aside) (m : Filling)
    (hc : m.shift.move s b n = .ok c) (hb : s.Framed b front back) :
    s.Framed c (m.front n front) (m.back n back) := by
  obtain ⟨-, -, hsame, hmoves⟩ := h.granted (Multiset.mem_cons_self b live) m.shift hc
  obtain ⟨front', back', hframed⟩ := (h.shift m.shift hc).framed (Multiset.mem_cons_self c live)
  have hslot : (s.pool c.pool).bytes c.slot = (s.pool b.pool).bytes b.slot := by rw [hsame]
  have hfront := hframed.front_eq
  have hback := hframed.back_eq
  rw [hslot] at hfront hback
  cases m with
  | extend =>
    obtain ⟨hhead, hsize⟩ := hmoves
    have hfront' : front' = front := by rw [hfront, hhead, ← hb.front_eq]
    have hback' : back' = back.drop n := by
      rw [hback, hhead, hsize, hb.back_eq, List.drop_drop, Nat.add_assoc]
    rw [Filling.front, Filling.back, ← hfront', ← hback']
    exact hframed
  | prependBytes =>
    obtain ⟨hhead, hsize⟩ := hmoves
    have hfront' : front' = front.take (front.length - n) := by
      rw [hb.front, ← hhead, Nat.add_sub_cancel, hb.front_eq, List.take_take,
        Nat.min_eq_left (by omega), hfront]
    have hback' : back' = back := by
      rw [hback, hsize, hb.back_eq]
      congr 1
      omega
    rw [Filling.front, Filling.back, ← hfront', ← hback']
    exact hframed

theorem Ledger.framed_fill (h : s.Ledger (b ::ₘ live) aside) (m : Filling)
    (hc : m.apply s b bytes = .ok (c, t)) (hb : s.Framed b front back) :
    t.Framed c (m.front bytes.length front) (m.back bytes.length back) := by
  obtain ⟨-, hmove, rfl⟩ := m.apply_eq_ok hc
  have hin := h.start_add_le (Multiset.mem_cons_self b live) m hmove
  exact (h.framed_move m hmove hb).write (h.shift m.shift hmove) (Multiset.mem_cons_self c live) hin

/-- What was shown is still shown, with the new bytes at the end that was moved. -/
theorem Ledger.data_fill (h : s.Ledger (b ::ₘ live) aside) (m : Filling)
    (hc : m.apply s b bytes = .ok (c, t)) : t.data c = m.joined (s.data b) bytes := by
  cases m with
  | extend => exact h.data_extend hc
  | prependBytes =>
    obtain ⟨-, hmove, rfl⟩ := Filling.prependBytes.apply_eq_ok hc
    have hmem := Multiset.mem_cons_self b live
    have hin := h.start_add_le hmem .prependBytes hmove
    have hold : (s.data c).drop bytes.length = s.data b := h.shows hmem .prepend hmove
    rw [(h.shift .prepend hmove).data_write (Multiset.mem_cons_self c live) hin]
    simp only [Filling.start, Filling.joined, overwrite]
    rw [List.take_zero, List.nil_append, Nat.zero_add, hold]

/-- Bytes are written into one slot only, and nothing is taken, queued or held by it. -/
theorem Ledger.apart_fill (h : s.Ledger (b ::ₘ live) aside) (m : Filling)
    (hc : m.apply s b bytes = .ok (c, t)) : c.place = b.place ∧
      (∀ x, x ≠ b.place → (t.pool x.1).bytes x.2 = (s.pool x.1).bytes x.2) ∧
      (∀ x, t.holdersAt x = s.holdersAt x) ∧ ∀ p, (t.pool p).free = (s.pool p).free := by
  obtain ⟨-, hmove, rfl⟩ := m.apply_eq_ok hc
  obtain ⟨-, -, hsame, -⟩ := h.granted (Multiset.mem_cons_self b live) m.shift hmove
  have hplace : c.place = b.place := by
    rw [hsame]
    rfl
  refine ⟨hplace, ?_, ?_, ?_⟩
  · intro x hx
    rw [← hplace] at hx
    exact bytes_write_of_ne hx
  · intro x
    exact s.holdersAt_write x c _ _
  · intro p
    rw [pool_write]
    split
    · exact Pool.free_write _ _ _ _
    · rfl

/-! ## What holds of every live handle -/

theorem Ledger.shared_iff (h : s.Ledger (b ::ₘ live) aside) :
    s.isShared b = true ↔ ∃ d ∈ live, d.place = b.place := by
  constructor
  · intro hb
    by_contra hnone
    push Not at hnone
    have halone := h.alone_of_unnamed hnone
    have hmany : 1 < s.holders b := isShared_iff.mp hb
    omega
  · rintro ⟨d, hd, hplace⟩
    cases hb : s.isShared b with
    | true => rfl
    | false => exact absurd hplace (h.unnamed_of_not_shared hb d hd)

/-- What filling through `b` does, beside `others`: it is refused while another handle names the
slot, or else while there is no room for all of the bytes. A refusal leaves the handle and the store
as they were, at whichever step it comes. What is granted adds the bytes to what the window showed,
in front or behind, and takes the room for them from that side. -/
structure Fills (s : Store) (others : Multiset Buffer) (b : Buffer) : Prop where
  shared_iff : ∀ (m : Filling) bytes, m.apply s b bytes = .error .shared ↔
    ∃ d ∈ others, d.place = b.place
  cramped_iff : ∀ (m : Filling) bytes,
    m.apply s b bytes = .error (.window bytes.length (m.shift.roomOf s b)) ↔
      (∀ d ∈ others, d.place ≠ b.place) ∧ m.shift.roomOf s b < bytes.length
  granted_iff : ∀ (m : Filling) bytes, (∃ r, m.apply s b bytes = .ok r) ↔
    (∀ d ∈ others, d.place ≠ b.place) ∧ bytes.length ≤ m.shift.roomOf s b
  stepwise : ∀ (m : Filling) bytes, m.steps s b bytes = match m.apply s b bytes with
    | .ok (c, t) => (.ok (), c, t)
    | .error e => (.error e, b, s)
  extended : ∀ bytes c t, s.extend b bytes = .ok (c, t) →
    t.data c = s.data b ++ bytes ∧ c.window.headroom = b.window.headroom ∧
      c.window.size = b.window.size + bytes.length ∧ t.tailroom c + bytes.length = s.tailroom b
  prepended : ∀ bytes c t, s.prependBytes b bytes = .ok (c, t) →
    t.data c = bytes ++ s.data b ∧ t.tailroom c = s.tailroom b ∧
      c.window.size = b.window.size + bytes.length ∧
      c.window.headroom + bytes.length = b.window.headroom
  framed : ∃ front back, s.Framed b front back ∧
    ∀ (m : Filling) bytes c t, m.apply s b bytes = .ok (c, t) →
      t.Framed c (m.front bytes.length front) (m.back bytes.length back)
  apart : ∀ (m : Filling) bytes c t, m.apply s b bytes = .ok (c, t) → c.place = b.place ∧
    (∀ x, x ≠ b.place → (t.pool x.1).bytes x.2 = (s.pool x.1).bytes x.2) ∧
    (∀ x, t.holdersAt x = s.holdersAt x) ∧ ∀ p, (t.pool p).free = (s.pool p).free

theorem Ledger.fills (h : s.Ledger (b ::ₘ live) aside) : s.Fills live b := by
  have hmem := Multiset.mem_cons_self b live
  have halone : s.isShared b = false ↔ ∀ d ∈ live, d.place ≠ b.place := by
    rw [← Bool.not_eq_true, h.shared_iff]
    push Not
    rfl
  obtain ⟨front, back, hframed⟩ := h.framed hmem
  refine
    { shared_iff := fun m bytes => m.apply_eq_shared_iff.trans h.shared_iff
      cramped_iff := fun m bytes => by rw [m.apply_eq_cramped_iff, halone]
      granted_iff := fun m bytes => by rw [m.apply_eq_ok_iff, halone]
      stepwise := fun m bytes => m.steps_eq s b bytes
      extended := fun bytes c t hc => ?_
      prepended := fun bytes c t hc => ?_
      framed := ⟨front, back, hframed, fun m bytes c t hc => h.framed_fill m hc hframed⟩
      apart := fun m bytes c t hc => h.apart_fill m hc }
  · obtain ⟨-, hmove, -⟩ := Filling.extend.apply_eq_ok hc
    obtain ⟨hroom, -, -, hhead, hsize⟩ := h.granted hmem .append hmove
    have hback := (h.framed_fill .extend hc hframed).back
    rw [Filling.back, List.length_drop, hframed.back] at hback
    have hle : bytes.length ≤ s.tailroom b := hroom
    exact ⟨h.data_fill .extend hc, hhead, hsize, by omega⟩
  · obtain ⟨-, hmove, -⟩ := Filling.prependBytes.apply_eq_ok hc
    obtain ⟨-, -, -, hhead, hsize⟩ := h.granted hmem .prepend hmove
    have hback := (h.framed_fill .prependBytes hc hframed).back
    exact ⟨h.data_fill .prependBytes hc, hback.symm.trans hframed.back, hsize, hhead⟩

end Store
end Dataplane
