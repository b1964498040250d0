import Dataplane.Proofs.Buffer.Contents
import Dataplane.Proofs.Pool.Layout

/-! # Where windows lie

The window of a live handle divides its slot into what is in front of it, what it shows, and what is
behind it, and the slot lies in memory that can be addressed. What is written through the window
stays in it. Each operation on the window is granted exactly when there is room, and then moves one
end of it by just as much as it was told to.
-/
namespace Dataplane
namespace Store

variable {s : Store} {live : Multiset Buffer} {aside : Multiset Place} {b : Buffer}

/-- A slot as one of its handles sees it: what is in front of the window, the window, and what is
behind. -/
structure Framed (s : Store) (b : Buffer) (front back : List UInt8) : Prop where
  bytes : (s.pool b.pool).bytes b.slot = front ++ s.data b ++ back
  front : front.length = b.window.headroom
  data : (s.data b).length = b.window.size
  back : back.length = s.tailroom b

theorem Ledger.tailroom (h : s.Ledger live aside) (hb : b ∈ live) :
    b.window.headroom + b.window.size + s.tailroom b = s.bufferLength b := by
  have hfits := h.fits b hb
  unfold Fits at hfits
  unfold Store.tailroom Window.tailroom
  omega

theorem Ledger.framed (h : s.Ledger live aside) (hb : b ∈ live) :
    ∃ front back, s.Framed b front back := by
  have hbytes := h.length_bytes hb
  have htailroom := h.tailroom hb
  refine ⟨((s.pool b.pool).bytes b.slot).take b.window.headroom,
    ((s.pool b.pool).bytes b.slot).drop (b.window.headroom + b.window.size), ?_, ?_,
    h.length_data hb, ?_⟩
  · rw [Store.data, List.append_assoc, ← List.drop_drop, List.take_append_drop,
      List.take_append_drop]
  · rw [List.length_take]
    omega
  · rw [List.length_drop]
    omega

theorem Framed.write {front back : List UInt8} {start : Nat} {new : List UInt8}
    (hframed : s.Framed b front back) (h : s.Ledger live aside) (hb : b ∈ live)
    (hin : start + new.length ≤ b.window.size) : (s.write b start new).Framed b front back := by
  have hslot : b.slot < (s.pool b.pool).capacity := h.isSlot_of_mem hb
  have hlength := hframed.data
  refine ⟨?_, hframed.front, ?_, ?_⟩
  · rw [pool_write, if_pos rfl, Pool.bytes_write, if_pos ⟨rfl, hslot⟩, hframed.bytes,
      h.data_write hb hin, ← hframed.front, overwrite_between (by omega)]
  · exact (h.write hb hin).length_data hb
  · rw [hframed.back, Store.tailroom, Store.tailroom, Store.bufferLength, Store.bufferLength,
      Pool.bufferLength, Pool.bufferLength, config_write]

/-- Where the data starts in the memory of the pool: within the part that belongs to its slot, all
of which can be addressed. -/
theorem Ledger.toNat_address (h : s.Ledger live aside) (hb : b ∈ live) :
    (s.address b).2.toNat =
      b.slot * (Pool.slotSize (s.pool b.pool).config).toNat + b.window.headroom ∧
    b.window.headroom + b.window.size ≤ (Pool.slotSize (s.pool b.pool).config).toNat :=
  (h.checked b.pool).toNat_windowAddress (h.isSlot_of_mem hb) (h.fits b hb)

/-! ## What holds of every live handle -/

/-- Where a handle is: its window, reckoned without bounds, lies in its slot, the slot in the
memory of a pool that passed its check, and what is written through the window stays there. -/
structure Seated (s : Store) (b : Buffer) : Prop where
  config : (s.pool b.pool).config.Valid
  slot : b.slot < (s.pool b.pool).capacity
  inside : b.window.headroom + b.window.size ≤
    (s.pool b.pool).config.headroom.toNat + (s.pool b.pool).config.dataRoom.toNat
  short : (s.pool b.pool).config.headroom.toNat + (s.pool b.pool).config.dataRoom.toNat ≤ 65535
  tailroom : b.window.headroom + b.window.size + s.tailroom b =
    (s.pool b.pool).config.headroom.toNat + (s.pool b.pool).config.dataRoom.toNat
  framed : ∃ front back, s.Framed b front back ∧ ∀ start new,
    start + new.length ≤ b.window.size → (s.write b start new).Framed b front back
  address : (s.address b).2.toNat =
    b.slot * (Pool.slotSize (s.pool b.pool).config).toNat + b.window.headroom
  addressable : b.window.headroom + b.window.size ≤ (Pool.slotSize (s.pool b.pool).config).toNat

/-- What the operations on the window of a handle do: each is granted exactly when there is room,
moves one end by what was asked for, and else says what was asked for and what there was. -/
structure Movable (s : Store) (b : Buffer) : Prop where
  granted_iff : ∀ (m : Shift) n, (∃ c, m.move s b n = .ok c) ↔ n ≤ m.roomOf s b
  granted : ∀ (m : Shift) n c, m.move s b n = .ok c →
    (UInt16.ofNat n).toNat = n ∧ c = { b with window := c.window } ∧ m.Moves b.window c.window n
  refused : ∀ (m : Shift) n, m.roomOf s b < n → m.move s b n = .error (.window n (m.roomOf s b))
  filled_iff : ∀ (m : Filling) bytes, (∃ r, m.apply s b bytes = .ok r) ↔
    s.isShared b = false ∧ bytes.length ≤ m.shift.roomOf s b
  shared : ∀ (m : Filling) bytes, s.isShared b = true → m.apply s b bytes = .error .shared
  filled : ∀ (m : Filling) bytes c t, m.apply s b bytes = .ok (c, t) →
    m.shift.move s b bytes.length = .ok c ∧ t = s.write c (m.start b.window) bytes ∧
      m.start b.window + bytes.length ≤ c.window.size
  unfilled : ∀ (m : Filling) bytes, s.isShared b = false → m.shift.roomOf s b < bytes.length →
    m.apply s b bytes = .error (.window bytes.length (m.shift.roomOf s b))

theorem Ledger.seated (h : s.Ledger live aside) (hb : b ∈ live) : s.Seated b := by
  obtain ⟨front, back, hframed⟩ := h.framed hb
  obtain ⟨haddress, haddressable⟩ := h.toNat_address hb
  exact ⟨(h.checked b.pool).config, h.isSlot_of_mem hb, h.fits b hb, h.short b.pool, h.tailroom hb,
    ⟨front, back, hframed, fun _ _ hin => hframed.write h hb hin⟩, haddress, haddressable⟩

theorem Ledger.movable (h : s.Ledger live aside) (hb : b ∈ live) : s.Movable b where
  granted_iff m _ := m.move_eq_ok_iff
  granted m _ _ hc := (h.granted hb m hc).2
  refused m _ hn := m.move_eq_error hn
  filled_iff m _ := m.apply_eq_ok_iff
  shared m _ hb := m.apply_eq_error_of_shared hb
  filled m bytes c t hc := by
    obtain ⟨-, hmove, ht⟩ := m.apply_eq_ok hc
    exact ⟨hmove, ht, h.start_add_le hb m hmove⟩
  unfilled m _ hb hroom := m.apply_eq_error hb hroom

end Store
end Dataplane
