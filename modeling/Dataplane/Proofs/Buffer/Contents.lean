import Dataplane.Proofs.Buffer.Sharing
import Dataplane.Proofs.Pool.Caching

/-! # What buffers hold

The bytes that a handle sees are as many as its window is long. A write inside the window changes
them there and nowhere else, and filling a window that was grown appends. Where no slot has two
handles, every handle may be written through, and allocation and release keep it so.
-/
namespace Dataplane

/-! ## Overwriting a part of a list -/

theorem drop_overwrite {old new : List UInt8} {start n : Nat} (hn : n ≤ old.length) :
    (overwrite old (n + start) new).drop n = overwrite (old.drop n) start new := by
  have hhead : n ≤ (old.take (n + start)).length := by
    rw [List.length_take]
    omega
  rw [overwrite, overwrite, List.append_assoc, List.drop_append_of_le_length hhead, List.drop_take,
    Nat.add_sub_cancel_left, List.drop_drop, ← List.append_assoc, Nat.add_assoc]

theorem take_overwrite {old new : List UInt8} {start n : Nat} (hn : start + new.length ≤ n)
    (hold : n ≤ old.length) :
    (overwrite old start new).take n = overwrite (old.take n) start new := by
  have hlength : (old.take start ++ new).length = start + new.length := by
    rw [List.length_append, List.length_take]
    omega
  rw [overwrite, overwrite, List.take_append, hlength, List.take_of_length_le (by omega),
    List.take_take, Nat.min_eq_left (by omega), List.drop_take]

theorem overwrite_end {old new : List UInt8} {start : Nat}
    (h : start + new.length = old.length) : overwrite old start new = old.take start ++ new := by
  rw [overwrite, h, List.drop_length, List.append_nil]

theorem overwrite_all {old new : List UInt8} (h : new.length = old.length) :
    overwrite old 0 new = new := by
  rw [overwrite_end (by omega), List.take_zero, List.nil_append]

theorem overwrite_between {front old back new : List UInt8} {start : Nat}
    (h : start + new.length ≤ old.length) :
    overwrite (front ++ old ++ back) (front.length + start) new =
      front ++ overwrite old start new ++ back := by
  have hstart : start ≤ old.length := by omega
  simp only [overwrite, List.append_assoc, Nat.add_assoc]
  rw [List.take_length_add_append, List.drop_length_add_append,
    List.take_append_of_le_length hstart, List.drop_append_of_le_length h]
  simp only [List.append_assoc]

namespace Store

variable {s t : Store} {live : Multiset Buffer} {aside : Multiset Place} {b c : Buffer}

/-! ## The bytes of a handle -/

theorem Ledger.length_bytes (h : s.Ledger live aside) (hb : b ∈ live) :
    ((s.pool b.pool).bytes b.slot).length = s.bufferLength b :=
  h.filled b.pool b.slot (h.isSlot_of_mem hb)

theorem Ledger.length_data (h : s.Ledger live aside) (hb : b ∈ live) :
    (s.data b).length = b.window.size := by
  have hfits := h.fits b hb
  have hbytes := h.length_bytes hb
  unfold Fits at hfits
  rw [Store.data, List.length_take, List.length_drop]
  omega

theorem Ledger.data_write {start : Nat} {new : List UInt8} (h : s.Ledger live aside) (hb : b ∈ live)
    (hin : start + new.length ≤ b.window.size) :
    (s.write b start new).data b = overwrite (s.data b) start new := by
  have hfits := h.fits b hb
  have hbytes := h.length_bytes hb
  have hslot : b.slot < (s.pool b.pool).capacity := h.isSlot_of_mem hb
  unfold Fits at hfits
  rw [Store.data, pool_write, if_pos rfl, Pool.bytes_write, if_pos ⟨rfl, hslot⟩,
    drop_overwrite (by omega), take_overwrite hin (by rw [List.length_drop]; omega)]
  rfl

theorem Ledger.data_write_all {new : List UInt8} (h : s.Ledger live aside) (hb : b ∈ live)
    (hnew : new.length = (s.data b).length) : (s.write b 0 new).data b = new := by
  rw [h.data_write hb (by rw [hnew, h.length_data hb, Nat.zero_add]), overwrite_all hnew]

theorem data_fresh (s : Store) {headroom : UInt16} (hb : b.window = .fresh headroom) :
    s.data b = [] := by
  rw [Store.data, hb]
  exact List.take_zero

theorem config_write (s : Store) (b : Buffer) (start : Nat) (new : List UInt8) (p : Nat) :
    ((s.write b start new).pool p).config = (s.pool p).config := by
  rw [pool_write]
  split <;> rfl

/-! ## Growing and filling -/

theorem Ledger.data_extend {bytes : List UInt8} (h : s.Ledger (b ::ₘ live) aside)
    (he : s.extend b bytes = .ok (c, t)) : t.data c = s.data b ++ bytes := by
  have hmem := Multiset.mem_cons_self b live
  obtain ⟨-, hmove, rfl⟩ := Filling.extend.apply_eq_ok he
  have hin := h.start_add_le hmem .extend hmove
  obtain ⟨-, -, hb, hheadroom, hsize⟩ := h.granted hmem .append hmove
  have hledger := h.shift .append hmove
  have hlength := hledger.length_data (Multiset.mem_cons_self c live)
  simp only [Filling.start] at hin ⊢
  rw [hledger.data_write (Multiset.mem_cons_self c live) hin, overwrite_end (by omega), Store.data,
    Store.data, hheadroom, List.take_take, hsize, Nat.min_eq_left (Nat.le_add_right _ _), hb]

/-- A handle that shares its slot with no other takes what fits behind its window. -/
theorem extend_ok {bytes : List UInt8} (hb : s.isShared b = false)
    (hroom : bytes.length ≤ s.tailroom b) : ∃ c t, s.extend b bytes = .ok (c, t) := by
  obtain ⟨⟨c, t⟩, hr⟩ := Filling.extend.apply_eq_ok_iff.mpr ⟨hb, hroom⟩
  exact ⟨c, t, hr⟩

theorem config_extend {bytes : List UInt8} (he : s.extend b bytes = .ok (c, t)) (p : Nat) :
    (t.pool p).config = (s.pool p).config := by
  obtain ⟨-, -, rfl⟩ := Filling.extend.apply_eq_ok he
  exact s.config_write _ _ _ p

/-! ## Stores in which nothing is shared -/

/-- No slot has two handles. -/
def Unshared (s : Store) : Prop := ∀ x, s.holdersAt x ≤ 1

namespace Unshared

theorem isShared (h : s.Unshared) (b : Buffer) : s.isShared b = false :=
  decide_eq_false (Nat.not_lt.mpr (h b.place))

theorem unshare (h : s.Unshared) (b : Buffer) : s.unshare b = .ok (b, s) :=
  if_neg (by simp [h.isShared b])

theorem of_ledger (h : s.Ledger 0 aside) : s.Unshared := fun x => by
  rw [h.holders_eq]
  exact Nat.zero_le 1

theorem of_holders (h : s.Unshared) (hle : ∀ x, t.holdersAt x ≤ s.holdersAt x) : t.Unshared :=
  fun x => (hle x).trans (h x)

theorem write (h : s.Unshared) (b : Buffer) (start : Nat) (new : List UInt8) :
    (s.write b start new).Unshared :=
  h.of_holders fun x => (holdersAt_write s x b start new).le

theorem extend {bytes : List UInt8} (h : s.Unshared) (he : s.extend b bytes = .ok (c, t)) :
    t.Unshared := by
  obtain ⟨-, -, rfl⟩ := Filling.extend.apply_eq_ok he
  exact h.write _ _ _

theorem drop (h : s.Unshared) (b : Buffer) : (s.drop b).Unshared := by
  apply h.of_holders
  intro x
  rw [drop_eq]
  split
  · rw [holdersAt_release, holdersAt_lower]
    exact Nat.sub_le _ _
  · rw [holdersAt_lower]
    exact Nat.sub_le _ _

theorem dropAll (h : s.Unshared) (bs : List Buffer) : (s.dropAll bs).Unshared := by
  induction bs generalizing s with
  | nil => exact h
  | cons b rest ih => exact ih (h.drop b)

/-- A buffer just taken is alone on its slot, and to all other slots nothing was done. -/
theorem cacheAlloc {k d : Cache} (h : s.Unshared) (hledger : s.Ledger live (k.places + aside))
    (ha : k.alloc s = .ok (b, d, t)) : t.Unshared := by
  obtain ⟨hafter, hgranted⟩ := hledger.cacheAlloc ha
  intro x
  rw [hafter.holders_eq, Multiset.map_cons, Multiset.count_cons]
  by_cases hx : x = b.place
  · subst hx
    have hnone : b.place ∉ live.map Buffer.place := by
      rintro hmem
      obtain ⟨e, he, hplace⟩ := Multiset.mem_map.mp hmem
      exact hgranted.unnamed b (List.mem_singleton_self b) e he hplace
    rw [Multiset.count_eq_zero_of_notMem hnone, if_pos rfl]
  · rw [if_neg hx, Nat.add_zero, ← hledger.holders_eq]
    exact h x

end Unshared
end Store
end Dataplane
