import Dataplane.Buffer.Content
import Dataplane.Proofs.Buffer.Windows
import Dataplane.Proofs.Pool.Allocation

/-! # Operations on one of several handles

An operation goes through one handle while others may name the same slot. The handles that it makes
take the place of the one in the ledger, and what the other handles see stays the same: bytes are
written only where one handle names the slot, and a copy lives in a slot that nobody names.
-/
namespace Dataplane
namespace Store

variable {s t : Store} {live : Multiset Buffer} {aside : Multiset Place} {b c : Buffer}

def SameData (s t : Store) (live : Multiset Buffer) : Prop := ∀ c ∈ live, t.data c = s.data c

theorem SameMemory.sameData (h : SameMemory s t) (live : Multiset Buffer) : SameData s t live :=
  fun c _ => h.data c

theorem SameData.trans {u : Store} (h : SameData s t live) (k : SameData t u live) :
    SameData s u live :=
  fun c hc => (k c hc).trans (h c hc)

theorem bytes_write_of_ne {start : Nat} {new : List UInt8} {x : Place} (hx : x ≠ b.place) :
    ((s.write b start new).pool x.1).bytes x.2 = (s.pool x.1).bytes x.2 := by
  rw [pool_write]
  split
  · rename_i hpool
    have hslot : ¬(x.2 = b.slot ∧ x.2 < (s.pool x.1).capacity) := by
      intro hslot
      exact hx (Prod.ext hpool hslot.1)
    rw [Pool.bytes_write, if_neg hslot]
  · rfl

theorem data_write_of_ne {start : Nat} {new : List UInt8} (h : c.place ≠ b.place) :
    (s.write b start new).data c = s.data c := by
  have hbytes : ((s.write b start new).pool c.pool).bytes c.slot = (s.pool c.pool).bytes c.slot :=
    bytes_write_of_ne (x := c.place) h
  rw [Store.data, hbytes, Store.data]

theorem length_data_le (s : Store) (b : Buffer) : (s.data b).length ≤ b.window.size :=
  List.length_take_le _ _

theorem Ledger.holders_of_not_shared (h : s.Ledger (b ::ₘ live) aside)
    (hb : s.isShared b = false) : s.holders b = 1 := by
  have hpos : 0 < s.holders b := h.holdersAt_pos (Multiset.mem_cons_self b live)
  have hle : ¬s.holders b > 1 := by simpa [isShared] using hb
  omega

theorem Ledger.unnamed_of_not_shared (h : s.Ledger (b ::ₘ live) aside)
    (hb : s.isShared b = false) : ∀ c ∈ live, c.place ≠ b.place :=
  fun _ hc => h.unnamed_of_alone (h.holders_of_not_shared hb) hc

theorem writable_eq_ok (h : s.writable b = .ok ()) : s.isShared b = false := by
  unfold writable at h
  split at h
  · cases h
  · rename_i hb
    simpa using hb

theorem Ledger.write_alone {start : Nat} {new : List UInt8} (h : s.Ledger (b ::ₘ live) aside)
    (halone : ∀ c ∈ live, c.place ≠ b.place) (hin : start + new.length ≤ b.window.size) :
    (s.write b start new).Ledger (b ::ₘ live) aside ∧
      SameData s (s.write b start new) live :=
  ⟨h.write (Multiset.mem_cons_self b live) hin, fun c hc => data_write_of_ne (halone c hc)⟩

/-! ## Windows -/

theorem Ledger.bounds (h : s.Ledger live aside) (hb : b ∈ live) :
    b.window.headroom + b.window.size ≤ s.bufferLength b ∧ s.bufferLength b ≤ 65535 :=
  ⟨h.fits b hb, h.short b.pool⟩

end Store

namespace Shift

variable {s : Store} {b : Buffer} {n : Nat}

def move (s : Store) (b : Buffer) (n : Nat) (m : Shift) : Except Fault Buffer :=
  b.withWindow (m.apply b.window (s.bufferLength b) n)

def roomOf (s : Store) (b : Buffer) (m : Shift) : Nat := m.room b.window (s.bufferLength b)

theorem move_eq (m : Shift) (s : Store) (b : Buffer) (n : Nat) :
    m.move s b n = if n > m.roomOf s b then .error (.window n (m.roomOf s b))
      else .ok { b with window := m.target b.window n } := by
  rw [move, m.apply_eq, Window.limited]
  unfold roomOf
  split <;> rfl

theorem move_eq_ok_iff (m : Shift) : (∃ c, m.move s b n = .ok c) ↔ n ≤ m.roomOf s b := by
  rw [move_eq]
  constructor
  · rintro ⟨c, hc⟩
    by_contra hn
    rw [if_pos (Nat.lt_of_not_le hn)] at hc
    cases hc
  · intro hn
    exact ⟨_, if_neg (Nat.not_lt.mpr hn)⟩

theorem move_eq_error (m : Shift) (hn : m.roomOf s b < n) :
    m.move s b n = .error (.window n (m.roomOf s b)) :=
  (m.move_eq s b n).trans (if_pos hn)

end Shift

namespace Store

variable {s t : Store} {live : Multiset Buffer} {aside : Multiset Place} {b c : Buffer}

/-- What an operation that is granted does to the handle. -/
theorem Ledger.granted {n : Nat} (h : s.Ledger live aside) (hb : b ∈ live) (m : Shift)
    (hc : m.move s b n = .ok c) : n ≤ m.roomOf s b ∧ (UInt16.ofNat n).toNat = n ∧
      c = { b with window := c.window } ∧ m.Moves b.window c.window n := by
  have hn := m.move_eq_ok_iff.mp ⟨c, hc⟩
  obtain ⟨hfits, hshort⟩ := h.bounds hb
  obtain ⟨hnarrow, hmoves⟩ := m.moves_target hfits hshort hn
  rw [m.move_eq, if_neg (Nat.not_lt.mpr hn)] at hc
  cases hc
  exact ⟨hn, hnarrow, rfl, hmoves⟩

theorem Ledger.shift {n : Nat} (h : s.Ledger (b ::ₘ live) aside) (m : Shift)
    (hc : m.move s b n = .ok c) : s.Ledger (c ::ₘ live) aside := by
  have hmem := Multiset.mem_cons_self b live
  obtain ⟨hn, -, hb, hmoves⟩ := h.granted hmem m hc
  rw [hb]
  exact h.rewindow (hmoves.fits (h.fits b hmem) hn)

theorem fits_fresh (s : Store) (b : Buffer) :
    s.Fits { b with window := .fresh (s.pool b.pool).config.headroom } := by
  simp [Fits, Window.headroom, Window.size, Window.fresh, Store.bufferLength, Pool.bufferLength,
    PoolConfig.bufferLength]

theorem Ledger.reset (h : s.Ledger (b ::ₘ live) aside) :
    s.Ledger (b.reset s ::ₘ live) aside :=
  h.rewindow (s.fits_fresh b)

theorem Ledger.resetHeadroom (h : s.Ledger (b ::ₘ live) aside) :
    s.Ledger (b.resetHeadroom s ::ₘ live) aside := by
  rcases b.window.resetHeadroom_cases (s.pool b.pool).config.headroom with hw | hw
  · rw [Buffer.resetHeadroom, hw]
    exact h.rewindow (s.fits_fresh b)
  · rw [Buffer.resetHeadroom, hw]
    exact h

/-! ## Copies -/

theorem sameMemory_clone (s : Store) (b : Buffer) : SameMemory s (s.clone b).2 :=
  .update s b.pool (by simp [Pool.retain, Pool.setHolders, default]) (by simp [Pool.retain])
    (by simp [Pool.retain]) (by simp [Pool.retain])

theorem duplicate_eq_ok (h : s.duplicate b = .ok (c, t)) :
    ∃ d u, s.alloc b.pool = .ok (d, u) ∧ c = { d with window := b.window } ∧
      t = u.write c 0 (u.data b) := by
  unfold Store.duplicate at h
  cases ha : s.alloc b.pool with
  | error e => simp [ha, bind, Except.bind] at h
  | ok r =>
    obtain ⟨d, u⟩ := r
    simp only [ha, bind, Except.bind, pure, Except.pure, Except.ok.injEq, Prod.mk.injEq] at h
    obtain ⟨rfl, rfl⟩ := h
    exact ⟨d, u, rfl, rfl, rfl⟩

/-- A copy names a slot that nobody named. -/
theorem Ledger.duplicate (h : s.Ledger (b ::ₘ live) aside) (hd : s.duplicate b = .ok (c, t)) :
    t.Ledger (c ::ₘ b ::ₘ live) aside ∧ SameData s t (b ::ₘ live) ∧
      ∀ d ∈ b ::ₘ live, d.place ≠ c.place := by
  obtain ⟨d, u, ha, rfl, rfl⟩ := duplicate_eq_ok hd
  obtain ⟨hu, hgranted⟩ := h.alloc ha
  have hmem := sameMemory_alloc ha
  have hapart : ∀ e ∈ b ::ₘ live, e.place ≠ d.place := hgranted.unnamed d List.mem_cons_self
  have hfits : u.Fits { d with window := b.window } := by
    have hb := hu.fits b (by simp)
    unfold Fits Store.bufferLength at hb ⊢
    rwa [pool_of_alloc ha]
  have hin : 0 + (u.data b).length ≤ b.window.size := by
    rw [Nat.zero_add]
    exact u.length_data_le b
  obtain ⟨hledger, hdata⟩ := (hu.rewindow hfits).write_alone hapart hin
  exact ⟨hledger, (hmem.sameData _).trans hdata, hapart⟩

/-- What takes the place of a handle that is made private names its slot alone. -/
theorem Ledger.unshare (h : s.Ledger (b ::ₘ live) aside) (hu : s.unshare b = .ok (c, t)) :
    t.Ledger (c ::ₘ live) aside ∧ SameData s t live ∧ ∀ d ∈ live, d.place ≠ c.place := by
  unfold Store.unshare at hu
  cases hb : s.isShared b with
  | false =>
    simp only [hb, Bool.false_eq_true, if_false, Except.ok.injEq, Prod.mk.injEq] at hu
    obtain ⟨rfl, rfl⟩ := hu
    exact ⟨h, fun _ _ => rfl, h.unnamed_of_not_shared hb⟩
  | true =>
    cases hd : s.duplicate b with
    | error e => simp [hb, hd, bind, Except.bind] at hu
    | ok r =>
      obtain ⟨d, u⟩ := r
      simp only [hb, hd, if_true, bind, Except.bind, pure, Except.pure, Except.ok.injEq,
        Prod.mk.injEq] at hu
      obtain ⟨rfl, rfl⟩ := hu
      obtain ⟨hledger, hdata, hapart⟩ := h.duplicate hd
      rw [Multiset.cons_swap] at hledger
      refine ⟨hledger.drop, ?_, fun e he => hapart e (Multiset.mem_cons_of_mem he)⟩
      intro e he
      rw [(sameMemory_drop u b).data]
      exact hdata e (Multiset.mem_cons_of_mem he)

/-! ## Growing and filling -/

end Store

/-- The operations that fill what they add to a window. -/
inductive Filling
  | extend
  | prependBytes

namespace Filling

def apply (s : Store) (b : Buffer) (bytes : List UInt8) :
    Filling → Except Fault (Buffer × Store)
  | extend => s.extend b bytes
  | prependBytes => s.prependBytes b bytes

def shift : Filling → Shift
  | extend => .append
  | prependBytes => .prepend

/-- Where in the new window the bytes go. -/
def start (w : Window) : Filling → Nat
  | extend => w.size
  | prependBytes => 0

variable {s t : Store} {b c : Buffer} {bytes : List UInt8}

/-- A shared handle is refused. Through any other, the bytes follow the move of the window. -/
theorem apply_eq (m : Filling) (s : Store) (b : Buffer) (bytes : List UInt8) :
    m.apply s b bytes = if s.isShared b then .error .shared
      else (m.shift.move s b bytes.length).map fun c => (c, s.write c (m.start b.window) bytes) := by
  cases hb : s.isShared b with
  | true =>
    have hwritable : s.writable b = .error .shared := if_pos hb
    rw [if_pos rfl]
    cases m <;> simp only [apply, Store.extend, Store.prependBytes, hwritable] <;> rfl
  | false =>
    have hwritable : s.writable b = .ok () := if_neg (by simp [hb])
    rw [if_neg (by simp)]
    cases m with
    | extend =>
      have hmove : extend.shift.move s b bytes.length = b.append s bytes.length := rfl
      simp only [apply, Store.extend, hwritable, hmove, bind, Except.bind]
      cases b.append s bytes.length <;> rfl
    | prependBytes =>
      have hmove : prependBytes.shift.move s b bytes.length = b.prepend bytes.length := rfl
      simp only [apply, Store.prependBytes, hwritable, hmove, bind, Except.bind]
      cases b.prepend bytes.length <;> rfl

theorem apply_eq_ok_iff (m : Filling) : (∃ r, m.apply s b bytes = .ok r) ↔
    s.isShared b = false ∧ bytes.length ≤ m.shift.roomOf s b := by
  rw [← m.shift.move_eq_ok_iff, apply_eq]
  cases s.isShared b with
  | true => simp
  | false => cases m.shift.move s b bytes.length <;> simp [Except.map]

theorem apply_eq_ok (m : Filling) (h : m.apply s b bytes = .ok (c, t)) :
    s.isShared b = false ∧ m.shift.move s b bytes.length = .ok c ∧
      t = s.write c (m.start b.window) bytes := by
  obtain ⟨hb, -⟩ := m.apply_eq_ok_iff.mp ⟨_, h⟩
  rw [apply_eq, hb, if_neg Bool.false_ne_true] at h
  cases hc : m.shift.move s b bytes.length with
  | error e =>
    rw [hc] at h
    cases h
  | ok d =>
    rw [hc] at h
    cases h
    exact ⟨hb, rfl, rfl⟩

theorem apply_eq_error_of_shared (m : Filling) (hb : s.isShared b = true) :
    m.apply s b bytes = .error .shared :=
  (m.apply_eq s b bytes).trans (if_pos hb)

theorem apply_eq_error (m : Filling) (hb : s.isShared b = false)
    (hroom : m.shift.roomOf s b < bytes.length) :
    m.apply s b bytes = .error (.window bytes.length (m.shift.roomOf s b)) := by
  rw [apply_eq, hb, m.shift.move_eq_error hroom]
  rfl

end Filling

namespace Store

variable {s t : Store} {live : Multiset Buffer} {aside : Multiset Place} {b c : Buffer}

theorem Ledger.start_add_le {bytes : List UInt8} (h : s.Ledger live aside) (hb : b ∈ live)
    (m : Filling) (hc : m.shift.move s b bytes.length = .ok c) :
    m.start b.window + bytes.length ≤ c.window.size := by
  obtain ⟨-, -, -, hmoves⟩ := h.granted hb m.shift hc
  cases m with
  | extend => exact Nat.le_of_eq hmoves.2.symm
  | prependBytes =>
    rw [hmoves.2]
    exact Nat.add_le_add_right (Nat.zero_le _) _

theorem Ledger.fill {bytes : List UInt8} (h : s.Ledger (b ::ₘ live) aside) (m : Filling)
    (hc : m.apply s b bytes = .ok (c, t)) :
    t.Ledger (c ::ₘ live) aside ∧ SameData s t live := by
  have hmem := Multiset.mem_cons_self b live
  obtain ⟨halone, hmove, rfl⟩ := m.apply_eq_ok hc
  obtain ⟨-, -, hb, -⟩ := h.granted hmem m.shift hmove
  have hplace : c.place = b.place := by rw [hb]; rfl
  refine (h.shift m.shift hmove).write_alone ?_ (h.start_add_le hmem m hmove)
  rw [hplace]
  exact h.unnamed_of_not_shared halone

end Store
end Dataplane
