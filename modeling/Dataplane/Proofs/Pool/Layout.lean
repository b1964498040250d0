import Mathlib.Algebra.Ring.Divisibility.Basic
import Mathlib.Algebra.Ring.Nat
import Mathlib.Data.Set.Lattice
import Mathlib.Order.CompletePartialOrder
import Mathlib.Order.Interval.Set.Defs
import Mathlib.Order.Nat
import Dataplane.Proofs.Pool.Checks

/-! # How the slots of a pool lie in its memory

The slots lie one behind another. Each takes the least number of whole cache lines that has room for
a buffer, so that it starts on a cache line if the memory does, and none of what is reckoned in
words wraps around. Windows that lie in buffers of different slots have no byte in common.
-/
namespace Dataplane
namespace Pool

/-- Where a window of slot `i` starts, counted from the start of the pool's memory. -/
def windowAddress (p : Pool) (i : Nat) (w : Window) : UInt64 :=
  p.slotAddress i + w.offset.toUInt64

/-- The places of a window's bytes in the pool's memory. -/
def span (p : Pool) (i : Nat) (w : Window) : Set Nat :=
  Set.Ico (p.windowAddress i w).toNat ((p.windowAddress i w).toNat + w.size)

def Holds (p : Pool) (w : Window) : Prop := w.headroom + w.size ≤ p.bufferLength

variable {c : PoolConfig} {p : Pool} {i j : Nat} {v w : Window}

/-- No smaller number of whole cache lines has room for a buffer. -/
theorem isLeast_slotSize (hc : c.Valid) :
    IsLeast {n | 64 ∣ n ∧ c.headroom.toNat + c.dataRoom.toNat ≤ n} (slotSize c).toNat := by
  rw [toNat_slotSize hc, PoolConfig.bufferLength]
  constructor
  · exact ⟨Dvd.intro_left _ rfl, by omega⟩
  · rintro n ⟨⟨lines, rfl⟩, hn⟩
    omega

namespace Checked

variable (h : p.Checked)
include h

/-- Rounding up reckons with a sum that fits in a word. -/
theorem toNat_add_cacheLine :
    (UInt64.ofNat p.bufferLength + cacheLine).toNat = p.bufferLength + 64 := by
  have hlength : p.bufferLength ≤ 65535 := h.config.length_le
  have hword : (UInt64.ofNat p.bufferLength).toNat = p.bufferLength := by
    rw [UInt64.toNat_ofNat']
    exact Nat.mod_eq_of_lt (by omega)
  have hline : cacheLine.toNat = 64 := rfl
  rw [UInt64.toNat_add, hword, hline]
  exact Nat.mod_eq_of_lt (by omega)

theorem extent_lt : (slotSize p.config).toNat * p.capacity < 2 ^ 48 :=
  Nat.lt_of_le_of_lt (Nat.mul_le_mul_left _ h.capacity) (Pool.extent_lt h.config)

theorem dvd_slotAddress (hi : i < p.capacity) : 64 ∣ (p.slotAddress i).toNat := by
  rw [(h.toNat_slotAddress hi).1]
  exact Dvd.dvd.mul_left (isLeast_slotSize h.config).1.1 i

theorem toNat_windowAddress (hi : i < p.capacity) (hw : p.Holds w) :
    (p.windowAddress i w).toNat = i * (slotSize p.config).toNat + w.headroom ∧
      w.headroom + w.size ≤ (slotSize p.config).toNat := by
  obtain ⟨hstart, hend⟩ := h.toNat_slotAddress hi
  have hlength := bufferLength_le_slotSize h.config
  have hoffset : w.offset.toUInt64.toNat = w.headroom := UInt16.toNat_toUInt64 _
  have hfits : w.headroom + w.size ≤ p.config.bufferLength := hw
  refine ⟨?_, by omega⟩
  rw [hstart] at hend
  rw [windowAddress, UInt64.toNat_add, hoffset, hstart]
  apply Nat.mod_eq_of_lt
  unfold UInt64.size at hend
  omega

theorem span_eq (hi : i < p.capacity) (hw : p.Holds w) :
    p.span i w = Set.Ico (i * (slotSize p.config).toNat + w.headroom)
      (i * (slotSize p.config).toNat + w.headroom + w.size) := by
  rw [span, (h.toNat_windowAddress hi hw).1]

theorem mem_span {x : Nat} (hi : i < p.capacity) (hw : p.Holds w) (hx : x ∈ p.span i w) :
    i * (slotSize p.config).toNat ≤ x ∧ x < (i + 1) * (slotSize p.config).toNat := by
  have hslot := (h.toNat_windowAddress hi hw).2
  rw [h.span_eq hi hw] at hx
  obtain ⟨hstart, hend⟩ := hx
  rw [Nat.succ_mul]
  omega

theorem span_subset (hi : i < p.capacity) (hw : p.Holds w) :
    p.span i w ⊆ Set.Ico 0 ((slotSize p.config).toNat * p.capacity) := by
  intro x hx
  have hend := (h.mem_span hi hw hx).2
  have hlast : (i + 1) * (slotSize p.config).toNat ≤ (slotSize p.config).toNat * p.capacity := by
    rw [Nat.mul_comm]
    exact Nat.mul_le_mul_left _ hi
  exact ⟨Nat.zero_le x, Nat.lt_of_lt_of_le hend hlast⟩

theorem eq_of_mem_span {x : Nat} (hi : i < p.capacity) (hj : j < p.capacity) (hv : p.Holds v)
    (hw : p.Holds w) (hxi : x ∈ p.span i v) (hxj : x ∈ p.span j w) : i = j := by
  have hdiv {k : Nat} (hk : k * (slotSize p.config).toNat ≤ x ∧
      x < (k + 1) * (slotSize p.config).toNat) : x / (slotSize p.config).toNat = k :=
    Nat.div_eq_of_lt_le hk.1 hk.2
  rw [← hdiv (h.mem_span hi hv hxi), hdiv (h.mem_span hj hw hxj)]

end Checked

/-! ## The whole layout -/

/-- How the slots of a pool lie in its memory, whatever place that has, and the windows in them. -/
structure LaidOut (p : Pool) : Prop where
  slot : IsLeast {n | 64 ∣ n ∧ p.config.headroom.toNat + p.config.dataRoom.toNat ≤ n}
    (slotSize p.config).toNat
  rounded : (UInt64.ofNat p.bufferLength + cacheLine).toNat = p.bufferLength + 64
  extent : (slotSize p.config).toNat * p.capacity < 2 ^ 48
  starts : ∀ i < p.capacity, (p.slotAddress i).toNat = i * (slotSize p.config).toNat
  aligned : ∀ base, 64 ∣ base → ∀ i < p.capacity, 64 ∣ base + (p.slotAddress i).toNat
  spans : ∀ i < p.capacity, ∀ w, p.Holds w → p.span i w =
    Set.Ico (i * (slotSize p.config).toNat + w.headroom)
      (i * (slotSize p.config).toNat + w.headroom + w.size)
  inside : ∀ i < p.capacity, ∀ w, p.Holds w →
    p.span i w ⊆ Set.Ico 0 ((slotSize p.config).toNat * p.capacity)
  disjoint : ∀ i < p.capacity, ∀ j < p.capacity, i ≠ j → ∀ v w, p.Holds v → p.Holds w →
    Disjoint (p.span i v) (p.span j w)

theorem Checked.laidOut (h : p.Checked) : p.LaidOut where
  slot := isLeast_slotSize h.config
  rounded := h.toNat_add_cacheLine
  extent := h.extent_lt
  starts _ hi := (h.toNat_slotAddress hi).1
  aligned _ hbase _ hi := Dvd.dvd.add hbase (h.dvd_slotAddress hi)
  spans _ hi _ hw := h.span_eq hi hw
  inside _ hi _ hw := h.span_subset hi hw
  disjoint _ hi _ hj hne _ _ hv hw :=
    Set.disjoint_left.mpr fun _ hxi hxj => hne (h.eq_of_mem_span hi hj hv hw hxi hxj)

/-- If there is the memory for it, a configuration that passes the check makes a pool of as many
slots, laid out in what can be addressed, so that no window ever reaches into another slot. If there
is not, that is what fails, and never the size. -/
theorem laid_out (name : String) {c : PoolConfig} (h : c.validate = .ok ()) :
    Pool.create name c false = .error (.exhausted .pool) ∧
      ∃ p, Pool.create name c true = .ok p ∧ p.config = c ∧ p.capacity = c.buffers ∧ p.LaidOut := by
  have hmade := create_of_valid name (c.validate_eq_ok_iff.mp h)
  have hp := hmade true
  exact ⟨hmade false, _, hp, rfl, Array.size_replicate .., (Checked.create hp).1.laidOut⟩

/-- The most slots, of the most bytes, for which there may well be no memory. -/
theorem laid_out_largest :
    let c : PoolConfig :=
      { buffers := 4294967295, cacheSize := 512, dataRoom := 65534, headroom := 1 }
    c.validate = .ok () ∧ (slotSize c).toNat = 65536 ∧
      Pool.create "pool" c false = .error (.exhausted .pool) ∧
      ∃ p, Pool.create "pool" c true = .ok p ∧ p.config = c ∧ p.capacity = c.buffers ∧
        p.LaidOut :=
  ⟨rfl, by decide, laid_out "pool" rfl⟩

end Pool
end Dataplane
