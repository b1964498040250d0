import Mathlib.Algebra.Group.Nat.Defs
import Dataplane.Buffer.Basic

/-! # What a pool was checked for

The conditions on a configuration, each by itself, and what they come to for the memory of a pool:
its slots lie one behind another, can all be addressed, and have room for a whole buffer each.
-/
namespace Dataplane

/-- The conditions on a configuration, none of which is violated. -/
structure PoolConfig.Valid (c : PoolConfig) : Prop where
  buffers_pos : 0 < c.buffers
  buffers_le : c.buffers ≤ maxBuffers
  dataRoom_pos : 0 < c.dataRoom.toNat
  length_le : c.bufferLength ≤ maxBufferLength
  cache_le : c.cacheSize ≤ maxCacheSize
  cache_le_buffers : c.cacheSize ≤ c.buffers

theorem PoolConfig.validate_eq_ok_iff (c : PoolConfig) : c.validate = .ok () ↔ c.Valid := by
  have hroom : c.dataRoom = 0 ↔ c.dataRoom.toNat = 0 := UInt16.toNat_inj.symm
  simp only [validate, hroom]
  constructor
  · intro h
    split at h
    · cases h
    · split at h
      · cases h
      · split at h
        · cases h
        · split at h
          · cases h
          · constructor <;> omega
  · rintro ⟨hpos, hbuffers, hdata, hlength, hcache, hfew⟩
    rw [if_neg (by omega), if_neg (by omega), if_neg (by omega), if_neg (by omega)]

/-! ## Whole cache lines -/

/-- Clearing the last six bits of a word is moving it down and up again. -/
theorem and_not_sixtyThree (x : BitVec 64) : x &&& ~~~63#64 = (x >>> 6) <<< 6 := by
  apply BitVec.eq_of_getLsbD_eq
  intro i hi
  have hbit : (63#64).getLsbD i = decide (i < 6) := by
    rw [BitVec.getLsbD_ofNat]
    simpa [hi] using Nat.testBit_two_pow_sub_one 6 i
  rw [BitVec.getLsbD_and, BitVec.getLsbD_not, hbit, BitVec.getLsbD_shiftLeft,
    BitVec.getLsbD_ushiftRight]
  by_cases hlow : i < 6
  · simp [hlow]
  · rw [show 6 + (i - 6) = i by omega]
    simp [hlow, hi]

theorem toNat_roundup {size : UInt64} (h : size.toNat + 63 < UInt64.size) :
    (roundup size).toNat = (size.toNat + 63) / 64 * 64 := by
  have hadd : (size + cacheLine - 1).toNat = size.toNat + 63 := by
    rw [show size + cacheLine - 1 = size + 63 by unfold cacheLine; grind, UInt64.toNat_add]
    exact Nat.mod_eq_of_lt h
  have hbits : (roundup size).toBitVec = (size + cacheLine - 1).toBitVec &&& ~~~63#64 := rfl
  rw [← UInt64.toNat_toBitVec, hbits, and_not_sixtyThree, BitVec.toNat_shiftLeft,
    BitVec.toNat_ushiftRight, UInt64.toNat_toBitVec, hadd, Nat.shiftRight_eq_div_pow,
    Nat.shiftLeft_eq]
  unfold UInt64.size at h
  omega

namespace Pool

theorem toNat_slotSize {c : PoolConfig} (hc : c.Valid) :
    (slotSize c).toNat = (c.bufferLength + 63) / 64 * 64 := by
  have hlength : c.bufferLength ≤ 65535 := hc.length_le
  have hword : (UInt64.ofNat c.bufferLength).toNat = c.bufferLength := by
    rw [UInt64.toNat_ofNat']
    exact Nat.mod_eq_of_lt (by omega)
  rw [slotSize, toNat_roundup (by rw [hword]; unfold UInt64.size; omega), hword]

theorem bufferLength_le_slotSize {c : PoolConfig} (hc : c.Valid) :
    c.bufferLength ≤ (slotSize c).toNat := by
  rw [toNat_slotSize hc]
  omega

theorem extent_lt {c : PoolConfig} (hc : c.Valid) : (slotSize c).toNat * c.buffers < 2 ^ 48 := by
  have hlength : c.bufferLength ≤ 65535 := hc.length_le
  have hslot : (slotSize c).toNat ≤ 65536 := by
    rw [toNat_slotSize hc]
    omega
  -- 2^16 bytes for each of 2^32 slots
  calc (slotSize c).toNat * c.buffers ≤ 65536 * 4294967295 := Nat.mul_le_mul hslot hc.buffers_le
    _ < 2 ^ 48 := by decide

theorem addressable {c : PoolConfig} (hc : c.Valid) :
    (slotSize c).toNat * c.buffers < UInt64.size :=
  Nat.lt_trans (extent_lt hc) (by decide)

/-- A valid configuration always passes the check of its size, so nothing but memory can be missing.
All slots of the new pool are in its queue. -/
theorem create_of_valid (name : String) {c : PoolConfig} (hc : c.Valid) (hasMemory : Bool) :
    Pool.create name c hasMemory = if hasMemory then
      .ok ⟨name, c, Array.replicate c.buffers ⟨0, List.replicate c.bufferLength 0⟩,
        .ofList (List.range c.buffers)⟩
    else .error (.exhausted .pool) := by
  have hfits : ¬(slotSize c).toNat * c.buffers ≥ UInt64.size := Nat.not_le.mpr (addressable hc)
  rw [create, c.validate_eq_ok_iff.mpr hc]
  cases hasMemory <;> simp only [hfits, if_false, bind, Except.bind, pure, Except.pure] <;> rfl

theorem valid_of_create {name : String} {c : PoolConfig} {hasMemory : Bool} {p : Pool}
    (h : Pool.create name c hasMemory = .ok p) : c.Valid := by
  rw [← c.validate_eq_ok_iff]
  unfold Pool.create at h
  cases hv : c.validate with
  | error e => simp [hv, bind, Except.bind] at h
  | ok _ => rfl

theorem hasMemory_of_create {name : String} {c : PoolConfig} {hasMemory : Bool} {p : Pool}
    (h : Pool.create name c hasMemory = .ok p) : hasMemory = true := by
  rw [create_of_valid name (valid_of_create h)] at h
  cases hasMemory
  · cases h
  · rfl

/-- What a pool was checked for when it was made. -/
structure Checked (p : Pool) : Prop where
  config : p.config.Valid
  capacity : p.capacity ≤ p.config.buffers

theorem checked_default : (default : Pool).Checked :=
  ⟨(PoolConfig.validate_eq_ok_iff {}).mp rfl, Nat.zero_le _⟩

namespace Checked

variable {p q : Pool}

theorem congr (h : p.Checked) (hconfig : q.config = p.config) (hcapacity : q.capacity = p.capacity) :
    q.Checked := by
  obtain ⟨hvalid, hslots⟩ := h
  rw [← hconfig] at hvalid hslots
  exact ⟨hvalid, hcapacity ▸ hslots⟩

theorem create {name : String} {c : PoolConfig} {hasMemory : Bool}
    (h : Pool.create name c hasMemory = .ok p) : p.Checked ∧
    p = ⟨name, c, Array.replicate c.buffers ⟨0, List.replicate c.bufferLength 0⟩,
      .ofList (List.range c.buffers)⟩ := by
  have hc := valid_of_create h
  obtain rfl := hasMemory_of_create h
  rw [create_of_valid name hc] at h
  cases h
  exact ⟨⟨hc, Nat.le_of_eq (Array.size_replicate ..)⟩, rfl⟩

theorem toNat_slotAddress (h : p.Checked) {i : Nat} (hi : i < p.capacity) :
    (p.slotAddress i).toNat = i * (slotSize p.config).toNat ∧
      (p.slotAddress i).toNat + (slotSize p.config).toNat < UInt64.size := by
  have hbuffers : i + 1 ≤ p.config.buffers := Nat.le_trans hi h.capacity
  have hend := Nat.lt_of_le_of_lt (Nat.mul_le_mul_left (slotSize p.config).toNat hbuffers)
    (addressable h.config)
  rw [Nat.mul_succ, Nat.mul_comm] at hend
  have hfew : p.config.buffers ≤ 4294967295 := h.config.buffers_le
  have hindex : (UInt64.ofNat i).toNat = i := by
    rw [UInt64.toNat_ofNat']
    exact Nat.mod_eq_of_lt (by omega)
  have hstart : (p.slotAddress i).toNat = i * (slotSize p.config).toNat := by
    rw [slotAddress, UInt64.toNat_mul, hindex]
    exact Nat.mod_eq_of_lt (Nat.lt_of_le_of_lt (Nat.le_add_right _ _) hend)
  rw [hstart]
  exact ⟨rfl, hend⟩

end Checked
end Pool

theorem Store.create_isOk_iff (s : Store) (name : String) (c : PoolConfig) (hasMemory : Bool) :
    (∃ r, s.create name c hasMemory = .ok r) ↔ c.Valid ∧ hasMemory = true := by
  constructor
  · rintro ⟨r, hr⟩
    cases hp : Pool.create name c hasMemory with
    | error e => simp [Store.create, hp, bind, Except.bind] at hr
    | ok p => exact ⟨Pool.valid_of_create hp, Pool.hasMemory_of_create hp⟩
  · rintro ⟨hc, rfl⟩
    rw [Store.create, Pool.create_of_valid name hc]
    exact ⟨_, rfl⟩

end Dataplane
