import Mathlib.Data.List.TakeWhile
import Dataplane.Proofs.Flat.Ledger

/-! # Counts in 16 bits

The number of handles of a slot and the number of open ports are returned in 16 bits. Nothing keeps
either below 2^16: the numbers returned are those that there are only up to multiples of 2^16. A
registry can be filled with exactly 2^16 ports, and then says that none is open.
-/
namespace Dataplane

namespace Flat

def sharers (f : Flat) (b : Buffer) : Nat := f.live.countP fun c => c.place = b.place

def openPorts (f : Flat) : List Port := f.fabric.devices.filter fun d => d.stage ≠ .closed

/-- What the counts say. -/
structure Counted (f : Flat) : Prop where
  holders : ∀ m b, f.buffers.get? m = some b →
    f.exec (.buffer (.holders m)) = (.unsigned (f.sharers b % 65536), f) ∧
      0 < f.sharers b ∧ (f.store.isShared b = true ↔ 1 < f.sharers b)
  ports : f.exec (.port .countOpen) = (.unsigned (f.openPorts.length % 65536), f) ∧
    f.openPorts.length ≤ 65536

variable {f : Flat}

theorem Orderly.holders_eq (h : f.Orderly) (b : Buffer) :
    f.store.holdersAt b.place = f.sharers b := by
  rw [h.ledger.holders_eq, Multiset.count_map, sharers, Multiset.countP_eq_card_filter]
  simp only [eq_comm]

theorem openCount_eq (f : Flat) : f.fabric.openCount = f.openPorts.length := by
  rw [Fabric.openCount, openPorts, Fabric.devices, ← List.countP_eq_length_filter, List.countP_map]
  rfl

theorem Orderly.counted (h : f.Orderly) : f.Counted where
  holders m b hb := by
    have hcount := h.holders_eq b
    have hpos : 0 < f.store.holdersAt b.place :=
      h.ledger.holdersAt_pos (by rw [live_eq hb]; exact Multiset.mem_cons_self _ _)
    refine ⟨?_, hcount ▸ hpos, by rw [Store.isShared_iff, hcount]⟩
    have hreply : (UInt16.ofNat (f.store.holders b)).toNat = f.sharers b % 65536 := by
      rw [← hcount, UInt16.toNat_ofNat']
      rfl
    simp only [Flat.exec, Flat.runBuffer, holders16, Flat.count16, hb, unsigned16, hreply]
  ports := by
    refine ⟨?_, ?_⟩
    · have hreply : (UInt16.ofNat f.fabric.openCount).toNat = f.openPorts.length % 65536 := by
        rw [openCount_eq, UInt16.toNat_ofNat']
      simp only [Flat.exec, Flat.runPort, hreply]
    · have hroom : f.fabric.portCount ≤ 65536 := h.enrolled.room
      rw [← Fabric.length_devices] at hroom
      exact (List.length_filter_le _ _).trans hroom

/-- In every state that a thread can bring about, the counts are right up to multiples of 2^16, and
only that of the ports is bounded, by 2^16 itself. -/
theorem counted_run (machine : Machine) {calls : List FlatCall} (hcalls : ∀ c ∈ calls, c.Proper) :
    (Flat.run { machine } calls).Counted :=
  (orderly_of_run machine hcalls).counted

/-- Two handles on one slot, and a third one on a slot of its own. -/
theorem counted_run_clone :
    let calls : List FlatCall :=
      [.buffer (.createPool "p" (some [112]) 4 0 64 0 true), .buffer (.alloc "p" "m"),
        .buffer (.clone "m" "c"), .buffer (.copy "m" "d")]
    let f := Flat.run {} calls
    (∀ c ∈ calls, c.Proper) ∧ f.Counted ∧
      (f.exec (.buffer (.holders "m"))).1 = .unsigned 2 ∧
      (f.exec (.buffer (.holders "d"))).1 = .unsigned 1 ∧
      (f.exec (.port .countOpen)).1 = .unsigned 0 := by
  intro calls f
  have hcalls : ∀ c ∈ calls, c.Proper := by simp [calls, FlatCall.Proper]
  exact ⟨hcalls, counted_run {} hcalls, rfl, rfl, rfl⟩

/-! ## All ports open -/

/-- The name of a port: four letters, and dashes to make most names differ in length already. -/
def portName (n : Nat) : List UInt8 :=
  [4096, 256, 16, 1].map (fun k => UInt8.ofNat (97 + n / k % 16)) ++ List.replicate (n % 12) 45

/-- The call that makes ports `n` and `n + 1`. What is drawn for their addresses does not matter. -/
def nextPair (n : Nat) : FlatPortCall :=
  .createPair (some (portName n)) (some (portName (n + 1))) false (.replicate 6 0) (.replicate 6 0)

def fillRegistry (pairs : Nat) : List FlatCall :=
  (List.range pairs).map fun k => .port (nextPair (2 * k))

theorem decodeChars_ascii {bytes : List UInt8} (h : ∀ b ∈ bytes, b.toNat < 128) :
    Text.decodeChars bytes = bytes.map fun b => Char.ofNat b.toNat := by
  induction bytes with
  | nil => rw [Text.decodeChars, List.map_nil]
  | cons b rest ih =>
    have hb : b.toNat < 128 := h b List.mem_cons_self
    have hfirst : Text.decodeFirst b rest = (Char.ofNat b.toNat, 0) := by
      have hlead : Text.lead? b.toNat = some ⟨0, 0, 0, b.toNat⟩ := if_pos hb
      simp only [Text.decodeFirst, hlead, Text.continue?]
    rw [Text.decodeChars, hfirst, List.map_cons]
    dsimp only
    rw [List.drop_zero, ih fun c hc => h c (List.mem_cons_of_mem b hc)]

theorem ascii_of_mem_portName {n : Nat} {b : UInt8} (hb : b ∈ portName n) :
    0 < b.toNat ∧ b.toNat < 128 := by
  rcases List.mem_append.mp hb with hb | hb
  · obtain ⟨k, -, rfl⟩ := List.mem_map.mp hb
    rw [UInt8.toNat_ofNat']
    omega
  · rw [List.eq_of_mem_replicate hb]
    decide

theorem nameText_portName (n : Nat) :
    nameText (portName n) = String.ofList ((portName n).map fun b => Char.ofNat b.toNat) := by
  have hall : (portName n).takeWhile (· ≠ 0) = portName n := by
    refine List.takeWhile_eq_self_iff.mpr fun b hb => ?_
    have hpos := (ascii_of_mem_portName hb).1
    have hne : b ≠ 0 := by
      rintro rfl
      exact absurd hpos (by decide)
    simpa using hne
  rw [nameText, hall, Text.decodeLossy, decodeChars_ascii fun b hb => (ascii_of_mem_portName hb).2]

theorem letter_inj {a b : Nat} (ha : a < 16) (hb : b < 16)
    (h : Char.ofNat (UInt8.ofNat (97 + a)).toNat = Char.ofNat (UInt8.ofNat (97 + b)).toNat) :
    a = b := by
  have hall : ∀ a b : Fin 16, Char.ofNat (UInt8.ofNat (97 + a)).toNat =
      Char.ofNat (UInt8.ofNat (97 + b)).toNat → a = b := by decide
  exact congrArg Fin.val (hall ⟨a, ha⟩ ⟨b, hb⟩ h)

theorem portName_inj {m n : Nat} (hm : m < 65536) (hn : n < 65536)
    (h : nameText (portName m) = nameText (portName n)) : m = n := by
  rw [nameText_portName, nameText_portName, String.ofList_inj] at h
  simp only [portName, List.map_append, List.map_cons, List.map_nil, List.cons_append,
    List.cons.injEq] at h
  obtain ⟨h3, h2, h1, h0, -⟩ := h
  have h3 := letter_inj (by omega) (by omega) h3
  have h2 := letter_inj (by omega) (by omega) h2
  have h1 := letter_inj (by omega) (by omega) h1
  have h0 := letter_inj (by omega) (by omega) h0
  omega

/-- The ports of a registry that is being filled. -/
structure Filled (n : Nat) (f : Flat) : Prop where
  enrolled : f.fabric.Enrolled
  count : f.fabric.portCount = n
  name : ∀ k < n, (f.fabric.device k).name = nameText (portName k)
  stage : ∀ k < n, (f.fabric.device k).stage = .unconfigured

theorem Filled.find? {n k : Nat} (h : f.Filled n) (hk : n ≤ k) (hlt : k < 65536) :
    f.fabric.find? (nameText (portName k)) = none := by
  refine Fabric.find?_eq_none_iff.mpr fun j hj hname => ?_
  rw [h.count] at hj
  rw [h.name j hj] at hname
  have heq := portName_inj (by omega) hlt hname
  omega

theorem Filled.step {n : Nat} (h : f.Filled n) (hn : n + 2 ≤ 65536) :
    Filled (n + 2) (f.exec (.port (nextPair n))).2 := by
  have hfirst := h.find? (Nat.le_refl n) (by omega)
  have hsecond := h.find? (k := n + 1) (by omega) (by omega)
  have hne : nameText (portName n) ≠ nameText (portName (n + 1)) := fun heq => by
    have := portName_inj (by omega) (by omega) heq
    omega
  have hroom : f.fabric.portCount + 2 ≤ maxPorts := by
    rw [h.count]
    exact hn
  have hmade := Fabric.createPair_eq_ok hfirst hsecond hne hroom (.drawn (.replicate 6 0))
    (.drawn (.replicate 6 0))
  have hstep : (f.exec (.port (nextPair n))).2.fabric =
      (f.fabric.addPort (nameText (portName n)) (f.fabric.ports.size + 1)
        (.drawn (.replicate 6 0))).addPort (nameText (portName (n + 1))) f.fabric.ports.size
          (.drawn (.replicate 6 0)) := by
    simp only [exec, runPort, nextPair, createPair, hmade]
    rfl
  have hdevice := Fabric.device_addPair h.enrolled.base_le (nameText (portName n))
    (nameText (portName (n + 1))) (.drawn (.replicate 6 0)) (.drawn (.replicate 6 0))
  rw [h.count] at hdevice
  refine ⟨?_, ?_, fun k hk => ?_, fun k hk => ?_⟩ <;> rw [hstep]
  · exact h.enrolled.addPair hfirst hsecond hne hroom _ _
  · rw [Fabric.portCount_addPair h.enrolled.base_le, h.count]
  · rw [hdevice]
    split
    · rename_i hlast
      rw [hlast]
    · split
      · rename_i hlast
        rw [hlast]
      · exact h.name k (by omega)
  · rw [hdevice]
    split
    · rfl
    · split
      · rfl
      · exact h.stage k (by omega)

theorem filled_run {pairs : Nat} (h : pairs ≤ 32768) :
    Filled (2 * pairs) (Flat.run {} (fillRegistry pairs)) := by
  induction pairs with
  | zero => exact ⟨.of_empty rfl, rfl, nofun, nofun⟩
  | succ n ih =>
    have hnext := (ih (by omega)).step (by omega)
    have hrun : Flat.run {} (fillRegistry (n + 1)) =
        ((Flat.run {} (fillRegistry n)).exec (.port (nextPair (2 * n)))).2 := by
      rw [fillRegistry, List.range_succ, List.map_append]
      exact List.foldl_append
    rw [hrun]
    exact hnext

/-- With all ports open, the number of open ports is said to be zero. -/
theorem not_counted_full :
    let f := Flat.run {} (fillRegistry 32768)
    (∀ c ∈ fillRegistry 32768, c.Proper) ∧ f.openPorts.length = 65536 ∧
      f.exec (.port .countOpen) = (.unsigned 0, f) := by
  intro f
  have hproper : ∀ c ∈ fillRegistry 32768, c.Proper := by
    intro c hc
    obtain ⟨k, -, rfl⟩ := List.mem_map.mp hc
    trivial
  have hfull : f.Filled 65536 := filled_run (Nat.le_refl _)
  have hopen : f.openPorts.length = 65536 := by
    have hall : f.openPorts = f.fabric.devices := by
      refine List.filter_eq_self.mpr fun d hd => ?_
      obtain ⟨k, hk, rfl⟩ := Fabric.mem_devices.mp hd
      rw [hfull.count] at hk
      simp [hfull.stage k hk]
    rw [hall, Fabric.length_devices, hfull.count]
  have hreply := (orderly_of_run {} hproper).counted.ports.1
  change f.exec (.port .countOpen) = (.unsigned (f.openPorts.length % 65536), f) at hreply
  rw [hopen] at hreply
  exact ⟨hproper, hopen, hreply⟩

end Flat
end Dataplane
