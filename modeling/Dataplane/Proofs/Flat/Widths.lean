import Dataplane.Proofs.Buffer.Placement
import Dataplane.Proofs.Flat.Bursts
import Dataplane.Proofs.Flat.Ledger

/-! # Results in fewer bits

The flat interface returns sizes of windows and lengths of bursts in 16 bits, and counts of slots in
32. In every state that a thread can bring about these are enough: windows lie in slots that passed
the check of their pool, no slot is in the queue twice, and no burst is longer than was asked for in
16 bits.
-/
namespace Dataplane
namespace Flat

/-- The results that keep their values in the bits they are returned in. -/
structure Exact (f : Flat) : Prop where
  size : ∀ m b, f.buffers.get? m = some b →
    (f.exec (.buffer (.size m))).1 = .unsigned b.window.size
  headroom : ∀ m b, f.buffers.get? m = some b →
    (f.exec (.buffer (.headroom m))).1 = .unsigned b.window.headroom
  tailroom : ∀ m b, f.buffers.get? m = some b →
    (f.exec (.buffer (.tailroom m))).1 = .unsigned (f.store.tailroom b) ∧
      b.window.headroom + b.window.size + f.store.tailroom b = f.store.bufferLength b
  available : ∀ p n, f.pools.get? p = some n →
    (f.exec (.buffer (.available p))).1 = .unsigned (f.store.pool n).available
  inUse : ∀ p n, f.pools.get? p = some n →
    (f.exec (.buffer (.inUse p))).1 = .unsigned (f.store.pool n).inUse
  /-- What is in use is what is not available, with nothing cut off at zero. -/
  capacity : ∀ p n, f.pools.get? p = some n →
    (f.store.pool n).available ≤ (f.store.pool n).capacity ∧
      (f.store.pool n).available + (f.store.pool n).inUse = (f.store.pool n).capacity
  received : ∀ h x array (count : UInt16), f.rxs.get? h = some x →
    let n := (f.fabric.rxBurst x count.toNat).1.length
    (f.exec (.queue (.receive h (some array) count))).1 = .received (UInt16.ofNat n) n ∧
      n ≤ count.toNat ∧ (UInt16.ofNat n).toNat = n
  sent : ∀ h x array (count : UInt16) (entries : List (String × Buffer)), f.txs.get? h = some x →
    array.take count.toNat = entries.map (fun e => some e.1) →
    (∀ e ∈ entries, f.buffers.get? e.1 = some e.2) →
    let n := (f.fabric.txBurst x (entries.map Prod.snd)).1
    (f.exec (.queue (.send h (some array) count))).1 = .sent (UInt16.ofNat n) ∧
      n ≤ count.toNat ∧ (UInt16.ofNat n).toNat = n

variable {f : Flat} {m p : String} {b : Buffer} {n : Nat}

/-! ## Windows -/

theorem exact_count16 (hb : f.buffers.get? m = some b) {g : Buffer → Nat} (hg : g b ≤ 65535) :
    (unsigned16 (f.count16 m g)).1 = .unsigned (g b) := by
  simp only [unsigned16, count16, hb, Window.toNat_ofNat_of_le hg]

/-! ## Pools -/

theorem Orderly.capacity_le (h : f.Orderly) (n : Nat) :
    (f.store.pool n).capacity ≤ 4294967295 :=
  ((h.ledger.checked n).capacity).trans (h.ledger.checked n).config.buffers_le

theorem Orderly.available_le (h : f.Orderly) (n : Nat) :
    (f.store.pool n).available ≤ (f.store.pool n).capacity :=
  h.ledger.room List.nodup_nil (by simp)

theorem exact_count32 (hp : f.pools.get? p = some n) {g : Pool → Nat}
    (hg : g (f.store.pool n) ≤ 4294967295) :
    (f.count32 p g).1 = .unsigned (g (f.store.pool n)) := by
  have hnat : (UInt32.ofNat (g (f.store.pool n))).toNat = g (f.store.pool n) := by
    rw [UInt32.toNat_ofNat']
    exact Nat.mod_eq_of_lt (by omega)
  simp only [count32, withPool, hp, hnat]

/-! ## Bursts -/

theorem send_reply {h : String} {x : TxQueue} {array : List (Option String)} {count : UInt16}
    {entries : List (String × Buffer)} (hx : f.txs.get? h = some x)
    (harray : array.take count.toNat = entries.map fun e => some e.1)
    (hheld : ∀ e ∈ entries, f.buffers.get? e.1 = some e.2) :
    (f.exec (.queue (.send h (some array) count))).1 =
      .sent (UInt16.ofNat (f.fabric.txBurst x (entries.map Prod.snd)).1) := by
  simp only [exec, runQueue, hx, send]
  split
  · rename_i hcount
    rw [hcount, UInt16.toNat_zero, List.take_zero] at harray
    obtain rfl := List.map_eq_nil_iff.mp harray.symm
    rw [List.map_nil, Fabric.txBurst_nil]
    rfl
  · rw [harray, f.entries?_of_held hheld]
    dsimp only
    rw [sendEntries_eq]

theorem receive_reply {h : String} {x : RxQueue} (hx : f.rxs.get? h = some x) (array : String)
    (count : UInt16) :
    let n := (f.fabric.rxBurst x count.toNat).1.length
    (f.exec (.queue (.receive h (some array) count))).1 = .received (UInt16.ofNat n) n := by
  simp only [exec, runQueue, hx, receive]

theorem Orderly.exact (h : f.Orderly) : f.Exact where
  size m b hb := by
    obtain ⟨hfits, hshort⟩ := (h.ledger_of_get hb).bounds (Multiset.mem_cons_self b _)
    exact exact_count16 hb (by omega)
  headroom m b hb := by
    obtain ⟨hfits, hshort⟩ := (h.ledger_of_get hb).bounds (Multiset.mem_cons_self b _)
    exact exact_count16 hb (by omega)
  tailroom m b hb := by
    obtain ⟨hfits, hshort⟩ := (h.ledger_of_get hb).bounds (Multiset.mem_cons_self b _)
    have hroom := (h.ledger_of_get hb).tailroom (Multiset.mem_cons_self b _)
    exact ⟨exact_count16 hb (by omega), hroom⟩
  available p n hp := exact_count32 hp ((h.available_le n).trans (h.capacity_le n))
  inUse p n hp := exact_count32 hp ((Nat.sub_le _ _).trans (h.capacity_le n))
  capacity p n hp := ⟨h.available_le n, Nat.add_sub_cancel' (h.available_le n)⟩
  received x y array count hy := by
    have hle := f.fabric.length_rxBurst_le y count.toNat
    exact ⟨receive_reply hy array count, hle, toNat_ofNat_of_le_count hle⟩
  sent x y array count entries hy harray hheld := by
    have hfew := congrArg List.length harray
    rw [List.length_take, List.length_map] at hfew
    have htaken := f.fabric.txBurst_le y (entries.map Prod.snd)
    rw [List.length_map] at htaken
    have hle := htaken.trans (hfew ▸ Nat.min_le_left _ _)
    exact ⟨send_reply hy harray hheld, hle, toNat_ofNat_of_le_count hle⟩

/-- In every state that a thread can bring about, narrow results are the numbers they stand for. -/
theorem exact_run (machine : Machine) {calls : List FlatCall} (hcalls : ∀ c ∈ calls, c.Proper) :
    (Flat.run { machine } calls).Exact :=
  (orderly_of_run machine hcalls).exact

/-- The largest slot there can be, the data window of which takes all of it. -/
theorem exact_run_largest :
    let calls : List FlatCall :=
      [.buffer (.createPool "p" (some [112]) 2 0 65407 0 true), .buffer (.alloc "p" "m"),
        .buffer (.append "m" 65407), .buffer (.prepend "m" 128)]
    let f := Flat.run {} calls
    (∀ c ∈ calls, c.Proper) ∧ f.Exact ∧
      (f.exec (.buffer (.size "m"))).1 = .unsigned 65535 ∧
      (f.exec (.buffer (.available "p"))).1 = .unsigned 1 ∧
      (f.exec (.buffer (.inUse "p"))).1 = .unsigned 1 := by
  intro calls f
  have hcalls : ∀ c ∈ calls, c.Proper := by simp [calls, FlatCall.Proper]
  exact ⟨hcalls, exact_run {} hcalls, rfl, rfl, rfl⟩

end Flat
end Dataplane
