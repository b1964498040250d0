import Dataplane.Proofs.Buffer.Contents
import Dataplane.Proofs.Port.Bursts
import Dataplane.Traffic.Forwarder
import Dataplane.Traffic.Generator

/-! # Frames in the hands of workers

Where no slot has two handles and a frame fits behind the headroom of its pool, no worker fails: a
generator loads copies of its frame until the burst is full or the pool is empty, and a forwarder
redirects all frames of a burst. What other handles see stays the same.
-/
namespace Dataplane

namespace Store

/-- From `s` to `t`, no pool was set up anew, still no slot has two handles, and the handles in
`live` see what they saw. -/
structure Spares (live : Multiset Buffer) (s t : Store) : Prop where
  config : ∀ p, (t.pool p).config = (s.pool p).config
  unshared : t.Unshared
  data : SameData s t live

variable {s t u : Store} {live : Multiset Buffer} {aside : Multiset Place} {b : Buffer}
  {c d : Cache}

theorem Spares.refl (live : Multiset Buffer) (h : s.Unshared) : Spares live s s :=
  ⟨fun _ => rfl, h, fun _ _ => rfl⟩

theorem Spares.trans (h : Spares live s t) (k : Spares live t u) : Spares live s u :=
  ⟨fun p => (k.config p).trans (h.config p), k.unshared, h.data.trans k.data⟩

theorem Spares.of_cons (h : Spares (b ::ₘ live) s t) : Spares live s t :=
  ⟨h.config, h.unshared, fun e he => h.data e (Multiset.mem_cons_of_mem he)⟩

theorem Spares.of_sameMemory (h : SameMemory s t) (ht : t.Unshared) (live : Multiset Buffer) :
    Spares live s t :=
  ⟨h.config, ht, h.sameData live⟩

theorem tailroom_fresh (hb : b.window = .fresh (s.pool b.pool).config.headroom) :
    s.tailroom b = (s.pool b.pool).config.dataRoom.toNat := by
  rw [Store.tailroom, hb]
  simp [Window.tailroom, Window.headroom, Window.size, Window.fresh, Store.bufferLength,
    Pool.bufferLength, PoolConfig.bufferLength]

theorem Ledger.load {frame : List UInt8} (h : s.Ledger live (c.places + aside)) (hs : s.Unshared)
    (ha : c.alloc s = .ok (b, d, t))
    (hroom : frame.length ≤ (s.pool c.pool).config.dataRoom.toNat) :
    ∃ e u, t.extend b frame = .ok (e, u) ∧ u.Ledger (e ::ₘ live) (d.places + aside) ∧
      Spares live s u ∧ u.data e = frame := by
  obtain ⟨hledger, hgranted⟩ := h.cacheAlloc ha
  have hmem := sameMemory_cacheAlloc ha
  have ht : t.Unshared := hs.cacheAlloc h ha
  have hwindow := hgranted.window b (List.mem_singleton_self b)
  obtain ⟨e, u, he⟩ : ∃ e u, t.extend b frame = .ok (e, u) := by
    apply extend_ok (ht.isShared b)
    rwa [tailroom_fresh hwindow, hmem.config, (pool_of_cacheAlloc ha).1]
  obtain ⟨hafter, hdata⟩ := hledger.fill .extend he
  refine ⟨e, u, he, hafter, ⟨fun p => ?_, ht.extend he, (hmem.sameData live).trans hdata⟩, ?_⟩
  · rw [config_extend he, hmem.config]
  · rw [hledger.data_extend he, data_fresh t hwindow, List.nil_append]

end Store

/-! ## Generators -/

namespace Generator

open Store

variable {frame : List UInt8} {live : Multiset Buffer} {aside : Multiset Place}

/-- A generator goes on with what it had and more copies of its frame. -/
theorem fill_ok (n : Nat) {g : Generator} {f : Fabric}
    (h : f.store.Ledger live (g.cache.places + aside)) (hs : f.store.Unshared)
    (hroom : frame.length ≤ (f.store.pool g.cache.pool).config.dataRoom.toNat) :
    ∃ new cache store,
      fill frame n g f = (.ok (), { g with cache, burst := g.burst ++ new }, { f with store }) ∧
      cache.pool = g.cache.pool ∧ store.Ledger (↑new + live) (cache.places + aside) ∧
      Spares live f.store store ∧ ∀ b ∈ new, store.data b = frame := by
  induction n generalizing g f live with
  | zero =>
    refine ⟨[], g.cache, f.store, ?_, rfl, ?_, .refl live hs, by simp⟩
    · rw [List.append_nil]
      rfl
    · rwa [Multiset.coe_nil, Multiset.zero_add]
  | succ n ih =>
    rw [fill]
    cases ha : g.cache.alloc f.store with
    | error e =>
      refine ⟨[], g.cache, f.store, ?_, rfl, ?_, .refl live hs, by simp⟩
      · rw [List.append_nil]
      · rwa [Multiset.coe_nil, Multiset.zero_add]
    | ok r =>
      obtain ⟨b, d, t⟩ := r
      obtain ⟨e, u, he, hu, hspares, hframe⟩ := h.load hs ha hroom
      have hpool := (pool_of_cacheAlloc ha).2
      obtain ⟨new, cache, store, hfill, hcache, hledger, hrest, hnew⟩ :=
        ih (g := { g with cache := d, burst := g.burst ++ [e] }) (f := { f with store := u })
          hu hspares.unshared (by rw [hpool, hspares.config]; exact hroom)
      refine ⟨e :: new, cache, store, ?_, hcache.trans hpool, ?_, hspares.trans hrest.of_cons, ?_⟩
      · simp only [he, hfill, List.append_assoc, List.singleton_append]
      · rw [Multiset.add_cons] at hledger
        rwa [← Multiset.cons_coe, Multiset.cons_add]
      · intro b' hb'
        rcases List.mem_cons.mp hb' with rfl | hb'
        · rw [hrest.data b' (Multiset.mem_cons_self _ _), hframe]
        · exact hnew b' hb'

end Generator

/-! ## Forwarders -/

theorem addressed_bytes (m : Mac) : addressed m m.bytes = true := by
  unfold addressed
  split
  · rename_i rest hbytes
    have hlength := m.length_bytes
    rw [hbytes] at hlength
    obtain rfl : rest = [] := List.length_eq_zero_iff.mp (by simpa using hlength)
    simp [hbytes]
  · rfl

namespace Redirection

open Store

variable {s : Store} {live : Multiset Buffer} {aside : Multiset Place}

theorem apply_eq (r : Redirection) {frame : List UInt8} (h : 12 ≤ frame.length) :
    r.apply frame = r.destination.bytes ++ r.source.bytes ++ frame.drop 12 := by
  rw [apply, if_neg (Nat.not_lt.mpr h)]
  simp [overwrite, List.drop_append]

@[simp] theorem length_apply (r : Redirection) (frame : List UInt8) :
    (r.apply frame).length = frame.length := by
  by_cases h : 12 ≤ frame.length
  · simp only [r.apply_eq h, List.length_append, Mac.length_bytes, List.length_drop]
    omega
  · rw [apply, if_pos (Nat.not_le.mp h)]

theorem addressed_apply (r : Redirection) {frame : List UInt8} (h : 12 ≤ frame.length) :
    addressed r.destination (r.apply frame) = true := by
  have htake : (r.apply frame).take 6 = r.destination.bytes := by
    rw [r.apply_eq h, List.append_assoc]
    exact List.take_left' r.destination.length_bytes
  rw [← addressed_take, htake, addressed_bytes]

theorem applyTo_ok (r : Redirection) {b : Buffer} (h : s.Ledger (b ::ₘ live) aside)
    (hs : s.Unshared) :
    ∃ t, r.applyTo s b = .ok (b, t) ∧ t.Ledger (b ::ₘ live) aside ∧ Spares live s t ∧
      t.data b = r.apply (s.data b) := by
  have hmem := Multiset.mem_cons_self b live
  have hlength := h.length_data hmem
  have halone := h.unnamed_of_not_shared (hs.isShared b)
  have hin : 0 + (r.apply (s.data b)).length ≤ b.window.size := by
    rw [length_apply, hlength, Nat.zero_add]
  obtain ⟨hledger, hdata⟩ := h.write_alone halone hin
  refine ⟨s.write b 0 (r.apply (s.data b)), ?_, hledger,
    ⟨s.config_write b 0 _, hs.write b 0 _, hdata⟩, h.data_write_all hmem (r.length_apply _)⟩
  rw [applyTo, hs.unshare b]
  rfl

/-- Redirecting a burst cannot fail where nothing is shared. -/
theorem applyAll_ok (r : Redirection) {bs : List Buffer} (h : s.Ledger (↑bs + live) aside)
    (hs : s.Unshared) :
    ∃ t, r.applyAll s bs = (.ok (), bs, t) ∧ t.Ledger (↑bs + live) aside ∧ Spares live s t ∧
      ∀ b ∈ bs, t.data b = r.apply (s.data b) := by
  induction bs generalizing s live with
  | nil => exact ⟨s, rfl, h, .refl live hs, by simp⟩
  | cons b rest ih =>
    rw [← Multiset.cons_coe, Multiset.cons_add] at h
    obtain ⟨u, hu, hledger, hone, hb⟩ := r.applyTo_ok h hs
    rw [← Multiset.add_cons] at hledger
    obtain ⟨t, ht, hledger, hothers, hrest⟩ := ih hledger hone.unshared
    refine ⟨t, ?_, ?_, ?_, fun c hc => ?_⟩
    · rw [applyAll, hu]
      simp only [ht]
    · rwa [Multiset.add_cons, ← Multiset.cons_add, Multiset.cons_coe] at hledger
    · have hkeep : Spares live s u :=
        ⟨hone.config, hone.unshared, fun c hc => hone.data c (Multiset.mem_add.mpr (.inr hc))⟩
      exact hkeep.trans hothers.of_cons
    · rcases List.mem_cons.mp hc with rfl | hc
      · rw [hothers.data c (Multiset.mem_cons_self _ _), hb]
      · rw [hrest c hc, hone.data c (Multiset.mem_add.mpr (.inl hc))]

end Redirection

/-- A frame as a forwarder sends it on. -/
def onward (way : Option Redirection) (frame : List UInt8) : List UInt8 :=
  way.elim frame (·.apply frame)

namespace Forwarder

open Store

variable {s : Store} {live : Multiset Buffer} {aside : Multiset Place} {w : Forwarder}

theorem prepare_ok (w : Forwarder) {bs : List Buffer} (h : s.Ledger (↑bs + live) aside)
    (hs : s.Unshared) :
    ∃ t, w.prepare s bs = (.ok (), bs, t) ∧ t.Ledger (↑bs + live) aside ∧ Spares live s t ∧
      ∀ b ∈ bs, t.data b = onward w.redirection (s.data b) := by
  unfold prepare
  cases w.redirection with
  | none => exact ⟨s, rfl, h, .refl live hs, fun _ _ => rfl⟩
  | some r => exact r.applyAll_ok h hs

/-- A turn that finds no frame does what a turn with an empty burst would do. -/
theorem step_eq {f g : Fabric} {bs : List Buffer} {t : Store}
    (hrx : f.rxBurst w.rx burstSize = (bs, g)) (ht : w.prepare g.store bs = (.ok (), bs, t)) :
    let sent := { g with store := t }.txBurst w.tx bs
    w.step f = (.ok (), { w with forwarded := w.forwarded + sent.1 },
      sent.2.2.updateStore (·.dropAll sent.2.1)) := by
  rw [step, hrx]
  cases bs with
  | nil =>
    have hstore : t = g.store := by
      unfold prepare at ht
      cases hway : w.redirection <;> rw [hway] at ht <;> cases ht <;> rfl
    subst hstore
    simp only [List.isEmpty_nil, if_true, Fabric.txBurst_nil]
    rfl
  | cons b rest => simp only [List.isEmpty_cons, Bool.false_eq_true, if_false, ht]

end Forwarder
end Dataplane
