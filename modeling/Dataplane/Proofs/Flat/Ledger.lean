import Mathlib.Data.List.ReduceOption
import Dataplane.Proofs.Buffer.Copies
import Dataplane.Proofs.Client.Accounting
import Dataplane.Proofs.Flat.Bursts
import Dataplane.Proofs.Flat.Limits

/-! # The ledger behind the flat interface

The handles in the registers and the frames in rings are all the handles there are. A call moves
buffers between registers, pools and rings; in between it carries them, and they are counted too.
-/
namespace Dataplane

namespace Registers

variable {α : Type} (r : Registers α) (name : String)

theorem coe_lookup_add_filter {entries : List (String × α)} (h : (entries.map Prod.fst).Nodup) :
    (↑(entries.map Prod.snd) : Multiset α) =
      ↑(entries.lookup name).toList + ↑((entries.filter fun e => e.1 ≠ name).map Prod.snd) := by
  induction entries with
  | nil => rfl
  | cons e rest ih =>
    obtain ⟨key, a⟩ := e
    rw [List.map_cons, List.nodup_cons] at h
    by_cases hkey : key = name
    · subst hkey
      have hrest : rest.filter (fun e => e.1 ≠ key) = rest := by
        refine List.filter_eq_self.mpr fun e he => ?_
        have hmem := List.mem_map_of_mem (f := Prod.fst) he
        have hne : e.1 ≠ key := fun heq => h.1 (heq ▸ hmem)
        simpa using hne
      rw [List.filter_cons_of_neg (by simp), hrest]
      simp
    · have hname : (name == key) = false := by simpa using Ne.symm hkey
      rw [List.filter_cons_of_pos (by simpa using hkey), List.lookup_cons, hname, List.map_cons,
        List.map_cons, ← Multiset.cons_coe, ← Multiset.cons_coe, ih h.2, Multiset.add_cons]

/-- The registers hold what one of them holds and what the others do. -/
theorem coe_values :
    (↑r.values : Multiset α) = ↑(r.get? name).toList + ↑(r.erase name).values :=
  coe_lookup_add_filter name r.distinct

end Registers

/-- A buffer that is sent is given up, so that no register may be named twice in one burst. -/
def FlatCall.Proper : FlatCall → Prop
  | .queue (.send _ (some array) count) => (array.take count.toNat).reduceOption.Nodup
  | _ => True

/-- The ledger for handles in hands and frames in rings, and ports that are numbered as they should
be. -/
structure Fabric.Sound (f : Fabric) (held : Multiset Buffer) : Prop where
  ledger : f.Balanced held 0
  enrolled : f.Enrolled

namespace Flat

/-- The handles in the registers. -/
def held (f : Flat) : Multiset Buffer := ↑f.buffers.values

def heldBut (f : Flat) (m : String) : Multiset Buffer := ↑(f.buffers.erase m).values

def live (f : Flat) : Multiset Buffer := f.held + f.fabric.inFlight

def others (f : Flat) (m : String) : Multiset Buffer := f.heldBut m + f.fabric.inFlight

/-- All handles are in the ledger, those carried included, and the ports are in order. -/
def Carries (carried : Multiset Buffer) (f : Flat) : Prop := f.fabric.Sound (carried + f.held)

/-- Nothing is carried between two calls. -/
def Orderly (f : Flat) : Prop := f.Carries 0

variable {f : Flat} {carried : Multiset Buffer} {m : String} {b : Buffer}

theorem held_eq (f : Flat) (m : String) :
    f.held = ↑(f.buffers.get? m).toList + f.heldBut m :=
  f.buffers.coe_values m

theorem live_eq (h : f.buffers.get? m = some b) : f.live = b ::ₘ f.others m := by
  rw [live, held_eq f m, h, others, ← Multiset.cons_add]
  rfl

theorem Orderly.ledger (h : f.Orderly) : f.store.Ledger f.live 0 := by
  have hledger := Fabric.Sound.ledger h
  rwa [zero_add] at hledger

/-! ## Several registers -/

theorem held_forget {entries : List (String × Buffer)}
    (hheld : ∀ e ∈ entries, f.buffers.get? e.1 = some e.2)
    (hdistinct : (entries.map Prod.fst).Nodup) :
    f.held = ↑(entries.map Prod.snd) + (f.forget (entries.map Prod.fst)).held := by
  induction entries generalizing f with
  | nil => exact (zero_add _).symm
  | cons e rest ih =>
    rw [List.map_cons, List.nodup_cons] at hdistinct
    have hrest : ∀ x ∈ rest, (f.buffers.erase e.1).get? x.1 = some x.2 := by
      intro x hx
      have hne : x.1 ≠ e.1 := fun heq => hdistinct.1 (heq ▸ List.mem_map_of_mem (f := Prod.fst) hx)
      rw [Registers.get?_erase, if_neg hne]
      exact hheld x (List.mem_cons_of_mem e hx)
    rw [held_eq f e.1, hheld e List.mem_cons_self, List.map_cons, ← Multiset.cons_coe,
      Multiset.cons_add]
    exact congrArg (e.2 ::ₘ ·)
      (ih (f := { f with buffers := f.buffers.erase e.1 }) hrest hdistinct.2)

theorem held_refill {entries : List (String × Buffer)}
    (hnone : ∀ e ∈ entries, f.buffers.get? e.1 = none)
    (hdistinct : (entries.map Prod.fst).Nodup) :
    (f.refill entries).held = ↑(entries.map Prod.snd) + f.held := by
  induction entries generalizing f with
  | nil => exact (zero_add _).symm
  | cons e rest ih =>
    rw [List.map_cons, List.nodup_cons] at hdistinct
    have hrest : ∀ x ∈ rest, (f.setBuffer e.1 e.2).buffers.get? x.1 = none := by
      intro x hx
      have hne : x.1 ≠ e.1 := fun heq => hdistinct.1 (heq ▸ List.mem_map_of_mem (f := Prod.fst) hx)
      rw [setBuffer, Registers.get?_put, if_neg hne]
      exact hnone x (List.mem_cons_of_mem e hx)
    have hput : (f.setBuffer e.1 e.2).held = e.2 ::ₘ f.held := by
      rw [held_eq f e.1, hnone e List.mem_cons_self]
      rfl
    change ((f.setBuffer e.1 e.2).refill rest).held = _
    rw [ih hrest hdistinct.2, hput, List.map_cons, ← Multiset.cons_coe, Multiset.cons_add,
      Multiset.add_cons]

/-! ## Moving buffers -/

namespace Carries

theorem of_ledger {s : Store} (h : f.Carries carried) {carried' : Multiset Buffer}
    (hs : s.Ledger (carried' + f.held + f.fabric.inFlight) 0) :
    (f.setStore s).Carries carried' :=
  ⟨hs, h.enrolled.of_sameLabels ⟨rfl, rfl, fun _ => rfl⟩⟩

theorem dropAll {bs : List Buffer} (h : f.Carries (↑bs + carried)) :
    (f.setStore (f.store.dropAll bs)).Carries carried := by
  have hledger := h.ledger
  rw [add_assoc, Fabric.Balanced, add_assoc] at hledger
  exact h.of_ledger hledger.dropAll

/-- The handle in a register is picked up. -/
theorem pick (h : f.Carries carried) (m : String) :
    Carries (↑(f.buffers.get? m).toList + carried)
      { f with buffers := f.buffers.erase m } := by
  have hledger := h.ledger
  rw [held_eq f m, ← add_assoc, add_comm carried] at hledger
  exact ⟨hledger, h.enrolled⟩

/-- A handle is put into a register, and the one that was there is picked up. -/
theorem swap (h : f.Carries (b ::ₘ carried)) (m : String) :
    (f.setBuffer m b).Carries (↑(f.buffers.get? m).toList + carried) := by
  have hledger := h.ledger
  have hsame : b ::ₘ carried + f.held =
      ↑(f.buffers.get? m).toList + carried + (f.setBuffer m b).held := by
    change _ = _ + b ::ₘ f.heldBut m
    rw [held_eq f m, Multiset.cons_add, Multiset.add_cons, add_left_comm, add_assoc]
  rw [hsame] at hledger
  exact ⟨hledger, h.enrolled⟩

theorem keepBuffer (h : f.Carries (b ::ₘ carried)) (m : String) :
    (f.keepBuffer m b).Carries carried :=
  (h.swap m).dropAll

theorem keepArray {bs : List Buffer} (h : f.Carries (↑bs + carried)) (array : String)
    (first : Nat) : (f.keepArray array first bs).Carries carried := by
  induction bs generalizing f first with
  | nil =>
    rw [Multiset.coe_nil, zero_add] at h
    exact h
  | cons b rest ih =>
    rw [← Multiset.cons_coe, Multiset.cons_add] at h
    exact ih (h.keepBuffer _) (first + 1)

theorem setFabric {g : Fabric} (h : f.Carries carried) {carried' : Multiset Buffer}
    (hg : g.Balanced (carried' + f.held) 0) (hlabels : f.fabric.SameLabels g) :
    (f.setFabric g).Carries carried' :=
  ⟨hg, h.enrolled.of_sameLabels hlabels⟩

end Carries

namespace Orderly

theorem of_ledger {s : Store} (h : f.Orderly) (hs : s.Ledger (carried + f.live) 0) :
    (f.setStore s).Carries carried := by
  rw [live, ← add_assoc] at hs
  exact Carries.of_ledger h hs

theorem setStore {s : Store} (h : f.Orderly) (hs : s.Ledger f.live 0) : (f.setStore s).Orderly :=
  h.of_ledger (by rwa [zero_add])

theorem replace {s : Store} {c : Buffer} (h : f.Orderly)
    (hs : s.Ledger (c ::ₘ f.others m) 0) : ((f.setStore s).setBuffer m c).Orderly := by
  rw [others, ← Multiset.cons_add] at hs
  refine ⟨?_, h.enrolled.of_sameLabels ⟨rfl, rfl, fun _ => rfl⟩⟩
  rw [zero_add]
  exact hs

theorem ledger_of_get (h : f.Orderly) (hb : f.buffers.get? m = some b) :
    f.store.Ledger (b ::ₘ f.others m) 0 := by
  rw [← live_eq hb]
  exact h.ledger

/-! ## Calls on pools and buffers -/

variable (h : f.Orderly)
include h

theorem keepHandle {r : Except Fault (Buffer × Store)}
    (hr : ∀ b s, r = .ok (b, s) → s.Ledger (b ::ₘ f.live) 0) (m : String) :
    (f.keepHandle m r).2.Orderly := by
  cases r with
  | error e => exact h
  | ok r =>
    have hs := hr _ _ rfl
    rw [← Multiset.singleton_add] at hs
    exact (h.of_ledger hs).keepBuffer m

/-- A handle that shares its slot gives way to a copy with the same window. -/
theorem withPrivate_of {P : Step → Prop} {k : Flat → Buffer → Step}
    (hnull : P (.place none, f.failNull)) (hfault : ∀ e, P (.place none, f.fail e))
    (hk : ∀ b g c, f.buffers.get? m = some b → c.window = b.window → g.Orderly →
      g.buffers.get? m = some c → P (k g c)) : P (f.withPrivate m k) := by
  unfold Flat.withPrivate Flat.withBuffer
  split
  · rename_i b hb
    have hledger := h.ledger_of_get hb
    dsimp only
    split
    · exact hfault _
    · rename_i c t hu
      have hwindow : c.window = b.window := by
        rcases hledger.unshare_cases with ⟨-, heq⟩ | ⟨-, -, heq⟩ | ⟨-, -, d, u, heq, hcopied⟩
        all_goals
          rw [heq] at hu
          cases hu
        · rfl
        · exact hcopied.window
      refine hk b _ c hb hwindow (h.replace (hledger.unshare hu).1) ?_
      exact (f.buffers.get?_put m m c).trans (if_pos rfl)
  · exact hnull

theorem withPrivate {k : Flat → Buffer → Step}
    (hk : ∀ g b, g.Orderly → g.buffers.get? m = some b → (k g b).2.Orderly) :
    (f.withPrivate m k).2.Orderly :=
  h.withPrivate_of (P := fun r => r.2.Orderly) h (fun _ => h) fun _ g c _ _ hg hc => hk g c hg hc

theorem moveWindow {distance : Nat} {r : Except Fault Buffer} (hb : f.buffers.get? m = some b)
    (hr : ∀ c, r = .ok c → f.store.Ledger (b ::ₘ f.others m) 0 →
      f.store.Ledger (c ::ₘ f.others m) 0) : (f.moveWindow m distance r).2.Orderly := by
  cases r with
  | error e => exact h
  | ok c => exact h.replace (s := f.store) (hr c rfl (h.ledger_of_get hb))

theorem allocUpTo (p n : Nat) :
    (f.setStore (f.store.allocUpTo p n).2).Carries (↑(f.store.allocUpTo p n).1 + 0) := by
  rw [add_zero]
  exact h.of_ledger (h.ledger.allocUpTo p n).1

theorem count16 (k : Buffer → Nat) : (f.count16 m k).2.Orderly := by
  unfold Flat.count16
  split <;> exact h

theorem withBuffer {null : FlatReply} {k : Buffer → Step}
    (hk : ∀ b, f.buffers.get? m = some b → (k b).2.Orderly) :
    (f.withBuffer m null k).2.Orderly := by
  unfold Flat.withBuffer
  split
  · exact hk _ ‹_›
  · exact h

theorem createPool (p : String) (name : Option (List UInt8)) (config : PoolConfig)
    (hasMemory : Bool) : (f.createPool p name config hasMemory).2.Orderly := by
  cases name with
  | none => exact h
  | some octets =>
    unfold Flat.createPool
    dsimp only
    split
    · exact h
    · rename_i hs
      have hmade := h.setStore (h.ledger.create hs)
      exact ⟨hmade.ledger, hmade.enrolled⟩

/-- What was taken is dropped again if it is too little. -/
theorem allocBulk (p : Nat) (array : String) (count : Nat) :
    (f.allocBulk p array count).2.Orderly := by
  have hall := h.allocUpTo p count
  unfold Flat.allocBulk
  split
  · exact h
  · rename_i hs
    rcases Store.allocExact?_eq_some hs with hr | hr
    · cases hr
      exact hall.dropAll
    · cases hr
  · rename_i hs
    rcases Store.allocExact?_eq_some hs with hr | hr
    · cases hr
    · cases hr
      exact hall.keepArray array 0

theorem clone {target : String} (hb : f.buffers.get? m = some b) :
    (f.keepHandle target (.ok (f.store.clone b))).2.Orderly := by
  refine h.keepHandle (fun c s hs => ?_) target
  cases hs
  apply h.ledger.retain
  rw [live_eq hb]
  exact Multiset.mem_cons_self _ _

theorem runBuffer (c : FlatBufferCall) : (f.runBuffer c).2.Orderly := by
  cases c with
  | createPool p name buffers cacheSize dataRoom socket hasMemory =>
    exact h.createPool p name _ hasMemory
  | alloc p m =>
    exact withPool_of (P := fun r => r.2.Orderly) h fun i =>
      h.keepHandle (fun b s hs => (h.ledger.alloc hs).1) m
  | allocBulk p array count =>
    refine withPool_of (P := fun r => r.2.Orderly) h fun i => ?_
    cases array with
    | none => exact h
    | some array => exact h.allocBulk i array count
  | allocPartial p array count =>
    refine withPool_of (P := fun r => r.2.Orderly) h fun i => ?_
    cases array with
    | none => exact h
    | some array => exact (h.allocUpTo i count).keepArray array 0
  | free m => exact (Carries.pick h m).dropAll
  | clone m target => exact h.withBuffer fun b hb => h.clone hb
  | copy m target =>
    refine h.withBuffer fun b hb => h.keepHandle (fun c s hs => ?_) target
    rw [live_eq hb]
    exact ((h.ledger_of_get hb).duplicate hs).1
  | writableData m => exact h.withPrivate fun g b hg _ => hg
  | prepend m n =>
    exact h.withPrivate fun g b hg hb => hg.moveWindow hb fun c hc hl => hl.shift .prepend hc
  | append m n =>
    exact h.withPrivate fun g b hg hb => hg.moveWindow hb fun c hc hl => hl.shift .append hc
  | adj m n =>
    exact h.withPrivate fun g b hg hb => hg.moveWindow hb fun c hc hl => hl.shift .adj hc
  | trim m n =>
    refine h.withBuffer fun b hb => ?_
    split
    · exact h
    · rename_i c hc
      exact h.replace (s := f.store) ((h.ledger_of_get hb).shift .trim hc)
  | reset m => exact h.withBuffer fun b hb => h.replace (s := f.store) (h.ledger_of_get hb).reset
  | available p => exact withPool_of (P := fun r => r.2.Orderly) h fun _ => h
  | inUse p => exact withPool_of (P := fun r => r.2.Orderly) h fun _ => h
  | data m => exact h.withBuffer fun _ _ => h
  | freePool p => exact ⟨h.ledger, h.enrolled⟩
  | size m => exact h.count16 _
  | headroom m => exact h.count16 _
  | tailroom m => exact h.count16 _
  | holders m => exact h.count16 _

theorem writeAt {start : Nat} {bytes : List UInt8}
    (hin : ∀ b, f.buffers.get? m = some b → start + bytes.length ≤ b.window.size) :
    (f.writeAt m start bytes).2.Orderly := by
  have hprivate : let r := f.withPrivate m fun g _ => (.place (some 0), g)
      (r.1 = .place none ∧ r.2.Orderly) ∨ (r.1 = .place (some 0) ∧ r.2.Orderly ∧
        ∃ c, r.2.buffers.get? m = some c ∧ start + bytes.length ≤ c.window.size) :=
    h.withPrivate_of (P := fun r => (r.1 = .place none ∧ r.2.Orderly) ∨
        (r.1 = .place (some 0) ∧ r.2.Orderly ∧
          ∃ c, r.2.buffers.get? m = some c ∧ start + bytes.length ≤ c.window.size))
      (.inl ⟨rfl, h⟩) (fun _ => .inl ⟨rfl, h⟩) fun b g c hb hwindow hg hc =>
        .inr ⟨rfl, hg, c, hc, hwindow ▸ hin b hb⟩
  unfold Flat.writeAt
  generalize f.withPrivate m (fun g _ => (.place (some 0), g)) = r at hprivate ⊢
  obtain ⟨reply, g⟩ := r
  rcases hprivate with ⟨rfl, hg⟩ | ⟨rfl, hg, c, hc, hfits⟩
  · exact hg
  · simp only [hc]
    refine hg.setStore (hg.ledger.write ?_ hfits)
    rw [live_eq hc]
    exact Multiset.mem_cons_self _ _

theorem address (m : String) : (f.address m).2.Orderly := by
  unfold Flat.address
  split <;> exact h

theorem poke (m : String) (start : Nat) (bytes : List UInt8) :
    (f.runUse (.poke m start bytes)).2.Orderly := by
  simp only [Flat.runUse]
  cases hb : f.buffers.get? m with
  | none =>
    have hsize : f.size16 m = (0, f.failNull) := by
      simp only [Flat.size16, Flat.count16, hb]
    rw [hsize]
    split
    · exact h
    · refine writeAt (f := f.failNull) h fun c hc => ?_
      rw [show f.failNull.buffers.get? m = none from hb] at hc
      cases hc
  | some b =>
    have hsize : f.size16 m = (UInt16.ofNat b.window.size, f) := by
      simp only [Flat.size16, Flat.count16, hb]
    rw [hsize]
    split
    · exact h
    · rename_i hin
      refine h.writeAt fun c hc => ?_
      rw [hb] at hc
      cases hc
      simpa [Window.size] using hin

theorem runUse (c : FlatUse) : (f.runUse c).2.Orderly := by
  cases c with
  | inspect m => exact (((h.count16 _).count16 _).count16 _).count16 _
  | compare m other => exact (h.address m).address other
  | peek m => exact withBuffer_of (P := fun r => r.2.Orderly) h fun _ => h
  | poke m start bytes => exact h.poke m start bytes

/-! ## Calls on ports -/

theorem upkeep {g : Fabric} (hg : g.Balanced (0 + f.held) 0) (hfg : f.fabric.Upkeep g) :
    (f.setFabric g).Orderly :=
  Carries.setFabric h hg hfg.toSameLabels

theorem onPort {number : Nat} {g : Nat → Except Fault Unit × Fabric}
    (hg : ∀ p, (f.setFabric (g p).2).Orderly) : (f.onPort number g).2.Orderly := by
  unfold Flat.onPort
  split
  · exact h
  · rename_i p _
    have hp := hg p
    dsimp only
    cases (g p).1 with
    | error e => exact hp
    | ok _ => exact hp

theorem readPort {α : Type} {number : Nat} {hasOut : Bool} {out : Int32 → Option α → FlatReply}
    {g : Port → α} : (f.readPort number hasOut out g).2.Orderly := by
  unfold Flat.readPort
  split
  · split <;> exact h
  · exact h

theorem intOfPort (number : Nat) (g : Port → Nat) : (f.intOfPort number g).2.Orderly := by
  unfold Flat.intOfPort
  split <;> exact h

theorem withName {name : Option (List UInt8)} {k : String → Step}
    (hk : ∀ name, (k name).2.Orderly) : (f.withName name k).2.Orderly := by
  unfold Flat.withName
  split
  · exact hk _
  · exact h

omit h in
theorem numbered {r : Except Fault Nat × Fabric} (hr : (f.setFabric r.2).Orderly) :
    (f.numbered r).2.Orderly := by
  obtain ⟨_ | _, g⟩ := r
  · exact hr
  · exact hr

theorem createLoopback (name : String) (mac : Mac) :
    (f.setFabric (f.fabric.createLoopback name mac).2).Orderly := by
  refine ⟨Fabric.Balanced.createLoopback (Fabric.Sound.ledger h) name mac, ?_⟩
  rcases f.fabric.createLoopback_cases name mac with ⟨e, heq⟩ | ⟨hname, hroom, heq⟩
  · rw [heq]
    exact h.enrolled
  · rw [heq]
    exact h.enrolled.addLoopback hname hroom mac

theorem createPair (a b : String) (macA macB : Mac) :
    (f.setFabric (f.fabric.createPair a b macA macB).2).Orderly := by
  refine ⟨Fabric.Balanced.createPair (Fabric.Sound.ledger h) a b macA macB, ?_⟩
  rcases f.fabric.createPair_cases a b macA macB with ⟨e, heq⟩ | ⟨⟨ha, hb, hab⟩, hroom, heq⟩
  · rw [heq]
    exact h.enrolled
  · rw [heq]
    exact h.enrolled.addPair ha hb hab hroom macA macB

theorem runPort (c : FlatPortCall) : (f.runPort c).2.Orderly := by
  cases hon : c.onPort? with
  | some r =>
    obtain ⟨port, pc⟩ := r
    rw [runPort_eq hon]
    refine h.onPort fun p => h.upkeep ?_ (.runPort _ p pc)
    exact Fabric.Balanced.runPort (Fabric.Sound.ledger h) p pc
  | none =>
    cases c with
    | createPair a b hasOut first second =>
      cases a with
      | none => exact h
      | some a =>
        cases b with
        | none => exact h
        | some b =>
          have hmade := h.createPair (nameText a) (nameText b) (.drawn first) (.drawn second)
          simp only [Flat.runPort, Flat.createPair]
          split
          all_goals
            rename_i heq
            rw [heq] at hmade
            exact hmade
    | createLoopback name octets =>
      exact h.withName fun name => numbered (h.createLoopback name _)
    | find name => exact h.withName fun name => numbered h
    | setMac port station =>
      cases station with
      | none => exact h
      | some _ => cases hon
    | countOpen => exact h
    | socket port => exact h.intOfPort port _
    | promiscuous port => exact h.intOfPort port _
    | info port hasOut => exact h.readPort
    | mac port hasOut => exact h.readPort
    | mtu port hasOut => exact h.readPort
    | link port hasOut => exact h.readPort
    | stats port hasOut => exact h.readPort
    | _ => cases hon

/-! ## Calls on queues -/

theorem dropRx (x : Option RxQueue) : (f.dropRx x).Orderly := by
  refine h.upkeep ?_ (.foldl .putRx f.fabric x.toList)
  cases x with
  | none => exact Fabric.Sound.ledger h
  | some x => exact Fabric.Balanced.putRx (Fabric.Sound.ledger h) x

theorem dropTx (x : Option TxQueue) : (f.dropTx x).Orderly := by
  refine h.upkeep ?_ (.foldl .putTx f.fabric x.toList)
  cases x with
  | none => exact Fabric.Sound.ledger h
  | some x => exact Fabric.Balanced.putTx (Fabric.Sound.ledger h) x

theorem takeRx (port queue : Nat) (x : String) : (f.takeRx port queue x).2.Orderly := by
  unfold Flat.takeRx
  split
  · exact h
  · rename_i p _
    have htaken := h.upkeep (Fabric.Balanced.takeRx (Fabric.Sound.ledger h) p queue)
      (.takeRx f.fabric p queue)
    split
    · rename_i heq
      rw [heq] at htaken
      exact htaken
    · rename_i heq
      rw [heq] at htaken
      exact dropRx (f := { f.setFabric _ with rxs := _ }) htaken _

theorem takeTx (port queue : Nat) (x : String) : (f.takeTx port queue x).2.Orderly := by
  unfold Flat.takeTx
  split
  · exact h
  · rename_i p _
    have htaken := h.upkeep (Fabric.Balanced.takeTx (Fabric.Sound.ledger h) p queue)
      (.takeTx f.fabric p queue)
    split
    · rename_i heq
      rw [heq] at htaken
      exact htaken
    · rename_i heq
      rw [heq] at htaken
      exact dropTx (f := { f.setFabric _ with txs := _ }) htaken _

theorem receive (x : RxQueue) (array : String) (count : UInt16) :
    (f.receive x array count).2.Orderly := by
  have hlabels := (Fabric.Upkeep.rxBurst f.fabric x count.toNat).toSameLabels
  have hburst := Fabric.Balanced.rxBurst (Fabric.Sound.ledger h) x count.toNat
  rw [zero_add, ← add_zero (↑(f.fabric.rxBurst x count.toNat).1 : Multiset Buffer)] at hburst
  exact Carries.keepArray (Carries.setFabric h hburst hlabels) array 0

theorem sendEntries {entries : List (String × Buffer)} (x : TxQueue)
    (hheld : ∀ e ∈ entries, f.buffers.get? e.1 = some e.2)
    (hdistinct : (entries.map Prod.fst).Nodup) : (f.sendEntries x entries).2.Orderly := by
  have hlabels := (Fabric.Upkeep.txBurst f.fabric x (entries.map Prod.snd)).toSameLabels
  have hledger := Fabric.Sound.ledger h
  rw [zero_add, held_forget hheld hdistinct] at hledger
  have hburst := hledger.txBurst x
  have hleft := f.fabric.txBurst_left x (entries.map Prod.snd)
  rw [hleft, ← List.map_drop] at hburst
  rw [sendEntries_eq]
  generalize f.fabric.txBurst x (entries.map Prod.snd) = burst at hlabels hburst ⊢
  obtain ⟨n, left, fabric⟩ := burst
  have hms : ∀ e ∈ entries.drop n,
      ((f.setFabric fabric).forget (entries.map Prod.fst)).buffers.get? e.1 = none := fun e he => by
    rw [get?_forget, if_pos (List.mem_map_of_mem (List.mem_of_mem_drop he))]
  have hrest : ((entries.drop n).map Prod.fst).Nodup :=
    hdistinct.sublist ((List.drop_sublist n entries).map Prod.fst)
  have hback := held_refill hms hrest
  rw [refill_eq] at hback ⊢
  refine ⟨?_, h.enrolled.of_sameLabels hlabels⟩
  rw [zero_add]
  change fabric.Balanced (held _) 0
  rw [hback]
  exact hburst

theorem send {array : Option (List (Option String))} {count : UInt16} (x : TxQueue)
    (hdistinct : ∀ a, array = some a → (a.take count.toNat).reduceOption.Nodup) :
    (f.send x array count).2.Orderly := by
  unfold Flat.send
  split
  · exact h
  · cases array with
    | none => exact h
    | some a =>
      dsimp only
      split
      · exact h
      · rename_i entries hentries
        obtain ⟨harray, hheld⟩ := held_of_entries? f hentries
        refine h.sendEntries x hheld ?_
        have hnames := hdistinct a rfl
        rwa [harray, List.reduceOption, List.filterMap_map,
          show id ∘ (fun e : String × Buffer => some e.1) = some ∘ Prod.fst from rfl,
          ← List.filterMap_map, List.filterMap_some] at hnames

theorem runQueue {c : FlatQueueCall} (hc : (FlatCall.queue c).Proper) :
    (f.runQueue c).2.Orderly := by
  cases c with
  | takeRx port queue x => exact h.takeRx port queue x
  | takeTx port queue x => exact h.takeTx port queue x
  | putRx x => exact dropRx (f := { f with rxs := _ }) h _
  | putTx x => exact dropTx (f := { f with txs := _ }) h _
  | receive x array count =>
    simp only [Flat.runQueue]
    split
    · exact h.receive _ _ count
    · exact h
  | send x array count =>
    simp only [Flat.runQueue]
    split
    · refine h.send _ fun a ha => ?_
      cases ha
      exact hc
    · exact h

/-! ## All calls -/

theorem runLock (c : FlatLockCall) : (f.runLock c).2.Orderly := by
  have hsame : (f.runLock c).2.fabric = f.fabric ∧ (f.runLock c).2.buffers = f.buffers := by
    cases c with
    | create l => exact ⟨rfl, rfl⟩
    | free l => exact ⟨rfl, rfl⟩
    | createRecursive l => exact ⟨rfl, rfl⟩
    | freeRecursive l => exact ⟨rfl, rfl⟩
    | _ =>
      simp only [Flat.runLock, withSpin, withRecursive]
      split
      · first | exact ⟨rfl, rfl⟩ | (split <;> exact ⟨rfl, rfl⟩)
      · exact ⟨rfl, rfl⟩
  unfold Orderly Carries held at h ⊢
  rw [hsame.1, hsame.2]
  exact h

theorem exec {c : FlatCall} (hc : c.Proper) : (f.exec c).2.Orderly := by
  cases c with
  | query c =>
    cases c with
    | nodeOf lcore =>
      simp only [Flat.exec, runQuery, nodeOf]
      split <;> exact h
    | _ => exact h
  | lock c => exact h.runLock c
  | buffer c => exact h.runBuffer c
  | use c => exact h.runUse c
  | port c => exact h.runPort c
  | queue c => exact h.runQueue hc

theorem run {calls : List FlatCall} (hcalls : ∀ c ∈ calls, c.Proper) :
    (f.run calls).Orderly := by
  induction calls generalizing f with
  | nil => exact h
  | cons c rest ih =>
    exact ih (h.exec (hcalls c List.mem_cons_self)) fun c hc =>
      hcalls c (List.mem_cons_of_mem _ hc)

end Orderly

/-- Whatever a thread calls that starts anew, and that sends no buffer twice at once, everything is
in order. -/
theorem orderly_of_run (machine : Machine) {calls : List FlatCall}
    (hcalls : ∀ c ∈ calls, c.Proper) : (Flat.run { machine } calls).Orderly := by
  have hstart : Orderly { machine } := by
    refine ⟨?_, .of_empty rfl⟩
    rw [zero_add]
    exact Store.Ledger.empty
  exact hstart.run hcalls

end Flat
end Dataplane
