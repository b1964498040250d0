import Dataplane.Proofs.Buffer.Reach
import Dataplane.Proofs.Flat.Ledger

/-! # Pointers into buffers

A call for a pointer to write through makes the handle private first and moves its window then. It
answers null when there is no slot for a private copy, and when there is no room for the move; in
the second case the handle keeps the copy. A pointer that is given out is into a slot that no other
handle names.
-/
namespace Dataplane

def Reach.ask (m : String) : Reach → FlatBufferCall
  | data => .writableData m
  | prepend n => .prepend m n
  | append n => .append m n
  | adj n => .adj m n

namespace Registers

variable {α : Type} (r : Registers α) (name : String) (a : α)

theorem erase_put : (r.put name a).erase name = r.erase name := by
  simp only [erase, put, Registers.mk.injEq]
  rw [List.filter_cons_of_neg (by simp), List.filter_filter]
  simp

theorem put_put (b : α) : (r.put name a).put name b = r.put name b := by
  have herase := congrArg entries (r.erase_put name a)
  simp only [put, Registers.mk.injEq, List.cons.injEq, true_and]
  exact herase

end Registers

namespace Flat

/-- From `f` to `g`, nothing but slots, one register and the record of errors may differ. The other
handles show what they showed. -/
structure Touches (m : String) (f g : Flat) : Prop where
  registers : ∀ o ≠ m, g.buffers.get? o = f.buffers.get? o
  others : g.others m = f.others m
  data : Store.SameData f.store g.store (f.others m)
  rest : g = { f.setStore g.store with buffers := g.buffers, lastError := g.lastError }

/-- What a call that asks handle `b` in register `m` for a pointer answers and leaves behind. -/
inductive Asked (m : String) (b : Buffer) (r : Reach) (f : Flat) : Step → Prop
  | starved (hb : f.store.isShared b = true) (hnone : (f.store.pool b.pool).available = 0) :
    Asked m b r f (.place none, f.fail (.exhausted .pool))
  | cramped {t : Store} {c : Buffer} (e : Fault) (hc : Store.Secured f.store b t c)
      (hdata : Store.SameData f.store t (f.others m)) (hfits : ¬r.Fits f.store b) :
    Asked m b r f (.place none, ((f.setStore t).setBuffer m c).fail e)
  | opened {t : Store} {c d : Buffer} (hc : Store.Secured f.store b t c)
      (hdata : Store.SameData f.store t (f.others m)) (hfits : r.Fits f.store b)
      (hd : r.Moved t c d) (hledger : t.Ledger (d ::ₘ f.others m) 0) :
    Asked m b r f (.place (some (r.distance b.window)), (f.setStore t).setBuffer m d)

variable {f g : Flat} {m : String} {b c : Buffer} {r : Reach} {t : Store} {d : Nat}

theorem heldBut_setBuffer (f : Flat) (m : String) (b : Buffer) :
    (f.setBuffer m b).heldBut m = f.heldBut m := by
  rw [heldBut, setBuffer, Registers.erase_put, heldBut]

theorem touches_setBuffer (hdata : Store.SameData f.store t (f.others m)) (c : Buffer) :
    Touches m f ((f.setStore t).setBuffer m c) where
  registers o ho := by rw [setBuffer, Registers.get?_put, if_neg ho]; rfl
  others := congrArg (· + f.fabric.inFlight) (heldBut_setBuffer (f.setStore t) m c)
  data := hdata
  rest := rfl

/-! ## What a call does -/

/-- Where a handle starves, every call does the same. -/
theorem exec_ask_eq_error {e : Fault} (hb : f.buffers.get? m = some b)
    (hu : f.store.unshare b = .error e) (r : Reach) :
    f.exec (.buffer (r.ask m)) = (.place none, f.fail e) := by
  cases r <;>
    simp only [Reach.ask, Flat.exec, Flat.runBuffer, Flat.withPrivate, Flat.withBuffer, hb, hu]

/-- A call moves the window of the handle that was made private. -/
theorem exec_ask_eq_ok (hb : f.buffers.get? m = some b) (hu : f.store.unshare b = .ok (c, t))
    (r : Reach) :
    f.exec (.buffer (r.ask m)) =
      ((f.setStore t).setBuffer m c).moveWindow m (r.distance c.window) (r.move t c) := by
  cases r with
  | data =>
    simp only [Reach.ask, Reach.move, Reach.distance, Flat.exec, Flat.runBuffer, Flat.withPrivate,
      Flat.withBuffer, hb, hu, moveWindow, setBuffer, Registers.put_put]
  | _ =>
    simp only [Reach.ask, Flat.exec, Flat.runBuffer, Flat.withPrivate, Flat.withBuffer, hb, hu]
    rfl

theorem Orderly.asked (h : f.Orderly) (hb : f.buffers.get? m = some b) (r : Reach) :
    Asked m b r f (f.exec (.buffer (r.ask m))) := by
  have hledger := h.ledger_of_get hb
  rcases hledger.secured_cases with ⟨hshared, hnone, hu⟩ | ⟨t, c, hu, hc⟩
  · rw [exec_ask_eq_error hb hu]
    exact .starved hshared hnone
  · obtain ⟨hsecured, hdata, -⟩ := hledger.unshare hu
    rw [exec_ask_eq_ok hb hu, hc.window]
    rcases hsecured.move_cases r with ⟨hfits, d, hmove, hnew, hmoved⟩ | ⟨hfits, e, hmove⟩
    · rw [hmove]
      have hput : ((f.setStore t).setBuffer m c).setBuffer m d = (f.setStore t).setBuffer m d := by
        simp only [setBuffer, Registers.put_put]
      rw [Flat.moveWindow, hput]
      exact .opened hc hdata ((hc.fits_iff r).mp hfits) hmoved hnew
    · rw [hmove]
      exact .cramped e hc hdata fun hroom => hfits ((hc.fits_iff r).mpr hroom)

/-- A pointer is given out unless there is no slot for a copy that is needed, or no room for the
move. -/
theorem Orderly.exists_place_iff (h : f.Orderly) (hb : f.buffers.get? m = some b) (r : Reach) :
    (∃ d g, f.exec (.buffer (r.ask m)) = (.place (some d), g)) ↔
      (f.store.isShared b = false ∨ 0 < (f.store.pool b.pool).available) ∧
        r.Fits f.store b := by
  have hasked := h.asked hb r
  generalize f.exec (.buffer (r.ask m)) = step at hasked
  cases hasked with
  | starved hshared hnone => simp [hshared, hnone]
  | cramped e hc hdata hfits => simp [hfits]
  | opened hc hdata hfits hd hledger =>
    refine ⟨fun _ => ⟨?_, hfits⟩, fun _ => ⟨_, _, rfl⟩⟩
    cases hc with
    | alone hb => exact .inl hb
    | copied hb havailable hc => exact .inr havailable

/-! ## Null -/

/-- What a call for a pointer leaves behind that answers null. -/
structure Spared (m : String) (b : Buffer) (r : Reach) (f g : Flat) : Prop
    extends Touches m f g where
  cause : (f.store.isShared b = true ∧ (f.store.pool b.pool).available = 0) ∨ ¬r.Fits f.store b
  shown : ∃ c, g.buffers.get? m = some c ∧ c.window = b.window ∧ g.store.data c = f.store.data b
  /-- With no copy, all is as before. -/
  kept : f.store.isShared b = false ∨ (f.store.pool b.pool).available = 0 ∨ r.Fits f.store b →
    g.store = f.store ∧ g.buffers.get? m = some b
  /-- With a copy, the handle keeps it. -/
  copied : f.store.isShared b = true → 0 < (f.store.pool b.pool).available →
    ∃ c, g.buffers.get? m = some c ∧ Store.Copied f.store b g.store c

theorem Orderly.spared (h : f.Orderly) (hb : f.buffers.get? m = some b)
    (hnull : f.exec (.buffer (r.ask m)) = (.place none, g)) : Spared m b r f g := by
  have hasked := h.asked hb r
  rw [hnull] at hasked
  cases hasked with
  | starved hshared hnone =>
    refine ⟨⟨fun _ _ => rfl, rfl, fun _ _ => rfl, rfl⟩, .inl ⟨hshared, hnone⟩, ⟨b, hb, rfl, rfl⟩,
      fun _ => ⟨rfl, hb⟩, fun _ hsome => ?_⟩
    omega
  | @cramped t c e hc hdata hfits =>
    have hget : (((f.setStore t).setBuffer m c).fail e).buffers.get? m = some c :=
      (f.buffers.get?_put m m c).trans (if_pos rfl)
    obtain ⟨hregisters, hothers, hsame, -⟩ := touches_setBuffer hdata c
    refine ⟨⟨hregisters, hothers, hsame, rfl⟩, .inr hfits, ⟨c, hget, hc.window, hc.data⟩, ?_, ?_⟩
    · rintro (halone | hnone | hroom)
      · obtain ⟨rfl, rfl⟩ := hc.eq_of_alone halone
        exact ⟨rfl, hget⟩
      · cases hc with
        | alone _ => exact ⟨rfl, hget⟩
        | copied _ havailable _ => omega
      · exact absurd hroom hfits
    · exact fun hshared _ => ⟨c, hget, (hc.copied_of_shared hshared).2⟩

/-- In every state that a thread can bring about, a null pointer spares what there is, except that a
handle that had to be copied keeps the copy. -/
theorem spared_run (machine : Machine) {calls : List FlatCall} (hcalls : ∀ c ∈ calls, c.Proper)
    (hb : (Flat.run { machine } calls).buffers.get? m = some b)
    (hnull : (Flat.run { machine } calls).exec (.buffer (r.ask m)) = (.place none, g)) :
    Spared m b r (Flat.run { machine } calls) g :=
  (orderly_of_run machine hcalls).spared hb hnull

/-- A pool of two buffers: one that is shared, and one in use. -/
theorem spared_run_full :
    let calls : List FlatCall :=
      [.buffer (.createPool "p" (some [112]) 2 0 64 0 true), .buffer (.alloc "p" "m"),
        .buffer (.append "m" 10), .buffer (.clone "m" "c"), .buffer (.alloc "p" "other")]
    let f := Flat.run {} calls
    let g := (f.exec (.buffer (.adj "m" 4))).2
    (∀ c ∈ calls, c.Proper) ∧ Spared "m" ⟨0, 0, ⟨128, 10⟩⟩ (.adj 4) f g ∧ g.lastError = -105 := by
  intro calls f g
  have hcalls : ∀ c ∈ calls, c.Proper := by simp [calls, FlatCall.Proper]
  exact ⟨hcalls, spared_run {} hcalls rfl rfl, rfl⟩

/-- A shared buffer with no room for what is asked, in a pool that has a slot for a copy: the call
answers null, and has taken a slot, given up a hold of another, and moved the handle. -/
theorem not_kept_cramped :
    let f := Flat.run {} [.buffer (.createPool "p" (some [112]) 4 0 64 0 true),
      .buffer (.alloc "p" "m"), .buffer (.clone "m" "c")]
    let g := (f.exec (.buffer (.prepend "m" 200))).2
    (f.exec (.buffer (.prepend "m" 200))).1 = .place none ∧
      (f.exec (.buffer (.available "p"))).1 = .unsigned 3 ∧
      (g.exec (.buffer (.available "p"))).1 = .unsigned 2 ∧
      (f.exec (.buffer (.holders "c"))).1 = .unsigned 2 ∧
      (g.exec (.buffer (.holders "c"))).1 = .unsigned 1 ∧
      (f.exec (.use (.compare "m" "c"))).1 = .flag true ∧
      (g.exec (.use (.compare "m" "c"))).1 = .flag false :=
  ⟨rfl, rfl, rfl, rfl, rfl, rfl, rfl⟩

/-! ## A pointer -/

/-- Where in a pool a pointer points that lies behind the start of the data of a handle. -/
def pointer (s : Store) (b : Buffer) (distance : Nat) : Nat × UInt64 :=
  ((s.address b).1, (s.address b).2 + UInt64.ofNat distance)

/-- What a call for a pointer does that gives out one: it points `d` bytes behind the start of the
data of handle `b`, which is `c` now. -/
structure Opened (m : String) (b : Buffer) (r : Reach) (f : Flat) (d : Nat) (g : Flat)
    (c : Buffer) : Prop extends Touches m f g where
  register : g.buffers.get? m = some c
  error : g.lastError = f.lastError
  holders : (g.exec (.buffer (.holders m))).1 = .unsigned 1
  sole : ∀ o ∈ g.others m, o.place ≠ c.place
  pointer : pointer g.store c d =
    (c.pool, (g.store.pool c.pool).slotAddress c.slot + UInt64.ofNat (r.target b.window))
  headroom : c.window.headroom = r.headroom b.window
  size : c.window.size = r.size b.window
  slot : g.store.IsSlot c.place
  fits : g.store.Fits c
  shows : r.Shows (f.store.data b) (g.store.data c)
  alone : f.store.isShared b = false → g.store = f.store ∧ c.place = b.place
  shared : f.store.isShared b = true → Store.Relocated f.store b g.store c

theorem pointer_eq (s : Store) (b : Buffer) (distance : Nat) :
    pointer s b distance = (b.pool, (s.pool b.pool).slotAddress b.slot +
      UInt64.ofNat (b.window.headroom + distance)) := by
  have hoffset : b.window.offset.toUInt64 = UInt64.ofNat b.window.headroom := by
    rw [Window.headroom, UInt16.toUInt64]
    simp
  rw [pointer, Store.address, hoffset, UInt64.ofNat_add, UInt64.add_assoc]

theorem Orderly.opened (h : f.Orderly) (hb : f.buffers.get? m = some b)
    (hd : f.exec (.buffer (r.ask m)) = (.place (some d), g)) : ∃ c, Opened m b r f d g c := by
  have hasked := h.asked hb r
  rw [hd] at hasked
  cases hasked with
  | @opened t c e hc hdata hfits he hledger =>
    have hget : ((f.setStore t).setBuffer m e).buffers.get? m = some e :=
      (f.buffers.get?_put m m e).trans (if_pos rfl)
    have hplace : e.place = c.place := Prod.ext he.pool he.slot
    have hmem := Multiset.mem_cons_self e (f.others m)
    have hone : t.holders e = 1 := by
      have hsecured := hc.holders (h.ledger_of_get hb)
      rwa [Store.holders, ← he.pool, ← he.slot] at hsecured
    have htouches := touches_setBuffer hdata e
    refine ⟨e, htouches, hget, rfl, ?_, ?_, ?_, ?_, ?_, hledger.isSlot_of_mem hmem,
      hledger.fits e hmem, ?_, ?_, ?_⟩
    · have hreply : ((f.setStore t).setBuffer m e).store.holders e = 1 := hone
      simp only [Flat.exec, Flat.runBuffer, holders16, Flat.count16, hget, unsigned16, hreply]
      rfl
    · rw [htouches.others]
      exact fun o ho => hledger.unnamed_of_alone hone ho
    · rw [pointer_eq, ← hc.window, he.pointer]
    · rw [he.headroom, hc.window]
    · rw [he.size, hc.window]
    · have hshows := he.shows
      rw [hc.data] at hshows
      exact hshows
    · intro halone
      obtain ⟨rfl, rfl⟩ := hc.eq_of_alone halone
      exact ⟨rfl, hplace⟩
    · exact fun hshared => (hc.copied_of_shared hshared).2.of_place hplace

/-- In every state that a thread can bring about, a pointer is given out if there is room for the
move, and a slot for the copy if one is needed. It is into a slot that no other handle names, where
the window is after the move, and no other handle shows anything else. -/
theorem opened_run (machine : Machine) {calls : List FlatCall} (hcalls : ∀ c ∈ calls, c.Proper)
    (hb : (Flat.run { machine } calls).buffers.get? m = some b) (r : Reach) :
    let f := Flat.run { machine } calls
    ((∃ d g, f.exec (.buffer (r.ask m)) = (.place (some d), g)) ↔
      (f.store.isShared b = false ∨ 0 < (f.store.pool b.pool).available) ∧ r.Fits f.store b) ∧
    ∀ d g, f.exec (.buffer (r.ask m)) = (.place (some d), g) → ∃ c, Opened m b r f d g c := by
  have h := orderly_of_run machine hcalls
  exact ⟨h.exists_place_iff hb r, fun _ _ hd => h.opened hb hd⟩

/-- The first byte behind ten others, in a buffer that was shared. -/
theorem opened_run_shared :
    let calls : List FlatCall :=
      [.buffer (.createPool "p" (some [112]) 2 0 64 0 true), .buffer (.alloc "p" "m"),
        .buffer (.append "m" 10), .buffer (.clone "m" "c")]
    let f := Flat.run {} calls
    let g := (f.exec (.buffer (.append "m" 5))).2
    (∀ c ∈ calls, c.Proper) ∧
      (∃ c, Opened "m" ⟨0, 0, ⟨128, 10⟩⟩ (.append 5) f 10 g c) ∧
      g.buffers.get? "m" = some ⟨0, 1, ⟨128, 15⟩⟩ := by
  intro calls f g
  have hcalls : ∀ c ∈ calls, c.Proper := by simp [calls, FlatCall.Proper]
  have hplace : (f.exec (.buffer (.append "m" 5))).1 = .place (some 10) := by decide +kernel
  have hd : f.exec (.buffer (.append "m" 5)) = (.place (some 10), g) := by rw [← hplace]
  exact ⟨hcalls, (opened_run {} hcalls rfl (.append 5)).2 10 g hd, by decide +kernel⟩

end Flat
end Dataplane
