import Mathlib.Tactic.Abel
import Dataplane.Proofs.Pool.Allocation
import Dataplane.Proofs.Port.Parts

/-! # Frames in the ledger

The frames in all rings are live handles, as those in somebody's hands are. Operations on ports move
frames between hands and rings or drop them, and the ledger is kept.
-/
namespace Dataplane

namespace Fabric

variable (f : Fabric)

/-- The frames in all rings. -/
def inFlight : Multiset Buffer := ↑(f.rings.toList.flatMap Ring.frames)

@[simp] theorem inFlight_updatePort (p : Nat) (g : Port → Port) :
    (f.updatePort p g).inFlight = f.inFlight := rfl
@[simp] theorem inFlight_updateStore (g : Store → Store) :
    (f.updateStore g).inFlight = f.inFlight := rfl

theorem inFlight_updateRing (r : Nat) {g : Ring → Ring}
    (hg : f.rings.size ≤ r → (g default).frames = []) :
    ∃ rest, f.inFlight = ↑(f.ring r).frames + rest ∧
      (f.updateRing r g).inFlight = ↑(g (f.ring r)).frames + rest := by
  by_cases hr : f.rings.size ≤ r
  · refine ⟨f.inFlight, ?_, ?_⟩
    · rw [f.ring_of_size_le hr]
      exact (Multiset.zero_add _).symm
    · rw [f.ring_of_size_le hr, f.updateRing_of_size_le hr, hg hr]
      exact (Multiset.zero_add _).symm
  · have hlt : r < f.rings.size := Nat.lt_of_not_le hr
    have hentry : f.rings.toList[r]? = some (f.ring r) := by
      simp [ring, hlt]
    obtain ⟨rest, hold, hnew⟩ := flatMap_modify Ring.frames hentry
    refine ⟨rest, hold, ?_⟩
    rw [inFlight, updateRing, Array.toList_modify]
    exact hnew g

theorem inFlight_updateRing_of_frames (r : Nat) {g : Ring → Ring}
    (hg : ∀ x, (g x).frames = x.frames) : (f.updateRing r g).inFlight = f.inFlight := by
  obtain ⟨rest, hold, hnew⟩ := f.inFlight_updateRing r (g := g) fun _ => by rw [hg]; rfl
  rw [hold, hnew, hg]

theorem frames_le_inFlight (r : Nat) : ↑(f.ring r).frames ≤ f.inFlight := by
  obtain ⟨rest, hold, -⟩ := f.inFlight_updateRing r (g := fun x => x) fun _ => rfl
  rw [hold]
  exact Multiset.le_add_right _ rest

theorem mem_inFlight {r : Nat} {b : Buffer} (hb : b ∈ (f.ring r).frames) : b ∈ f.inFlight :=
  Multiset.mem_of_le (f.frames_le_inFlight r) hb

@[simp] theorem inFlight_addRing (capacity : Nat) :
    (f.addRing capacity).2.inFlight = f.inFlight := by
  simp [inFlight, addRing]

/-! ## The ledger of a fabric -/

/-- The ledger for handles in hands and frames in rings. -/
def Balanced (held : Multiset Buffer) (aside : Multiset Place) : Prop :=
  f.store.Ledger (held + f.inFlight) aside

namespace Balanced

variable {f : Fabric} {held : Multiset Buffer} {aside : Multiset Place}

theorem updatePort (h : f.Balanced held aside) (p : Nat) (g : Port → Port) :
    (f.updatePort p g).Balanced held aside := h

theorem updateRing (h : f.Balanced held aside) (r : Nat) {g : Ring → Ring}
    (hg : ∀ x, (g x).frames = x.frames) : (f.updateRing r g).Balanced held aside := by
  unfold Balanced
  rw [f.inFlight_updateRing_of_frames r hg]
  exact h

theorem addRing (h : f.Balanced held aside) (capacity : Nat) :
    (f.addRing capacity).2.Balanced held aside := by
  unfold Balanced
  rw [inFlight_addRing]
  exact h

theorem settle (h : f.Balanced held aside) (r : Nat) : (f.settle r).Balanced held aside := by
  unfold Fabric.settle
  dsimp only
  split
  · exact h
  · obtain ⟨rest, hold, hnew⟩ :=
      f.inFlight_updateRing r (g := fun ring => { ring with frames := [] }) fun _ => rfl
    unfold Balanced at h ⊢
    rw [inFlight_updateStore, hnew, Multiset.coe_nil, Multiset.zero_add]
    rw [hold, add_left_comm] at h
    exact h.dropAll

theorem dropProducer (h : f.Balanced held aside) (r : Nat) :
    (f.dropProducer r).Balanced held aside := by
  apply settle
  exact h.updateRing r fun _ => rfl

theorem dropConsumer (h : f.Balanced held aside) (r : Nat) :
    (f.dropConsumer r).Balanced held aside := by
  apply settle
  exact h.updateRing r fun _ => rfl

theorem foldl {g : Fabric → Nat → Fabric}
    (hg : ∀ {f : Fabric}, f.Balanced held aside → ∀ r, (g f r).Balanced held aside)
    (h : f.Balanced held aside) (rs : List Nat) : (rs.foldl g f).Balanced held aside := by
  induction rs generalizing f with
  | nil => exact h
  | cons r rest ih => exact ih (hg h r)

theorem dropEnds (h : f.Balanced held aside) (rx : List (QueueEnd Nat)) (inbox : List Inbox) :
    (f.dropEnds rx inbox).Balanced held aside :=
  foldl dropProducer (foldl dropConsumer h _) _

theorem resetQueues (h : f.Balanced held aside) (p rx tx : Nat) :
    (f.resetQueues p rx tx).Balanced held aside :=
  dropEnds (h.updatePort p _) _ _

theorem installRing (h : f.Balanced held aside) (p q capacity : Nat) :
    (f.installRing p q capacity).Balanced held aside :=
  dropEnds ((h.addRing capacity).updatePort p _) _ _

theorem abandon (h : f.Balanced held aside) (inUse : Nat → Bool) (p : Nat) :
    (f.abandon inUse p).Balanced held aside := by
  unfold Fabric.abandon
  split
  · exact h.resetQueues p 0 0
  · exact h

theorem renew (h : f.Balanced held aside) (inUse : Nat → Bool) :
    (f.renew inUse).Balanced held aside :=
  renew_of f (P := (·.Balanced held aside)) h fun _ p hg => hg.abandon inUse p

theorem checked {check : Except Fault Unit} {effect : Fabric → Fabric}
    (h : f.Balanced held aside) (heffect : (effect f).Balanced held aside) :
    (f.checked check effect).2.Balanced held aside := by
  unfold Fabric.checked
  split
  · exact h
  · exact heffect

/-! ## Handles and bursts -/

theorem takeRx (h : f.Balanced held aside) (p q : Nat) :
    (f.takeRx p q).2.Balanced held aside := by
  unfold Fabric.takeRx
  split
  · exact h
  · split
    · exact h.updatePort p _
    · exact h

theorem takeTx (h : f.Balanced held aside) (p q : Nat) :
    (f.takeTx p q).2.Balanced held aside := by
  unfold Fabric.takeTx
  split
  · exact h
  · split
    · dsimp only
      split
      · exact (h.updatePort p _).updatePort _ _
      · exact (h.updatePort p _).updatePort p _
    · exact h

theorem putRx (h : f.Balanced held aside) (x : RxQueue) : (f.putRx x).Balanced held aside := by
  unfold Fabric.putRx
  split
  · exact h.updatePort _ _
  · exact h.dropConsumer _

theorem putProducer (h : f.Balanced held aside) (x : TxQueue) :
    (f.putProducer x).Balanced held aside := by
  unfold Fabric.putProducer
  split
  · split
    · exact h.updatePort _ _
    · exact h.dropProducer _
  · exact h.dropProducer _

theorem putTx (h : f.Balanced held aside) (x : TxQueue) : (f.putTx x).Balanced held aside := by
  unfold Fabric.putTx
  dsimp only
  split
  · exact (h.putProducer x).updatePort _ _
  · exact h.putProducer x

end Balanced
end Fabric

theorem harvest_frames (judge : Buffer → Verdict) (max : Nat) (frames : List Buffer) :
    (frames : Multiset Buffer) = ↑(harvest judge max frames).delivered +
      (↑(harvest judge max frames).dropped + ↑(harvest judge max frames).rest) := by
  induction frames generalizing max with
  | nil => cases max <;> rfl
  | cons b rest ih =>
    cases max with
    | zero => simp [harvest]
    | succ max =>
      rw [harvest, ← Multiset.cons_coe]
      cases judge b with
      | deliver =>
        rw [ih max]
        simp only [← Multiset.cons_coe, Multiset.cons_add]
      | overlong =>
        rw [ih (max + 1)]
        simp only [← Multiset.cons_coe, Multiset.cons_add, Multiset.add_cons]
      | foreign =>
        rw [ih (max + 1)]
        simp only [← Multiset.cons_coe, Multiset.cons_add, Multiset.add_cons]

namespace Fabric.Balanced

variable {f : Fabric} {held : Multiset Buffer} {aside : Multiset Place}

theorem rxBurst (h : f.Balanced held aside) (x : RxQueue) (max : Nat) :
    (f.rxBurst x max).2.Balanced (↑(f.rxBurst x max).1 + held) aside := by
  unfold Fabric.rxBurst
  dsimp only
  split
  · simpa using h
  · generalize hgot : harvest ((f.port x.port).judge f.store) max (f.ring x.ring).frames = got
    have hframes := harvest_frames ((f.port x.port).judge f.store) max (f.ring x.ring).frames
    rw [hgot] at hframes
    have hrest : f.rings.size ≤ x.ring → got.rest = [] := by
      intro hr
      rw [f.ring_of_size_le hr] at hgot
      rw [← hgot]
      cases max <;> rfl
    obtain ⟨others, hold, hnew⟩ :=
      f.inFlight_updateRing x.ring (g := fun r => { r with frames := got.rest }) hrest
    apply updatePort
    unfold Balanced at h ⊢
    rw [inFlight_updateStore, hnew]
    apply Store.Ledger.dropAll
    have hsame : held + (↑got.delivered + (↑got.dropped + ↑got.rest) + others) =
        ↑got.dropped + (↑got.delivered + held + (↑got.rest + others)) := by abel
    rw [hold, hframes, hsame] at h
    exact h

theorem txBurst {bufs : List Buffer} (h : f.Balanced (↑bufs + held) aside) (x : TxQueue) :
    (f.txBurst x bufs).2.2.Balanced (↑(f.txBurst x bufs).2.1 + held) aside := by
  unfold Fabric.txBurst
  dsimp only
  split
  · exact h
  · split
    · apply updatePort
      unfold Balanced at h ⊢
      apply Store.Ledger.dropAll
      simpa [add_assoc] using h
    · generalize hn : min bufs.length (f.freeSlots x) = n
      have hnone : f.rings.size ≤ x.ring → bufs.take n = [] := by
        intro hr
        have hvacancy : f.freeSlots x = 0 := by
          rw [freeSlots, f.ring_of_size_le hr]
          rfl
        rw [← hn, hvacancy, Nat.min_zero, List.take_zero]
      obtain ⟨others, hold, hnew⟩ := f.inFlight_updateRing x.ring
        (g := fun r => { r with frames := r.frames ++ bufs.take n }) hnone
      apply updatePort
      unfold Balanced at h ⊢
      have hsplit : (bufs : Multiset Buffer) = ↑(bufs.take n) + ↑(bufs.drop n) := by
        rw [Multiset.coe_add, List.take_append_drop]
      have hsame : ↑(bufs.take n) + ↑(bufs.drop n) + held + (↑(f.ring x.ring).frames + others) =
          ↑(bufs.drop n) + held + (↑(f.ring x.ring).frames + ↑(bufs.take n) + others) := by abel
      rw [hold, hsplit, hsame] at h
      rw [hnew, ← Multiset.coe_add]
      exact h

end Fabric.Balanced
end Dataplane
