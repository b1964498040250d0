import Mathlib.Algebra.Order.Group.Multiset
import Dataplane.Port.Burst
import Dataplane.Port.Lifecycle
import Dataplane.Port.Registry

/-! # The parts of a fabric

What the basic operations do to each port and to each ring. Numbers of ports and rings that were
never made name an empty port and a ring without ends, which no operation changes.
-/
namespace Dataplane

theorem flatMap_modify {α β : Type} (g : α → List β) {l : List α} {i : Nat} {a : α}
    (h : l[i]? = some a) : ∃ rest : Multiset β, ↑(l.flatMap g) = ↑(g a) + rest ∧
      ∀ f : α → α, ↑((l.modify i f).flatMap g) = ↑(g (f a)) + rest := by
  induction l generalizing i with
  | nil => simp at h
  | cons x rest ih =>
    cases i with
    | zero =>
      obtain rfl : x = a := by simpa using h
      exact ⟨↑(rest.flatMap g), by simp, by simp⟩
    | succ i =>
      obtain ⟨others, hold, hnew⟩ := ih (by simpa using h)
      refine ⟨↑(g x) + others, ?_, fun f => ?_⟩
      · rw [List.flatMap_cons, ← Multiset.coe_add, hold, add_left_comm]
      · rw [List.modify_succ_cons, List.flatMap_cons, ← Multiset.coe_add, hnew, add_left_comm]

theorem filterMap_set {α β : Type} (g : α → Option β) {l : List α} {i : Nat} {a : α}
    (h : l[i]? = some a) : ∃ rest : Multiset β, ↑(l.filterMap g) = ↑(g a).toList + rest ∧
      ∀ b : α, ↑((l.set i b).filterMap g) = ↑(g b).toList + rest := by
  obtain ⟨rest, hold, hnew⟩ := flatMap_modify (fun a => (g a).toList) h
  refine ⟨rest, ?_, fun b => ?_⟩
  · rw [List.filterMap_eq_flatMap_toList]
    exact hold
  · have hset : l.set i b = l.modify i fun _ => b := by
      apply List.ext_getElem?
      intro j
      rw [List.getElem?_set', List.getElem?_modify]
      split <;> cases l[j]? <;> rfl
    rw [hset, List.filterMap_eq_flatMap_toList]
    exact hnew fun _ => b

theorem modify_of_size_le {α : Type} {xs : Array α} {i : Nat} (h : xs.size ≤ i) (f : α → α) :
    xs.modify i f = xs := by
  apply Array.ext_getElem?
  intro j
  rw [Array.getElem?_modify]
  split
  · rename_i hj
    rw [← hj, Array.getElem?_eq_none h]
    rfl
  · rfl

theorem modify_modify {α : Type} (xs : Array α) (i : Nat) (g k : α → α) :
    (xs.modify i g).modify i k = xs.modify i fun x => k (g x) := by
  apply Array.ext_getElem?
  intro j
  simp only [Array.getElem?_modify]
  split <;> cases xs[j]? <;> rfl

namespace Fabric

variable (f : Fabric)

@[simp] theorem store_updatePort (p : Nat) (g : Port → Port) :
    (f.updatePort p g).store = f.store := rfl
@[simp] theorem base_updatePort (p : Nat) (g : Port → Port) :
    (f.updatePort p g).base = f.base := rfl
@[simp] theorem rings_updatePort (p : Nat) (g : Port → Port) :
    (f.updatePort p g).rings = f.rings := rfl
@[simp] theorem ring_updatePort (p : Nat) (g : Port → Port) (r : Nat) :
    (f.updatePort p g).ring r = f.ring r := rfl
@[simp] theorem size_updatePort (p : Nat) (g : Port → Port) :
    (f.updatePort p g).ports.size = f.ports.size := Array.size_modify

@[simp] theorem store_updateRing (r : Nat) (g : Ring → Ring) :
    (f.updateRing r g).store = f.store := rfl
@[simp] theorem base_updateRing (r : Nat) (g : Ring → Ring) :
    (f.updateRing r g).base = f.base := rfl
@[simp] theorem ports_updateRing (r : Nat) (g : Ring → Ring) :
    (f.updateRing r g).ports = f.ports := rfl
@[simp] theorem size_updateRing (r : Nat) (g : Ring → Ring) :
    (f.updateRing r g).rings.size = f.rings.size := Array.size_modify

@[simp] theorem store_updateStore (g : Store → Store) : (f.updateStore g).store = g f.store := rfl
@[simp] theorem base_updateStore (g : Store → Store) : (f.updateStore g).base = f.base := rfl
@[simp] theorem rings_updateStore (g : Store → Store) : (f.updateStore g).rings = f.rings := rfl
@[simp] theorem ring_updateStore (g : Store → Store) (r : Nat) :
    (f.updateStore g).ring r = f.ring r := rfl
@[simp] theorem ports_updateStore (g : Store → Store) : (f.updateStore g).ports = f.ports := rfl

theorem port_of_size_le {p : Nat} (h : f.ports.size ≤ p) : f.port p = default := by
  simp [port, Array.getElem?_eq_none h]

theorem ring_of_size_le {r : Nat} (h : f.rings.size ≤ r) : f.ring r = default := by
  simp [ring, Array.getElem?_eq_none h]

theorem port_updatePort (p : Nat) (g : Port → Port) (q : Nat) :
    (f.updatePort p g).port q =
      if q = p ∧ q < f.ports.size then g (f.port q) else f.port q := by
  unfold updatePort port
  rw [Array.getD_eq_getD_getElem?, Array.getD_eq_getD_getElem?, Array.getElem?_modify]
  by_cases hq : q = p
  · subst q
    by_cases hp : p < f.ports.size
    · simp [hp]
    · simp [hp]
  · simp [hq, Ne.symm hq]

/-- What a change does to the ring with its number, if it leaves the ring without ends alone. -/
theorem ring_updateRing (r : Nat) {g : Ring → Ring} (hg : f.rings.size ≤ r → g default = default)
    (i : Nat) : (f.updateRing r g).ring i = if i = r then g (f.ring i) else f.ring i := by
  unfold updateRing ring
  rw [Array.getD_eq_getD_getElem?, Array.getD_eq_getD_getElem?, Array.getElem?_modify]
  by_cases hi : i = r
  · subst i
    by_cases hr : r < f.rings.size
    · simp [hr]
    · simp [hr, hg (Nat.le_of_not_lt hr)]
  · simp [hi, Ne.symm hi]

theorem updatePort_of_size_le {p : Nat} (h : f.ports.size ≤ p) (g : Port → Port) :
    f.updatePort p g = f := by
  unfold updatePort
  rw [modify_of_size_le h]

theorem updateRing_of_size_le {r : Nat} (h : f.rings.size ≤ r) (g : Ring → Ring) :
    f.updateRing r g = f := by
  unfold updateRing
  rw [modify_of_size_le h]

end Fabric

/-! ## The ends of rings -/

/-- A ring without its sending end. What nobody can fetch is dropped. -/
def Ring.loseProducer (x : Ring) : Ring :=
  { x with hasProducer := false, frames := if x.hasConsumer then x.frames else [] }

def Ring.loseConsumer (x : Ring) : Ring :=
  { x with hasConsumer := false, frames := if x.hasProducer then x.frames else [] }

theorem Ring.loseProducer_idem (x : Ring) : x.loseProducer.loseProducer = x.loseProducer := by
  simp only [loseProducer, Ring.mk.injEq, true_and, and_true]
  split <;> rfl

theorem Ring.loseConsumer_idem (x : Ring) : x.loseConsumer.loseConsumer = x.loseConsumer := by
  simp only [loseConsumer, Ring.mk.injEq, true_and, and_true]
  split <;> rfl

namespace Fabric

variable (f : Fabric)

theorem ring_settle (r i : Nat) : (f.settle r).ring i =
    if i = r ∧ ¬((f.ring r).hasProducer ∨ (f.ring r).hasConsumer) then
      { f.ring i with frames := [] }
    else f.ring i := by
  unfold settle
  dsimp only
  by_cases hends : ((f.ring r).hasProducer || (f.ring r).hasConsumer) = true
  · rw [if_pos hends, if_neg]
    rw [Bool.or_eq_true] at hends
    exact fun h => h.2 hends
  · rw [if_neg hends, ring_updateStore, ring_updateRing f r fun _ => rfl]
    rw [Bool.or_eq_true] at hends
    simp only [hends, not_false_eq_true, and_true]

theorem ring_dropProducer (r i : Nat) :
    (f.dropProducer r).ring i = if i = r then (f.ring i).loseProducer else f.ring i := by
  have hupdate := f.ring_updateRing r (g := fun x => { x with hasProducer := false }) fun _ => rfl
  unfold dropProducer
  rw [ring_settle, hupdate, hupdate, if_pos rfl]
  by_cases hi : i = r
  · subst i
    cases hc : (f.ring r).hasConsumer <;> simp [Ring.loseProducer, hc]
  · simp [hi]

theorem ring_dropConsumer (r i : Nat) :
    (f.dropConsumer r).ring i = if i = r then (f.ring i).loseConsumer else f.ring i := by
  have hupdate := f.ring_updateRing r (g := fun x => { x with hasConsumer := false }) fun _ => rfl
  unfold dropConsumer
  rw [ring_settle, hupdate, hupdate, if_pos rfl]
  by_cases hi : i = r
  · subst i
    cases hc : (f.ring r).hasProducer <;> simp [Ring.loseConsumer, hc]
  · simp [hi]

/-- Ports, their number and that of rings are not touched when ends are dropped. -/
structure SamePorts (f g : Fabric) : Prop where
  ports : g.ports = f.ports
  base : g.base = f.base
  size : g.rings.size = f.rings.size

theorem SamePorts.refl (f : Fabric) : SamePorts f f := ⟨rfl, rfl, rfl⟩

theorem SamePorts.trans {f g h : Fabric} (hg : SamePorts f g) (hh : SamePorts g h) :
    SamePorts f h :=
  ⟨hh.ports.trans hg.ports, hh.base.trans hg.base, hh.size.trans hg.size⟩

theorem SamePorts.port {f g : Fabric} (h : SamePorts f g) (p : Nat) : g.port p = f.port p := by
  unfold Fabric.port
  rw [h.ports]

theorem samePorts_updateRing (r : Nat) (g : Ring → Ring) : SamePorts f (f.updateRing r g) :=
  ⟨rfl, rfl, f.size_updateRing r g⟩

theorem samePorts_settle (r : Nat) : SamePorts f (f.settle r) := by
  unfold settle
  dsimp only
  split
  · exact .refl f
  · exact ⟨rfl, rfl, f.size_updateRing r _⟩

theorem samePorts_dropProducer (r : Nat) : SamePorts f (f.dropProducer r) :=
  (f.samePorts_updateRing r _).trans (samePorts_settle _ r)

theorem samePorts_dropConsumer (r : Nat) : SamePorts f (f.dropConsumer r) :=
  (f.samePorts_updateRing r _).trans (samePorts_settle _ r)

theorem samePorts_foldl {g : Fabric → Nat → Fabric} (hg : ∀ f r, SamePorts f (g f r))
    (rs : List Nat) : SamePorts f (rs.foldl g f) := by
  induction rs generalizing f with
  | nil => exact .refl f
  | cons r rest ih => exact (hg f r).trans (ih _)

theorem samePorts_dropEnds (rx : List (QueueEnd Nat)) (inbox : List Inbox) :
    SamePorts f (f.dropEnds rx inbox) :=
  (samePorts_foldl f samePorts_dropConsumer _).trans (samePorts_foldl _ samePorts_dropProducer _)

theorem ring_foldl {lose : Ring → Ring} (hidem : ∀ x, lose (lose x) = lose x)
    {g : Fabric → Nat → Fabric}
    (hg : ∀ f r i, (g f r).ring i = if i = r then lose (f.ring i) else f.ring i)
    (rs : List Nat) (i : Nat) :
    (rs.foldl g f).ring i = if i ∈ rs then lose (f.ring i) else f.ring i := by
  induction rs generalizing f with
  | nil => simp
  | cons r rest ih =>
    rw [List.foldl_cons, ih, hg]
    by_cases hi : i = r
    · subst i
      simp [hidem]
    · simp [hi]

theorem ring_dropEnds (rx : List (QueueEnd Nat)) (inbox : List Inbox) (i : Nat) :
    (f.dropEnds rx inbox).ring i =
      let x := if i ∈ rx.filterMap QueueEnd.parked? then (f.ring i).loseConsumer else f.ring i
      if i ∈ inbox.filterMap Inbox.producer then x.loseProducer else x := by
  unfold dropEnds
  dsimp only
  rw [ring_foldl _ Ring.loseProducer_idem ring_dropProducer,
    ring_foldl f Ring.loseConsumer_idem ring_dropConsumer]

theorem hasProducer_dropEnds (rx : List (QueueEnd Nat)) (inbox : List Inbox) (i : Nat) :
    ((f.dropEnds rx inbox).ring i).hasProducer =
      ((f.ring i).hasProducer && !decide (i ∈ inbox.filterMap Inbox.producer)) := by
  rw [ring_dropEnds]
  dsimp only
  split <;> split <;> simp_all [Ring.loseProducer, Ring.loseConsumer]

theorem hasConsumer_dropEnds (rx : List (QueueEnd Nat)) (inbox : List Inbox) (i : Nat) :
    ((f.dropEnds rx inbox).ring i).hasConsumer =
      ((f.ring i).hasConsumer && !decide (i ∈ rx.filterMap QueueEnd.parked?)) := by
  rw [ring_dropEnds]
  dsimp only
  split <;> split <;> simp_all [Ring.loseProducer, Ring.loseConsumer]

/-! ## Queue tables -/

end Fabric

def Port.cleared (x : Port) (rx tx : Nat) : Port :=
  { x with
    rx := List.replicate rx .absent
    tx := List.replicate tx .absent
    inbox := List.replicate rx {} }

def Port.withRing (x : Port) (q r : Nat) : Port :=
  { x with
    rx := x.rx.set q (.parked r)
    inbox := x.inbox.set q ⟨x.epoch + 1, some r⟩
    epoch := x.epoch + 1 }

namespace Fabric

variable (f : Fabric)

theorem resetQueues_eq (p rx tx : Nat) : f.resetQueues p rx tx =
    (f.updatePort p (·.cleared rx tx)).dropEnds (f.port p).rx (f.port p).inbox := rfl

theorem installRing_eq (p q capacity : Nat) : f.installRing p q capacity =
    ((f.addRing capacity).2.updatePort p (·.withRing q f.rings.size)).dropEnds
      (f.port p).rx[q]?.toList (f.port p).inbox[q]?.toList := rfl

/-- What a registry that is gone does with one of its ports. -/
def dissolve (inUse : Nat → Bool) (f : Fabric) (p : Nat) : Fabric :=
  if (f.port p).peer ≤ p then (f.abandon inUse p).abandon inUse (f.port p).peer else f

theorem renew_eq (inUse : Nat → Bool) : f.renew inUse =
    f.registered.foldl (dissolve inUse) { f with base := f.ports.size } := rfl

/-- When a registry goes, its ports are given up one after another. -/
theorem renew_of {P : Fabric → Prop} {inUse : Nat → Bool}
    (hbase : P { f with base := f.ports.size })
    (habandon : ∀ g p, P g → P (g.abandon inUse p)) : P (f.renew inUse) := by
  have hfold : ∀ (ps : List Nat) (g : Fabric), P g → P (ps.foldl (dissolve inUse) g) := by
    intro ps
    induction ps with
    | nil => exact fun g hg => hg
    | cons p rest ih =>
      refine fun g hg => ih _ ?_
      unfold dissolve
      split
      · exact habandon _ _ (habandon g p hg)
      · exact hg
  rw [renew_eq]
  exact hfold _ _ hbase

theorem ring_addRing (capacity i : Nat) : (f.addRing capacity).2.ring i =
    if i = f.rings.size then { capacity } else f.ring i := by
  unfold addRing ring
  rw [Array.getD_eq_getD_getElem?, Array.getD_eq_getD_getElem?, Array.getElem?_push]
  split <;> rfl

end Fabric
end Dataplane
