import Dataplane.Proofs.Port.Ends

/-! # New ports

A registry makes ports alone or in pairs. New ports have empty tables and peers among themselves,
and to everything else it is as if they had always been there.
-/
namespace Dataplane
namespace Fabric

/-- From `f` to `g`, ports with empty tables were made. -/
structure Grows (f g : Fabric) : Prop where
  made : ∃ new : Array Port,
    (∀ x ∈ new, x.tables = { (default : Port).tables with peer := x.peer }) ∧
      g = { f with ports := f.ports ++ new }
  peer : ∀ i, f.ports.size ≤ i → i < g.ports.size →
    (g.port i).peer < g.ports.size ∧ (g.port (g.port i).peer).peer = i

namespace Grows

theorem refl (f : Fabric) : Grows f f where
  made := ⟨#[], fun x hx => absurd hx (Array.not_mem_empty x), by rw [Array.append_empty]⟩
  peer i hle hlt := absurd hlt (Nat.not_lt.mpr hle)

theorem createLoopback (f : Fabric) (name : String) (mac : Mac) :
    Grows f (f.createLoopback name mac).2 := by
  unfold Fabric.createLoopback
  dsimp only
  split
  · exact refl f
  · have hsize : (f.addPort name f.ports.size mac).ports.size = f.ports.size + 1 := by
      simp [addPort]
    have hlast : ((f.addPort name f.ports.size mac).port f.ports.size).peer = f.ports.size := by
      simp [addPort, port]
    refine ⟨⟨#[{ number := f.portCount, name, peer := f.ports.size, mac }],
      by simp [Port.tables, default], by simp [addPort]⟩, fun i hi hlt => ?_⟩
    dsimp only at hlt ⊢
    rw [hsize] at hlt ⊢
    obtain rfl : i = f.ports.size := by omega
    rw [hlast]
    exact ⟨Nat.lt_succ_self _, hlast⟩

theorem createPair (f : Fabric) (a b : String) (macA macB : Mac) :
    Grows f (f.createPair a b macA macB).2 := by
  unfold Fabric.createPair
  dsimp only
  split
  · exact refl f
  · generalize hg : (f.addPort a (f.ports.size + 1) macA).addPort b f.ports.size macB = g
    have hports : g.ports = f.ports ++
        #[{ number := f.portCount, name := a, peer := f.ports.size + 1, mac := macA },
          { number := (f.addPort a (f.ports.size + 1) macA).portCount, name := b,
            peer := f.ports.size, mac := macB }] := by
      rw [← hg]
      apply Array.toList_inj.mp
      simp [addPort]
    have hsize : g.ports.size = f.ports.size + 2 := by simp [hports]
    have hfirst : (g.port f.ports.size).peer = f.ports.size + 1 := by
      simp [port, hports]
    have hsecond : (g.port (f.ports.size + 1)).peer = f.ports.size := by
      simp [port, hports]
    have hfabric : g = { f with ports := g.ports } := by rw [← hg]; rfl
    rw [hports] at hfabric
    refine ⟨⟨_, by simp [Port.tables, default], hfabric⟩, fun i hi hlt => ?_⟩
    rw [hsize] at hlt ⊢
    obtain rfl | rfl : i = f.ports.size ∨ i = f.ports.size + 1 := by omega
    · rw [hfirst, hsecond]
      exact ⟨by omega, rfl⟩
    · rw [hsecond, hfirst]
      exact ⟨by omega, rfl⟩

variable {f g : Fabric} (h : Grows f g)
include h

theorem base : g.base = f.base := by
  obtain ⟨new, -, rfl⟩ := h.made
  rfl

theorem rings : g.rings = f.rings := by
  obtain ⟨new, -, rfl⟩ := h.made
  rfl

theorem ring (r : Nat) : g.ring r = f.ring r := by
  unfold Fabric.ring
  rw [h.rings]

theorem size_le : f.ports.size ≤ g.ports.size := by
  obtain ⟨new, -, rfl⟩ := h.made
  simp

theorem old {i : Nat} (hi : i < f.ports.size) : g.port i = f.port i := by
  obtain ⟨new, -, rfl⟩ := h.made
  simp [port, Array.getElem?_append, hi]

/-- Ports that were not there had empty tables, as the new ones have. -/
theorem tables (i : Nat) :
    (g.port i).tables = { (f.port i).tables with peer := (g.port i).peer } := by
  by_cases hi : i < f.ports.size
  · rw [h.old hi]
    rfl
  · obtain ⟨new, hblank, rfl⟩ := h.made
    rw [f.port_of_size_le (Nat.le_of_not_lt hi), port, Array.getD_eq_getD_getElem?,
      Array.getElem?_append_right (Nat.le_of_not_lt hi)]
    cases hx : new[i - f.ports.size]? with
    | none => rfl
    | some x => exact hblank x (Array.mem_of_getElem? hx)

theorem stage (i : Nat) : (g.port i).stage = (f.port i).stage :=
  congrArg Port.Tables.stage (h.tables i)

theorem epoch (i : Nat) : (g.port i).epoch = (f.port i).epoch :=
  congrArg Port.Tables.epoch (h.tables i)

theorem rxAt (i j : Nat) : (g.port i).rxAt j = (f.port i).rxAt j :=
  congrArg (·.rx.getD j .absent) (h.tables i)

theorem txAt (i j : Nat) : (g.port i).txAt j = (f.port i).txAt j :=
  congrArg (·.tx.getD j .absent) (h.tables i)

theorem inboxAt (i j : Nat) : (g.port i).inboxAt j = (f.port i).inboxAt j :=
  congrArg (·.inbox.getD j {}) (h.tables i)

theorem parkedProducers : g.parkedProducers = f.parkedProducers := by
  obtain ⟨new, hblank, rfl⟩ := h.made
  have hnone : new.toList.flatMap (fun p => p.inbox.filterMap Inbox.producer) = [] := by
    rw [List.flatMap_eq_nil_iff]
    intro x hx
    have hinbox : x.inbox = [] :=
      congrArg Port.Tables.inbox (hblank x (Array.mem_toList_iff.mp hx))
    rw [hinbox]
    rfl
  simp [Fabric.parkedProducers, hnone]

theorem parkedConsumers : g.parkedConsumers = f.parkedConsumers := by
  obtain ⟨new, hblank, rfl⟩ := h.made
  have hnone : new.toList.flatMap (fun p => p.rx.filterMap QueueEnd.parked?) = [] := by
    rw [List.flatMap_eq_nil_iff]
    intro x hx
    have hrx : x.rx = [] := congrArg Port.Tables.rx (hblank x (Array.mem_toList_iff.mp hx))
    rw [hrx]
    rfl
  simp [Fabric.parkedConsumers, hnone]

end Grows
end Fabric
end Dataplane
