import Dataplane.Proofs.Client.Basic
import Dataplane.Proofs.Port.Evolution

/-! # What operations on ports and queues leave

A port keeps what it was made with: its number, its name, its peer and its socket. Pools get slots
back and lose none. So it is with every operation on ports, queues and rings except the making of
ports.
-/
namespace Dataplane

/-- What a port is made with and keeps. -/
structure Label where
  number : Nat
  name : String
  peer : Nat
  socket : Nat

def Port.label (x : Port) : Label := ⟨x.number, x.name, x.peer, x.socket⟩

namespace Fabric

/-- The ports of `g` are those of `f`, and are still what they were made as. -/
structure SameLabels (f g : Fabric) : Prop where
  base : g.base = f.base
  size : g.ports.size = f.ports.size
  label : ∀ i, (g.port i).label = (f.port i).label

namespace SameLabels

variable {f g h : Fabric}

theorem refl (f : Fabric) : SameLabels f f := ⟨rfl, rfl, fun _ => rfl⟩

theorem trans (hfg : SameLabels f g) (hgh : SameLabels g h) : SameLabels f h :=
  ⟨hgh.base.trans hfg.base, hgh.size.trans hfg.size, fun i => (hgh.label i).trans (hfg.label i)⟩

end SameLabels

/-- From `f` to `g`, nothing was done except to tables, settings and rings of ports, and some
handles to buffers were given up. -/
structure Upkeep (f g : Fabric) : Prop extends SameLabels f g where
  store : ∃ bs, g.store = f.store.dropAll bs

namespace Upkeep

variable {f g h : Fabric}

theorem of_ports (hports : g.ports = f.ports) (hbase : g.base = f.base)
    (hstore : ∃ bs, g.store = f.store.dropAll bs) : Upkeep f g where
  base := hbase
  size := congrArg Array.size hports
  label i := by
    unfold port
    rw [hports]
  store := hstore

theorem refl (f : Fabric) : Upkeep f f := of_ports rfl rfl ⟨[], rfl⟩

theorem trans (hfg : Upkeep f g) (hgh : Upkeep g h) : Upkeep f h where
  toSameLabels := hfg.toSameLabels.trans hgh.toSameLabels
  store := by
    obtain ⟨bs, hbs⟩ := hfg.store
    obtain ⟨cs, hcs⟩ := hgh.store
    refine ⟨bs ++ cs, ?_⟩
    rw [hcs, hbs, Store.dropAll, Store.dropAll, Store.dropAll, List.foldl_append]

theorem updatePort (f : Fabric) (p : Nat) {k : Port → Port} (hk : ∀ x, (k x).label = x.label) :
    Upkeep f (f.updatePort p k) where
  base := rfl
  size := f.size_updatePort p k
  label := read_updatePort Port.label f p k hk
  store := ⟨[], rfl⟩

theorem updateRing (f : Fabric) (r : Nat) (k : Ring → Ring) : Upkeep f (f.updateRing r k) :=
  of_ports rfl rfl ⟨[], rfl⟩

theorem dropAll (f : Fabric) (bs : List Buffer) : Upkeep f (f.updateStore (·.dropAll bs)) :=
  of_ports rfl rfl ⟨bs, rfl⟩

theorem settle (f : Fabric) (r : Nat) : Upkeep f (f.settle r) := by
  unfold Fabric.settle
  dsimp only
  split
  · exact refl f
  · exact (updateRing f r _).trans (dropAll _ _)

theorem dropProducer (f : Fabric) (r : Nat) : Upkeep f (f.dropProducer r) :=
  (updateRing f r _).trans (settle _ r)

theorem dropConsumer (f : Fabric) (r : Nat) : Upkeep f (f.dropConsumer r) :=
  (updateRing f r _).trans (settle _ r)

theorem foldl {α : Type} {k : Fabric → α → Fabric} (hk : ∀ f a, Upkeep f (k f a)) (f : Fabric)
    (as : List α) : Upkeep f (as.foldl k f) := by
  induction as generalizing f with
  | nil => exact refl f
  | cons a rest ih => exact (hk f a).trans (ih _)

theorem dropEnds (f : Fabric) (rx : List (QueueEnd Nat)) (inbox : List Inbox) :
    Upkeep f (f.dropEnds rx inbox) :=
  (foldl dropConsumer f _).trans (foldl dropProducer _ _)

theorem resetQueues (f : Fabric) (p rx tx : Nat) : Upkeep f (f.resetQueues p rx tx) :=
  (updatePort f p (k := (·.cleared rx tx)) fun _ => rfl).trans (dropEnds _ _ _)

theorem installRing (f : Fabric) (p q capacity : Nat) :
    Upkeep f (f.installRing p q capacity) := by
  have hadd : Upkeep f (f.addRing capacity).2 := of_ports rfl rfl ⟨[], rfl⟩
  have hset := updatePort (f.addRing capacity).2 p (k := (·.withRing q f.rings.size))
    fun _ => rfl
  exact hadd.trans (hset.trans (dropEnds _ _ _))

theorem checked {check : Except Fault Unit} {effect : Fabric → Fabric}
    (heffect : Upkeep f (effect f)) : Upkeep f (f.checked check effect).2 := by
  rcases checked_cases f check effect with ⟨-, heq⟩ | ⟨e, heq⟩
  · rw [heq]
    exact heffect
  · rw [heq]
    exact refl f

theorem runPort (f : Fabric) (p : Nat) (c : PortCall) : Upkeep f (c.run f p).2 := by
  cases c with
  | configure rx tx config =>
    exact checked ((resetQueues f p rx tx).trans (updatePort _ p fun _ => rfl))
  | setupRx q descriptors => exact checked (installRing f p q descriptors)
  | close => exact checked ((resetQueues f p 0 0).trans (updatePort _ p fun _ => rfl))
  | setPromiscuous on => exact updatePort f p fun _ => rfl
  | resetStats => exact updatePort f p fun _ => rfl
  | _ => exact checked (updatePort f p fun _ => rfl)

theorem takeRx (f : Fabric) (p q : Nat) : Upkeep f (f.takeRx p q).2 := by
  rcases f.takeRx_cases p q with ⟨r, -, -, heq⟩ | ⟨_, heq⟩
  · rw [heq]
    exact updatePort f p fun _ => rfl
  · rw [heq]
    exact refl f

theorem takeTx (f : Fabric) (p q : Nat) : Upkeep f (f.takeTx p q).2 := by
  rcases f.takeTx_cases p q with ⟨_, r, -, -, -, heq⟩ | ⟨_, heq⟩
  · rw [heq]
    exact (updatePort f p (k := (·.setTx q .out)) fun _ => rfl).trans
      (updatePort _ _ fun _ => rfl)
  · rw [heq]
    exact refl f

theorem putRx (f : Fabric) (x : RxQueue) : Upkeep f (f.putRx x) := by
  unfold Fabric.putRx
  split
  · exact updatePort f _ fun _ => rfl
  · exact dropConsumer f _

theorem putTx (f : Fabric) (x : TxQueue) : Upkeep f (f.putTx x) := by
  have hproducer : Upkeep f (f.putProducer x) := by
    rcases Fed.putProducer_cases f x with ⟨-, heq⟩ | ⟨-, heq⟩
    · rw [heq]
      exact updatePort f _ fun _ => rfl
    · rw [heq]
      exact dropProducer f _
  unfold Fabric.putTx
  dsimp only
  split
  · exact hproducer.trans (updatePort _ _ fun _ => rfl)
  · exact hproducer

theorem rxBurst (f : Fabric) (x : RxQueue) (max : Nat) : Upkeep f (f.rxBurst x max).2 := by
  unfold Fabric.rxBurst
  dsimp only
  split
  · exact refl f
  · exact ((updateRing f _ _).trans (dropAll _ _)).trans (updatePort _ _ fun _ => rfl)

theorem txBurst (f : Fabric) (x : TxQueue) (bufs : List Buffer) :
    Upkeep f (f.txBurst x bufs).2.2 := by
  unfold Fabric.txBurst
  dsimp only
  split
  · exact refl f
  · split
    · exact (dropAll f _).trans (updatePort _ _ fun _ => rfl)
    · exact (updateRing f _ _).trans (updatePort _ _ fun _ => rfl)

theorem abandon (f : Fabric) (inUse : Nat → Bool) (p : Nat) : Upkeep f (f.abandon inUse p) := by
  unfold Fabric.abandon
  split
  · exact resetQueues f p 0 0
  · exact refl f

end Upkeep

theorem base_renew (f : Fabric) (inUse : Nat → Bool) :
    (f.renew inUse).base = (f.renew inUse).ports.size := by
  refine renew_of f (P := fun g => g.base = g.ports.size) rfl ?_
  intro g p hg
  have hsame := Upkeep.abandon g inUse p
  rw [hsame.base, hsame.size, hg]

end Fabric
end Dataplane
