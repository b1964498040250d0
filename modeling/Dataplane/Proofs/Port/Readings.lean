import Dataplane.Port.Burst
import Dataplane.Port.Registry
import Dataplane.Proofs.Port.Handles

/-! # What is read off ports

Handles that come and go and frames that move change the entries of the tables of a port and its
counters. What is read off a port and depends on neither is what it was. A new port reads as none
does if it has what is read from nobody.
-/
namespace Dataplane

variable {β : Type} {read : Port → β}

/-- What `read` reads depends neither on who has the ends of the queues nor on what is counted. -/
structure Port.Lasting (read : Port → β) : Prop where
  setRx : ∀ x q e, read (x.setRx q e) = read x
  setTx : ∀ x q e, read (x.setTx q e) = read x
  setInbox : ∀ x q i, read (x.setInbox q i) = read x
  stats : ∀ x stats, read { x with stats } = read x

namespace Fabric

/-- What `read` reads off the ports of `g` is what it reads off those of `f`. -/
def Agree (read : Port → β) (f g : Fabric) : Prop := ∀ i, read (g.port i) = read (f.port i)

namespace Agree

variable {f g h : Fabric}

theorem refl (f : Fabric) : Agree read f f := fun _ => rfl

theorem trans (hfg : Agree read f g) (hgh : Agree read g h) : Agree read f h :=
  fun i => (hgh i).trans (hfg i)

theorem of_samePorts (hfg : SamePorts f g) : Agree read f g := by
  intro i
  rw [hfg.port]

theorem updatePort (f : Fabric) (p : Nat) {k : Port → Port} (hk : ∀ x, read (k x) = read x) :
    Agree read f (f.updatePort p k) := read_updatePort read f p k hk

/-! ## New ports -/

section

variable (hnew : ∀ number name peer mac, read { number, name, peer, mac } = read default)
include hnew

theorem addPort (f : Fabric) (name : String) (peer : Nat) (mac : Mac) :
    Agree read f (f.addPort name peer mac) := by
  intro i
  unfold Fabric.addPort port
  rw [Array.getD_eq_getD_getElem?, Array.getD_eq_getD_getElem?, Array.getElem?_push]
  split
  · rename_i hi
    rw [hi, Array.getElem?_eq_none (Nat.le_refl _)]
    exact hnew _ _ _ _
  · rfl

theorem createPair (f : Fabric) (a b : String) (macA macB : Mac) :
    Agree read f (f.createPair a b macA macB).2 := by
  unfold Fabric.createPair
  dsimp only
  split
  · exact refl f
  · exact (addPort hnew f _ _ _).trans (addPort hnew _ _ _ _)

theorem createLoopback (f : Fabric) (name : String) (mac : Mac) :
    Agree read f (f.createLoopback name mac).2 := by
  unfold Fabric.createLoopback
  dsimp only
  split
  · exact refl f
  · exact addPort hnew f _ _ _

end

/-! ## Queues -/

variable (hread : Port.Lasting read)
include hread

theorem takeRx (f : Fabric) (p q : Nat) : Agree read f (f.takeRx p q).2 := by
  rcases f.takeRx_cases p q with ⟨r, -, -, heq⟩ | ⟨_, heq⟩
  · rw [heq]
    exact updatePort f p fun x => hread.setRx x q _
  · rw [heq]
    exact refl f

theorem takeTx (f : Fabric) (p q : Nat) : Agree read f (f.takeTx p q).2 := by
  rcases f.takeTx_cases p q with ⟨_, r, -, -, -, heq⟩ | ⟨_, heq⟩
  · rw [heq]
    exact (updatePort f p fun x => hread.setTx x q _).trans
      (updatePort _ _ fun x => hread.setInbox x q _)
  · rw [heq]
    exact refl f

theorem putRx (f : Fabric) (x : RxQueue) : Agree read f (f.putRx x) := by
  unfold Fabric.putRx
  split
  · exact updatePort f _ fun y => hread.setRx y _ _
  · exact of_samePorts (f.samePorts_dropConsumer x.ring)

theorem putTx (f : Fabric) (x : TxQueue) : Agree read f (f.putTx x) := by
  have hproducer : Agree read f (f.putProducer x) := read_putProducer read f x hread.setInbox
  unfold Fabric.putTx
  dsimp only
  split
  · exact hproducer.trans (updatePort _ _ fun y => hread.setTx y _ _)
  · exact hproducer

theorem rxBurst (f : Fabric) (x : RxQueue) (max : Nat) : Agree read f (f.rxBurst x max).2 := by
  unfold Fabric.rxBurst
  dsimp only
  split
  · exact refl f
  · exact updatePort ((f.updateRing _ _).updateStore _) x.port fun y => hread.stats y _

theorem txBurst (f : Fabric) (x : TxQueue) (bufs : List Buffer) :
    Agree read f (f.txBurst x bufs).2.2 := by
  unfold Fabric.txBurst
  dsimp only
  split
  · exact refl f
  · split
    · exact updatePort (f.updateStore _) x.port fun y => hread.stats y _
    · exact updatePort (f.updateRing _ _) x.port fun y => hread.stats y _

end Agree
end Fabric
end Dataplane
