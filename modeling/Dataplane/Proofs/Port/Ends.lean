import Mathlib.Data.Multiset.Count
import Dataplane.Proofs.Port.Tables

/-! # Who owns the ends of rings

An end of a ring is parked in the table of a port or in the hands of a queue handle. Every ring has
as many owners of an end as it has ends of that kind: one, or none when the end is gone. Operations
pass ends from one owner to another, make both ends of a new ring, or drop ends with their owners.
-/
namespace Dataplane

/-- Each ring with an end has one owner of it, and a ring without one has none. -/
def Accounts (has : Nat → Bool) (owners : Multiset Nat) : Prop :=
  ∀ r, owners.count r = (has r).toNat

namespace Accounts

variable {has : Nat → Bool} {owners : Multiset Nat}

theorem congr {has' : Nat → Bool} {owners' : Multiset Nat} (h : Accounts has owners)
    (hhas : ∀ r, has' r = has r) (howners : owners' = owners) : Accounts has' owners' := by
  intro r
  rw [hhas, howners]
  exact h r

theorem drop {l : List Nat} (h : Accounts has (↑l + owners)) :
    Accounts (fun r => has r && !decide (r ∈ l)) owners := by
  intro r
  have hr := h r
  rw [Multiset.count_add, Multiset.coe_count] at hr
  by_cases hmem : r ∈ l
  · have hpos := List.count_pos_iff.mpr hmem
    have hle := (has r).toNat_le
    simp only [hmem, decide_true, Bool.not_true, Bool.and_false, Bool.toNat_false]
    omega
  · rw [List.count_eq_zero.mpr hmem, Nat.zero_add] at hr
    simp [hmem, hr]

theorem new {n : Nat} (h : Accounts has owners) (hn : has n = false) :
    Accounts (fun r => if r = n then true else has r) (n ::ₘ owners) := by
  intro r
  have hr := h r
  rw [Multiset.count_cons, hr]
  by_cases hrn : r = n
  · simp [hrn, hn]
  · simp [hrn]

theorem has_of_mem (h : Accounts has owners) {r : Nat} (hr : r ∈ owners) : has r = true := by
  have hpos := Multiset.count_pos.mpr hr
  rw [h r] at hpos
  cases hr' : has r with
  | true => rfl
  | false => simp [hr'] at hpos

theorem count_of_mem (h : Accounts has owners) {r : Nat} (hr : r ∈ owners) :
    owners.count r = 1 := by
  rw [h r, h.has_of_mem hr]
  rfl

theorem not_mem_of_mem {parked handles : Multiset Nat} (h : Accounts has (parked + handles))
    {r : Nat} (hr : r ∈ parked) : r ∉ handles := by
  intro hr'
  have hcount := h.count_of_mem (Multiset.mem_add.mpr (.inl hr))
  have hpos := Multiset.count_pos.mpr hr
  have hpos' := Multiset.count_pos.mpr hr'
  rw [Multiset.count_add] at hcount
  omega

end Accounts

namespace Fabric

def parkedProducers (f : Fabric) : Multiset Nat :=
  ↑(f.ports.toList.flatMap fun p => p.inbox.filterMap Inbox.producer)

def parkedConsumers (f : Fabric) : Multiset Nat :=
  ↑(f.ports.toList.flatMap fun p => p.rx.filterMap QueueEnd.parked?)

def producers (f : Fabric) (txs : Multiset TxQueue) : Multiset Nat :=
  f.parkedProducers + txs.map TxQueue.ring

def consumers (f : Fabric) (rxs : Multiset RxQueue) : Multiset Nat :=
  f.parkedConsumers + rxs.map RxQueue.ring

structure Owned (f : Fabric) (rxs : Multiset RxQueue) (txs : Multiset TxQueue) : Prop where
  producers : Accounts (fun r => (f.ring r).hasProducer) (f.producers txs)
  consumers : Accounts (fun r => (f.ring r).hasConsumer) (f.consumers rxs)

variable {f g : Fabric} {p q r : Nat} {rxs : Multiset RxQueue} {txs : Multiset TxQueue}

theorem parkedProducers_split (hp : p < f.ports.size) : ∃ rest,
    f.parkedProducers = ↑((f.port p).inbox.filterMap Inbox.producer) + rest ∧
      ∀ g, (f.updatePort p g).parkedProducers =
        ↑((g (f.port p)).inbox.filterMap Inbox.producer) + rest := by
  have hentry : f.ports.toList[p]? = some (f.port p) := by simp [port, hp]
  obtain ⟨rest, hold, hnew⟩ := flatMap_modify (fun p => p.inbox.filterMap Inbox.producer) hentry
  refine ⟨rest, hold, fun g => ?_⟩
  rw [parkedProducers, updatePort, Array.toList_modify]
  exact hnew g

theorem parkedConsumers_split (hp : p < f.ports.size) : ∃ rest,
    f.parkedConsumers = ↑((f.port p).rx.filterMap QueueEnd.parked?) + rest ∧
      ∀ g, (f.updatePort p g).parkedConsumers =
        ↑((g (f.port p)).rx.filterMap QueueEnd.parked?) + rest := by
  have hentry : f.ports.toList[p]? = some (f.port p) := by simp [port, hp]
  obtain ⟨rest, hold, hnew⟩ := flatMap_modify (fun p => p.rx.filterMap QueueEnd.parked?) hentry
  refine ⟨rest, hold, fun g => ?_⟩
  rw [parkedConsumers, updatePort, Array.toList_modify]
  exact hnew g

theorem parkedProducers_set {i : Inbox} (hi : (f.port p).inbox[q]? = some i) : ∃ rest,
    f.parkedProducers = ↑i.producer.toList + rest ∧
      ∀ j g, (g (f.port p)).inbox = (f.port p).inbox.set q j →
        (f.updatePort p g).parkedProducers = ↑j.producer.toList + rest := by
  obtain ⟨others, hold, hnew⟩ := parkedProducers_split (lt_size_of_inbox hi)
  obtain ⟨rest, hentry, hset⟩ := filterMap_set Inbox.producer hi
  refine ⟨rest + others, ?_, fun j g hg => ?_⟩
  · rw [hold, hentry, add_assoc]
  · rw [hnew, hg, hset, add_assoc]

theorem parkedConsumers_set {e : QueueEnd Nat} (he : (f.port p).rx[q]? = some e) : ∃ rest,
    f.parkedConsumers = ↑e.parked?.toList + rest ∧
      ∀ d g, (g (f.port p)).rx = (f.port p).rx.set q d →
        (f.updatePort p g).parkedConsumers = ↑d.parked?.toList + rest := by
  obtain ⟨others, hold, hnew⟩ := parkedConsumers_split (lt_size_of_rx he)
  obtain ⟨rest, hentry, hset⟩ := filterMap_set QueueEnd.parked? he
  refine ⟨rest + others, ?_, fun d g hg => ?_⟩
  · rw [hold, hentry, add_assoc]
  · rw [hnew, hg, hset, add_assoc]

theorem parkedProducers_updatePort (p : Nat) {g : Port → Port}
    (hg : ∀ x, (g x).inbox = x.inbox) : (f.updatePort p g).parkedProducers = f.parkedProducers := by
  by_cases hp : p < f.ports.size
  · obtain ⟨rest, hold, hnew⟩ := parkedProducers_split hp
    rw [hold, hnew, hg]
  · rw [updatePort_of_size_le f (Nat.le_of_not_lt hp)]

theorem parkedConsumers_updatePort (p : Nat) {g : Port → Port}
    (hg : ∀ x, (g x).rx = x.rx) : (f.updatePort p g).parkedConsumers = f.parkedConsumers := by
  by_cases hp : p < f.ports.size
  · obtain ⟨rest, hold, hnew⟩ := parkedConsumers_split hp
    rw [hold, hnew, hg]
  · rw [updatePort_of_size_le f (Nat.le_of_not_lt hp)]

/-- What all ports hold together depends on what each of them holds. -/
theorem flatMap_ports {α β : Type} (φ : Port → α) (k : α → List β)
    (hsize : g.ports.size = f.ports.size) (hφ : ∀ i, φ (g.port i) = φ (f.port i)) :
    g.ports.toList.flatMap (fun x => k (φ x)) = f.ports.toList.flatMap fun x => k (φ x) := by
  have hmap : g.ports.toList.map φ = f.ports.toList.map φ := by
    apply List.ext_getElem (by simp [hsize])
    intro i hg hf
    have hi := hφ i
    simp only [List.length_map, Array.length_toList] at hg hf
    simpa [port, hg, hf] using hi
  rw [← List.flatMap_map φ k, ← List.flatMap_map φ k, hmap]

theorem SameTables.parkedProducers (h : SameTables f g) :
    g.parkedProducers = f.parkedProducers :=
  congrArg Multiset.ofList (flatMap_ports Port.inbox (·.filterMap Inbox.producer) h.size h.inbox)

theorem SameTables.parkedConsumers (h : SameTables f g) :
    g.parkedConsumers = f.parkedConsumers :=
  congrArg Multiset.ofList (flatMap_ports Port.rx (·.filterMap QueueEnd.parked?) h.size h.rx)

theorem producers_updatePort (p : Nat) {g : Port → Port} (hg : ∀ x, (g x).inbox = x.inbox) :
    (f.updatePort p g).producers txs = f.producers txs := by
  rw [producers, parkedProducers_updatePort p hg, producers]

theorem consumers_updatePort (p : Nat) {g : Port → Port} (hg : ∀ x, (g x).rx = x.rx) :
    (f.updatePort p g).consumers rxs = f.consumers rxs := by
  rw [consumers, parkedConsumers_updatePort p hg, consumers]

namespace Owned

/-- Only what is parked and the ends of rings matter. -/
theorem of_parked (h : f.Owned rxs txs) (hproducers : g.parkedProducers = f.parkedProducers)
    (hconsumers : g.parkedConsumers = f.parkedConsumers)
    (hends : ∀ r, (g.ring r).hasProducer = (f.ring r).hasProducer ∧
      (g.ring r).hasConsumer = (f.ring r).hasConsumer) : g.Owned rxs txs where
  producers := h.producers.congr (fun r => (hends r).1) (by
    rw [Fabric.producers, hproducers, Fabric.producers])
  consumers := h.consumers.congr (fun r => (hends r).2) (by
    rw [Fabric.consumers, hconsumers, Fabric.consumers])

theorem updatePort (h : f.Owned rxs txs) (p : Nat) {g : Port → Port}
    (hrx : ∀ x, (g x).rx = x.rx) (hinbox : ∀ x, (g x).inbox = x.inbox) :
    (f.updatePort p g).Owned rxs txs :=
  h.of_parked (parkedProducers_updatePort p hinbox) (parkedConsumers_updatePort p hrx)
    fun _ => ⟨rfl, rfl⟩

theorem of_tables (h : f.Owned rxs txs) (hfg : SameTables f g) : g.Owned rxs txs :=
  h.of_parked hfg.parkedProducers hfg.parkedConsumers
    fun r => ⟨hfg.hasProducer r, hfg.hasConsumer r⟩

theorem dropEnds {rx : List (QueueEnd Nat)} {inbox : List Inbox}
    (hproducers : Accounts (fun r => (f.ring r).hasProducer)
      (↑(inbox.filterMap Inbox.producer) + f.producers txs))
    (hconsumers : Accounts (fun r => (f.ring r).hasConsumer)
      (↑(rx.filterMap QueueEnd.parked?) + f.consumers rxs)) :
    (f.dropEnds rx inbox).Owned rxs txs := by
  have hports := (f.samePorts_dropEnds rx inbox).ports
  constructor
  · refine hproducers.drop.congr (f.hasProducer_dropEnds rx inbox) ?_
    rw [Fabric.producers, parkedProducers, hports]
    rfl
  · refine hconsumers.drop.congr (f.hasConsumer_dropEnds rx inbox) ?_
    rw [Fabric.consumers, parkedConsumers, hports]
    rfl

theorem resetQueues (h : f.Owned rxs txs) (hp : p < f.ports.size) (rx tx : Nat) :
    (f.resetQueues p rx tx).Owned rxs txs := by
  obtain ⟨producers, hproducers, hnew⟩ := parkedProducers_split hp
  obtain ⟨consumers, hconsumers, hnew'⟩ := parkedConsumers_split hp
  have hold := h.producers
  have hold' := h.consumers
  rw [Fabric.producers, hproducers, add_assoc] at hold
  rw [Fabric.consumers, hconsumers, add_assoc] at hold'
  rw [resetQueues_eq]
  apply dropEnds
  · rw [Fabric.producers, hnew]
    simpa [Port.cleared] using hold
  · have hnone : (List.replicate rx QueueEnd.absent).filterMap (QueueEnd.parked? (α := Nat)) = [] :=
      List.filterMap_replicate_of_none rfl
    rw [Fabric.consumers, hnew', Port.cleared, hnone]
    simpa using hold'

/-- A new ring takes the place of an old one, whose ends are dropped if they are parked. -/
theorem installRing {i : Inbox} {e : QueueEnd Nat} (h : f.Owned rxs txs)
    (hi : (f.port p).inbox[q]? = some i) (he : (f.port p).rx[q]? = some e) (capacity : Nat) :
    (f.installRing p q capacity).Owned rxs txs := by
  obtain ⟨producers, hproducers, hnew⟩ := parkedProducers_set (f := (f.addRing capacity).2) hi
  obtain ⟨consumers, hconsumers, hnew'⟩ := parkedConsumers_set (f := (f.addRing capacity).2) he
  have hfresh := f.ring_of_size_le (Nat.le_refl _)
  have hold := h.producers.new (n := f.rings.size) (by rw [hfresh]; rfl)
  have hold' := h.consumers.new (n := f.rings.size) (by rw [hfresh]; rfl)
  rw [Fabric.producers, show f.parkedProducers = _ from hproducers] at hold
  rw [Fabric.consumers, show f.parkedConsumers = _ from hconsumers] at hold'
  rw [installRing_eq]
  apply dropEnds
  · refine hold.congr (fun r => ?_) ?_
    · rw [ring_updatePort, ring_addRing]
      split <;> rfl
    · rw [Fabric.producers, hnew ⟨_, some f.rings.size⟩ _ rfl, hi]
      cases hproducer : i.producer <;> simp [hproducer]
  · refine hold'.congr (fun r => ?_) ?_
    · rw [ring_updatePort, ring_addRing]
      split <;> rfl
    · rw [Fabric.consumers, hnew' (.parked f.rings.size) _ rfl, he]
      cases e <;> simp [QueueEnd.parked?]

/-- A handle takes a parked receiving end along. -/
theorem takeRx (h : f.Owned rxs txs) (hr : (f.port p).rx[q]? = some (.parked r)) :
    (f.updatePort p (·.setRx q .out)).Owned (⟨p, q, r⟩ ::ₘ rxs) txs := by
  obtain ⟨rest, hold, hnew⟩ := parkedConsumers_set hr
  refine ⟨h.producers.congr (fun _ => rfl) ?_, h.consumers.congr (fun _ => rfl) ?_⟩
  · exact producers_updatePort p fun _ => rfl
  · rw [Fabric.consumers, hnew .out _ rfl, Fabric.consumers, hold]
    simp [QueueEnd.parked?]

theorem parkRx {x : RxQueue} (h : f.Owned rxs txs) (hx : x ∈ rxs)
    (hout : (f.port x.port).rx[x.queue]? = some .out) :
    (f.updatePort x.port (·.setRx x.queue (.parked x.ring))).Owned (rxs.erase x) txs := by
  obtain ⟨rest, hold, hnew⟩ := parkedConsumers_set hout
  refine ⟨h.producers.congr (fun _ => rfl) ?_, h.consumers.congr (fun _ => rfl) ?_⟩
  · exact producers_updatePort _ fun _ => rfl
  · rw [Fabric.consumers, hnew (.parked x.ring) _ rfl, Fabric.consumers, hold,
      ← Multiset.cons_erase hx]
    simp [QueueEnd.parked?]

theorem takeTx {e : Nat} (h : f.Owned rxs txs) {peer : Nat}
    (hi : (f.port peer).inbox[q]? = some ⟨e, some r⟩) :
    (f.updatePort peer (·.setInbox q ⟨e, none⟩)).Owned rxs (⟨p, peer, q, r, e⟩ ::ₘ txs) := by
  obtain ⟨rest, hold, hnew⟩ := parkedProducers_set hi
  refine ⟨h.producers.congr (fun _ => rfl) ?_, h.consumers.congr (fun _ => rfl) ?_⟩
  · rw [Fabric.producers, hnew ⟨e, none⟩ _ rfl, Fabric.producers, hold]
    simp
  · exact consumers_updatePort _ fun _ => rfl

/-- A handle that is given back parks its sending end, or the end is dropped. -/
theorem putProducer {x : TxQueue} (h : f.Owned rxs txs) (hx : x ∈ txs) :
    (f.putProducer x).Owned rxs (txs.erase x) := by
  have hdrop : (f.dropProducer x.ring).Owned rxs (txs.erase x) := by
    have hports := f.samePorts_dropProducer x.ring
    have hproducers := h.producers
    rw [Fabric.producers, ← Multiset.cons_erase hx, Multiset.map_cons, ← Multiset.singleton_add,
      add_left_comm] at hproducers
    refine ⟨(hproducers.drop (l := [x.ring])).congr (fun r => ?_) ?_,
      h.consumers.congr (fun r => ?_) ?_⟩
    · rw [ring_dropProducer]
      by_cases hr : r = x.ring
      · simp [hr, Ring.loseProducer]
      · simp [hr]
    · rw [Fabric.producers, parkedProducers, hports.ports]
      rfl
    · rw [ring_dropProducer]
      split <;> rfl
    · rw [Fabric.consumers, parkedConsumers, hports.ports]
      rfl
  unfold Fabric.putProducer
  split
  · rename_i epoch hi
    split
    · obtain ⟨rest, hold, hnew⟩ := parkedProducers_set hi
      refine ⟨h.producers.congr (fun _ => rfl) ?_, h.consumers.congr (fun _ => rfl) ?_⟩
      · rw [Fabric.producers, hnew ⟨epoch, some x.ring⟩ _ rfl, Fabric.producers, hold,
          ← Multiset.cons_erase hx]
        simp
      · exact consumers_updatePort _ fun _ => rfl
    · exact hdrop
  · exact hdrop

end Owned
end Fabric
end Dataplane
