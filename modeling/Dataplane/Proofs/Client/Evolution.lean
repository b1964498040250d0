import Dataplane.Proofs.Client.Wiring
import Dataplane.Proofs.Port.Counters
import Dataplane.Proofs.Port.Evolution

/-! # What calls leave as it is

A receive queue is set up anew by calls of its own port, and lost when its registry is gone. All
other calls leave its ring and its epoch as they are, and all calls but bursts leave the frames of
a ring alone that somebody may still fetch, and count nothing.
-/
namespace Dataplane

/-- Whether a call of a port may take the ring from its receive queue `q`. -/
def PortCall.Renews (q : Nat) : PortCall → Prop
  | .configure _ _ _ => True
  | .setupRx j _ => j = q
  | .close => True
  | _ => False

def Call.Renews (p q : Nat) : Call → Prop
  | .port i c => i = p ∧ c.Renews q
  | .registry .renew => True
  | _ => False

namespace Fabric

variable {f : Fabric} {rxs : Multiset RxQueue} {txs : Multiset TxQueue} {p : Nat}

theorem Evolves.runPort {R : Nat → Nat → Prop} (h : f.Wired rxs txs) (hbase : f.base ≤ p)
    (c : PortCall) (hR : ∀ q, c.Renews q → R p q) :
    Evolves R f rxs (c.run f p).2 rxs := by
  have hset : ∀ (g : Fabric) {k : Port → Port},
      (∀ x, x.epoch ≤ (k x).epoch ∧ (k x).rx = x.rx ∧ (k x).inbox = x.inbox) →
      Evolves R g rxs (g.updatePort p k) rxs := fun g _ hk => updatePort g rxs p hk
  cases c with
  | configure rx tx config =>
    refine checked fun _ => (resetQueues (fun q => hR q trivial) rx tx).trans ?_
    exact hset _ fun _ => ⟨Nat.le_refl _, rfl, rfl⟩
  | setupRx q descriptors =>
    refine checked fun hok => ?_
    obtain ⟨⟨i, hi⟩, e, he⟩ := (h.counted p hbase).entries (Port.settable_eq_ok hok).2
    exact installRing (hR q rfl) hi he descriptors
  | setupTx q descriptors => exact checked fun _ => hset _ fun _ => ⟨Nat.le_refl _, rfl, rfl⟩
  | start => exact checked fun _ => hset _ fun _ => ⟨Nat.le_refl _, rfl, rfl⟩
  | stop => exact checked fun _ => hset _ fun _ => ⟨Nat.le_refl _, rfl, rfl⟩
  | close =>
    refine checked fun _ => (resetQueues (fun q => hR q trivial) 0 0).trans ?_
    exact hset _ fun _ => ⟨Nat.le_succ _, rfl, rfl⟩
  | setLink up => exact checked fun _ => hset _ fun _ => ⟨Nat.le_refl _, rfl, rfl⟩
  | pauseRx q paused => exact checked fun _ => hset _ fun _ => ⟨Nat.le_refl _, rfl, rfl⟩
  | pauseTx q paused => exact checked fun _ => hset _ fun _ => ⟨Nat.le_refl _, rfl, rfl⟩
  | setMac mac => exact checked fun _ => hset _ fun _ => ⟨Nat.le_refl _, rfl, rfl⟩
  | setMtu mtu => exact checked fun _ => hset _ fun _ => ⟨Nat.le_refl _, rfl, rfl⟩
  | setPromiscuous on => exact hset f fun _ => ⟨Nat.le_refl _, rfl, rfl⟩
  | resetStats => exact hset f fun _ => ⟨Nat.le_refl _, rfl, rfl⟩

theorem Keeps.runPort (f : Fabric) (p : Nat) (c : PortCall) : Keeps f (c.run f p).2 := by
  cases c with
  | configure rx tx config => exact checked ((resetQueues f p rx tx).trans (updatePort _ p _))
  | setupRx q descriptors => exact checked (installRing f p q descriptors)
  | setupTx q descriptors => exact checked (updatePort f p _)
  | start => exact checked (updatePort f p _)
  | stop => exact checked (updatePort f p _)
  | close => exact checked ((resetQueues f p 0 0).trans (updatePort _ p _))
  | setLink up => exact checked (updatePort f p _)
  | pauseRx q paused => exact checked (updatePort f p _)
  | pauseTx q paused => exact checked (updatePort f p _)
  | setMac mac => exact checked (updatePort f p _)
  | setMtu mtu => exact checked (updatePort f p _)
  | setPromiscuous on => exact updatePort f p _
  | resetStats => exact updatePort f p _

theorem Lasts.runPort (f : Fabric) (p : Nat) (c : PortCall) :
    Lasts (fun i => c = .resetStats ∧ i = p) f (c.run f p).2 := by
  have hset : ∀ (g : Fabric) {k : Port → Port},
      (∀ x, (k x).peer = x.peer ∧ (k x).stats = x.stats) →
      Lasts (fun i => c = .resetStats ∧ i = p) g (g.updatePort p k) :=
    fun g _ hk => updatePort g p hk
  cases c with
  | configure rx tx config =>
    exact checked ((resetQueues f p rx tx).trans (hset _ fun _ => ⟨rfl, rfl⟩))
  | setupRx q descriptors => exact checked (installRing f p q descriptors)
  | setupTx q descriptors => exact checked (hset f fun _ => ⟨rfl, rfl⟩)
  | start => exact checked (hset f fun _ => ⟨rfl, rfl⟩)
  | stop => exact checked (hset f fun _ => ⟨rfl, rfl⟩)
  | close => exact checked ((resetQueues f p 0 0).trans (hset _ fun _ => ⟨rfl, rfl⟩))
  | setLink up => exact checked (hset f fun _ => ⟨rfl, rfl⟩)
  | pauseRx q paused => exact checked (hset f fun _ => ⟨rfl, rfl⟩)
  | pauseTx q paused => exact checked (hset f fun _ => ⟨rfl, rfl⟩)
  | setMac mac => exact checked (hset f fun _ => ⟨rfl, rfl⟩)
  | setMtu mtu => exact checked (hset f fun _ => ⟨rfl, rfl⟩)
  | setPromiscuous on => exact hset f fun _ => ⟨rfl, rfl⟩
  | resetStats =>
    refine of_ports rfl (f.size_updatePort p _) (read_updatePort (·.peer) f p _ fun _ => rfl)
      fun i hi => congrArg Port.stats ?_
    exact (f.port_updatePort p _ i).trans (if_neg fun hip => hi ⟨rfl, hip.1⟩)

end Fabric

namespace Client

open Fabric

variable {w : Client}

/-! ## Queues -/

def Renewed (w : Client) (c : Call) (p q : Nat) : Prop := p < w.fabric.base ∨ c.Renews p q

theorem evolves_callRegistry (w : Client) (c : RegistryCall) :
    Evolves (w.Renewed (.registry c)) w.fabric w.rxs (w.callRegistry c).fabric
      (w.callRegistry c).rxs := by
  cases c with
  | createPair a b macA macB => exact .grow (.createPair _ a b macA macB)
  | createLoopback name mac => exact .grow (.createLoopback _ name mac)
  | renew => exact .renew _ _ _ fun _ _ => .inr trivial

theorem evolves_callPort (h : w.Wired) (p : Nat) (c : PortCall) :
    Evolves (w.Renewed (.port p c)) w.fabric w.rxs (w.callPort p c).fabric
      (w.callPort p c).rxs := by
  unfold Client.callPort
  split
  · rename_i hport
    exact .runPort h hport.1 c fun q hq => .inr ⟨rfl, hq⟩
  · exact .refl _ _ _

theorem evolves_callQueue (h : w.Wired) (c : QueueCall) :
    Evolves (w.Renewed (.queue c)) w.fabric w.rxs (w.callQueue c).fabric
      (w.callQueue c).rxs := by
  have hgone : ∀ p q, p < w.fabric.base → w.Renewed (.queue c) p q := fun _ _ hp => .inl hp
  have hstay := Evolves.refl (w.Renewed (.queue c)) w.fabric w.rxs
  refine w.callQueue_of (P := fun w' => Evolves _ w.fabric w.rxs w'.fabric w'.rxs) hstay
    (fun p q _ => ?_) (fun p q _ => ?_) (fun x hx => ?_) (fun x _ => ?_)
    (fun x _ max => .of_tables (sameTables_rxBurst _ x max))
    (fun x _ bs _ => .of_tables (sameTables_txBurst _ x bs)) c
  · rcases w.takeRx_cases p q with ⟨r, -, hr, heq⟩ | heq
    · rw [heq]
      exact .takeRx hr
    · rw [heq]
      exact hstay
  · rcases w.takeTx_cases p q with ⟨e, r, -, -, hi, heq⟩ | heq
    · rw [heq]
      exact .takeTx hi none
    · rw [heq]
      exact hstay
  · exact (Evolves.putRx h.handed hx).abandon hgone _ _
  · rw [putTx_fabric, putTx_rxs]
    exact ((Evolves.putTx _ _ x).abandon hgone _ _).abandon hgone _ _

theorem SameWiring.evolves {w' : Client} (h : SameWiring w w') (R : Nat → Nat → Prop) :
    Evolves R w.fabric w.rxs w'.fabric w'.rxs := by
  obtain ⟨⟨s, hfabric⟩, hrxs, -⟩ := h
  rw [hfabric, hrxs]
  exact .of_tables (sameTables_updateStore _ _)

theorem evolves_call (h : w.Wired) (c : Call) :
    Evolves (w.Renewed c) w.fabric w.rxs (w.call c).fabric (w.call c).rxs := by
  cases c with
  | pool c => exact (SameWiring.callPool w c).evolves _
  | cache c => exact (SameWiring.callCache w c).evolves _
  | buffer b e => exact (SameWiring.callBuffer w b e).evolves _
  | registry c => exact evolves_callRegistry w c
  | port p c => exact evolves_callPort h p c
  | queue c => exact evolves_callQueue h c

/-- Whatever is called, only queues of ports that are gone and queues that calls were about are set
up anew. -/
theorem evolves_callAll (calls : List Call) (h : w.Wired) :
    Evolves (fun p q => p < w.fabric.base ∨ ∃ c ∈ calls, c.Renews p q) w.fabric w.rxs
      (w.callAll calls).fabric (w.callAll calls).rxs := by
  induction calls generalizing w with
  | nil => exact .refl _ _ _
  | cons c rest ih =>
    have hfirst := evolves_call h c
    have hrest := ih (h.call c)
    refine (hfirst.mono fun p q hpq => ?_).trans (hrest.mono fun p q hpq => ?_)
    · exact hpq.imp_right fun hc => ⟨c, List.mem_cons_self, hc⟩
    · by_contra hnone
      rcases hpq with hbase | ⟨d, hd, hrenews⟩
      · have hold := hfirst.base p q fun hpq => hnone <|
          hpq.imp_right fun hc => ⟨c, List.mem_cons_self, hc⟩
        exact Nat.not_lt.mpr (hold (Nat.le_of_not_lt fun hlt => hnone (.inl hlt))) hbase
      · exact hnone (.inr ⟨d, List.mem_cons_of_mem c hd, hrenews⟩)

/-! ## Rings -/

theorem SameWiring.keeps {w' : Client} (h : SameWiring w w') : Keeps w.fabric w'.fabric := by
  obtain ⟨⟨s, hfabric⟩, -, -⟩ := h
  rw [hfabric]
  exact .of_rings rfl

theorem keeps_callRegistry (w : Client) (c : RegistryCall) :
    Keeps w.fabric (w.callRegistry c).fabric := by
  cases c with
  | createPair a b macA macB => exact .grow (.createPair _ a b macA macB)
  | createLoopback name mac => exact .grow (.createLoopback _ name mac)
  | renew => exact .renew _ _

theorem keeps_callPort (w : Client) (p : Nat) (c : PortCall) :
    Keeps w.fabric (w.callPort p c).fabric := by
  unfold Client.callPort
  split
  · exact .runPort _ p c
  · exact .refl _

theorem keeps_takeRx (w : Client) (p q : Nat) : Keeps w.fabric (w.takeRx p q).fabric := by
  rcases w.takeRx_cases p q with ⟨r, -, -, heq⟩ | heq
  · rw [heq]
    exact .updatePort _ p _
  · rw [heq]
    exact .refl _

theorem keeps_takeTx (w : Client) (p q : Nat) : Keeps w.fabric (w.takeTx p q).fabric := by
  rcases w.takeTx_cases p q with ⟨e, r, -, -, -, heq⟩ | heq
  · rw [heq]
    exact (Keeps.updatePort _ p _).trans (.updatePort _ _ _)
  · rw [heq]
    exact .refl _

theorem keeps_putRx (w : Client) (x : RxQueue) : Keeps w.fabric (w.putRx x).fabric :=
  (Keeps.putRx _ x).trans (.abandon _ _ _)

theorem keeps_putTx (w : Client) (x : TxQueue) : Keeps w.fabric (w.putTx x).fabric := by
  rw [putTx_fabric]
  exact ((Keeps.putTx _ x).trans (.abandon _ _ _)).trans (.abandon _ _ _)

/-! ## Counters -/

theorem SameWiring.lasts {w' : Client} (h : SameWiring w w') (R : Nat → Prop) :
    Lasts R w.fabric w'.fabric := by
  obtain ⟨⟨s, hfabric⟩, -, -⟩ := h
  rw [hfabric]
  exact .of_tables (sameTables_updateStore _ _) fun _ _ => rfl

theorem lasts_callRegistry (w : Client) (c : RegistryCall) (R : Nat → Prop) :
    Lasts R w.fabric (w.callRegistry c).fabric := by
  cases c with
  | createPair a b macA macB => exact .createPair _ a b macA macB
  | createLoopback name mac => exact .createLoopback _ name mac
  | renew => exact .renew _ _

theorem lasts_callPort (w : Client) (p : Nat) (c : PortCall) :
    Lasts (fun i => c = .resetStats ∧ i = p) w.fabric (w.callPort p c).fabric := by
  unfold Client.callPort
  split
  · exact .runPort _ p c
  · exact .refl _

theorem lasts_takeRx (w : Client) (p q : Nat) (R : Nat → Prop) :
    Lasts R w.fabric (w.takeRx p q).fabric := by
  rcases w.takeRx_cases p q with ⟨r, -, -, heq⟩ | heq
  · rw [heq]
    exact .updatePort _ p fun _ => ⟨rfl, rfl⟩
  · rw [heq]
    exact .refl _

theorem lasts_takeTx (w : Client) (p q : Nat) (R : Nat → Prop) :
    Lasts R w.fabric (w.takeTx p q).fabric := by
  rcases w.takeTx_cases p q with ⟨e, r, -, -, -, heq⟩ | heq
  · rw [heq]
    exact (Lasts.updatePort _ p (k := (·.setTx q .out)) fun _ => ⟨rfl, rfl⟩).trans
      (.updatePort _ _ fun _ => ⟨rfl, rfl⟩)
  · rw [heq]
    exact .refl _

theorem lasts_putTx (w : Client) (x : TxQueue) (R : Nat → Prop) :
    Lasts R w.fabric (w.putTx x).fabric := by
  rw [putTx_fabric]
  exact ((Lasts.putTx _ x).trans (.abandon _ _ _)).trans (.abandon _ _ _)

/-! ## Bursts and other calls -/

/-- What a call does to rings and counters if it is not a burst. -/
structure Quiet (w : Client) (c : Call) : Prop where
  idle : ∀ k, c = .queue k → ¬w.Bursts k
  keeps : Keeps w.fabric (w.call c).fabric
  lasts : Lasts (fun p => c = .port p .resetStats) w.fabric (w.call c).fabric

theorem Quiet.of_sameWiring {c : Call} (h : SameWiring w (w.call c))
    (hidle : ∀ k, c = .queue k → ¬w.Bursts k) : w.Quiet c :=
  ⟨hidle, h.keeps, h.lasts _⟩

/-- Frames are moved, and counted, by bursts only. -/
theorem quiet_or_burst (w : Client) (c : Call) : w.Quiet c ∨
    (∃ x ∈ w.rxs, ∃ max, c = .queue (.receive x max) ∧ w.call c = w.receive x max) ∨
    ∃ x ∈ w.txs, ∃ bs : List Buffer, ↑bs ≤ w.buffers ∧ c = .queue (.send x bs) ∧
      w.call c = w.send x bs := by
  cases c with
  | pool c => exact .inl (.of_sameWiring (.callPool w c) fun k heq => by cases heq)
  | cache c => exact .inl (.of_sameWiring (.callCache w c) fun k heq => by cases heq)
  | buffer b e => exact .inl (.of_sameWiring (.callBuffer w b e) fun k heq => by cases heq)
  | registry c =>
    refine .inl ⟨fun k heq => ?_, keeps_callRegistry w c, lasts_callRegistry w c _⟩
    cases heq
  | port p c =>
    refine .inl ⟨fun k heq => ?_, keeps_callPort w p c, (lasts_callPort w p c).mono fun i hi => ?_⟩
    · cases heq
    · rw [hi.1, hi.2]
  | queue c =>
    rcases w.callQueue_cases (P := fun w' => Keeps w.fabric w'.fabric ∧
        Lasts (fun p => Call.queue c = .port p .resetStats) w.fabric w'.fabric)
      ⟨.refl _, .refl _⟩ (fun p q _ => ⟨keeps_takeRx w p q, lasts_takeRx w p q _⟩)
      (fun p q _ => ⟨keeps_takeTx w p q, lasts_takeTx w p q _⟩)
      (fun x _ => ⟨keeps_putRx w x, (Lasts.putRx _ x).trans (.abandon _ _ _)⟩)
      (fun x _ => ⟨keeps_putTx w x, lasts_putTx w x _⟩) c
      with ⟨hidle, hkeeps, hlasts⟩ | ⟨x, hx, max, rfl, heq⟩ | ⟨x, hx, bs, hbs, rfl, heq⟩
    · refine .inl ⟨fun k heq => ?_, hkeeps, hlasts⟩
      cases heq
      exact hidle
    · exact .inr (.inl ⟨x, hx, max, rfl, heq⟩)
    · exact .inr (.inr ⟨x, hx, bs, hbs, rfl, heq⟩)

/-! ## Rings without readers -/

theorem size_call (w : Client) (c : Call) :
    w.fabric.rings.size ≤ (w.call c).fabric.rings.size := by
  rcases w.quiet_or_burst c with hquiet | ⟨x, -, max, -, heq⟩ | ⟨x, -, bs, -, -, heq⟩
  · exact hquiet.keeps.size
  · rw [heq]
    exact (w.fabric.size_rxBurst x max).ge
  · rw [heq]
    exact (w.fabric.size_txBurst x bs).ge

theorem hasConsumer_call (hr : r < w.fabric.rings.size)
    (hconsumer : (w.fabric.ring r).hasConsumer = false) :
    ((w.call c).fabric.ring r).hasConsumer = false := by
  rcases w.quiet_or_burst c with hquiet | ⟨x, -, max, -, heq⟩ | ⟨x, -, bs, -, -, heq⟩
  · rw [Bool.eq_false_iff]
    intro hafter
    rw [hquiet.keeps.hasConsumer r hr hafter] at hconsumer
    cases hconsumer
  · rw [heq]
    exact ((sameTables_rxBurst _ x max).hasConsumer r).trans hconsumer
  · rw [heq]
    exact ((sameTables_txBurst _ x bs).hasConsumer r).trans hconsumer

/-- A ring that nobody reads is never read again. -/
theorem hasConsumer_callAll (calls : List Call) (hr : r < w.fabric.rings.size)
    (hconsumer : (w.fabric.ring r).hasConsumer = false) :
    ((w.callAll calls).fabric.ring r).hasConsumer = false := by
  induction calls generalizing w with
  | nil => exact hconsumer
  | cons c rest ih => exact ih (hr.trans_le (w.size_call c)) (hasConsumer_call hr hconsumer)

end Client
end Dataplane
