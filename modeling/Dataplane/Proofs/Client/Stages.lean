import Dataplane.Proofs.Client.Producers
import Dataplane.Proofs.Port.Ages

/-! # Stages, tables and handles

How the stage of a port, its tables, its link and the handles in the hands go together in every
reachable state. A receive handle is given back to a queue that still waits for it: while it is out,
no call replaces the ring behind it.
-/
namespace Dataplane

namespace Fabric

variable {f : Fabric} {p : Nat} {rxs : Multiset RxQueue} {txs : Multiset TxQueue}

theorem Ages.runPort (f : Fabric) (p : Nat) (c : PortCall) : Ages f (c.run f p).2 := by
  cases c with
  | configure rx tx config =>
    refine checked fun hok => renewTables ?_
    obtain ⟨hrx, htx⟩ := Port.configurable_counts hok
    exact .recount (Port.configurable_eq_ok hok)
      (fun hclosed => absurd hclosed (Port.configurable_stage hok)) rfl ⟨hrx, htx⟩ (by simp)
      ⟨by simpa [Port.cleared] using hrx, by simpa [Port.cleared] using htx⟩
  | setupRx q descriptors => exact checked fun _ => installRing f p q descriptors
  | setupTx q descriptors => exact checked fun _ => setPort f p fun x => x.life_setTx q _
  | start =>
    refine checked fun hok => updatePort f p ?_
    exact .restage (Port.startable_stage hok) (by simp) (fun _ => rfl) ⟨rfl, rfl⟩ ⟨rfl, rfl⟩
  | stop =>
    refine checked fun hok => updatePort f p ?_
    exact .restage (by simp [Port.stoppable_stage hok]) (by simp) (by simp) ⟨rfl, rfl⟩ ⟨rfl, rfl⟩
  | close =>
    refine checked fun hok => renewTables ?_
    exact .recount (Port.closable_eq_ok hok) (fun _ => rfl) rfl
      ⟨Nat.zero_le _, Nat.zero_le _⟩ (fun _ => ⟨rfl, rfl⟩) ⟨Nat.zero_le _, Nat.zero_le _⟩
  | setLink up =>
    refine checked fun hok => updatePort f p ?_
    have hstage := Port.linkable_stage hok
    exact .restage (by simp [hstage]) (by simp [hstage]) (fun _ => hstage) ⟨rfl, rfl⟩ ⟨rfl, rfl⟩
  | pauseRx q paused => exact checked fun _ => setPort f p fun _ => rfl
  | pauseTx q paused => exact checked fun _ => setPort f p fun _ => rfl
  | setMac mac => exact checked fun _ => setPort f p fun _ => rfl
  | setMtu mtu => exact checked fun _ => setPort f p fun _ => rfl
  | setPromiscuous on => exact setPort f p fun _ => rfl
  | resetStats => exact setPort f p fun _ => rfl

namespace Wired

variable (h : f.Wired rxs txs)
include h

theorem no_absent (hbase : f.base ≤ p) (hstage : (f.port p).stage = .started) :
    .absent ∉ (f.port p).rx ∧ .absent ∉ (f.port p).tx := by
  have hcounted := h.counted p hbase
  obtain ⟨hrx, htx⟩ := hcounted.ready hstage
  constructor
  · intro hmem
    obtain ⟨q, hq⟩ := List.mem_iff_getElem?.mp hmem
    have hlt := (List.getElem?_eq_some_iff.mp hq).1
    exact hrx q (hcounted.rx ▸ hlt) (Port.rxAt_eq hq)
  · intro hmem
    obtain ⟨q, hq⟩ := List.mem_iff_getElem?.mp hmem
    have hlt := (List.getElem?_eq_some_iff.mp hq).1
    exact htx q (hcounted.tx ▸ hlt) (Port.txAt_eq hq)

theorem rx_queue_lt {x : RxQueue} (hx : x ∈ rxs) : x.queue < (f.port x.port).rx.length :=
  (List.getElem?_eq_some_iff.mp (h.handed.putRx_eq hx).1).1

theorem tx_queue_lt {x : TxQueue} (hx : x ∈ txs) : x.queue < (f.port x.port).tx.length := by
  have hout := h.handed.tx_of_mem hx
  have hentry := Port.tx_of_txAt (x := f.port x.port) (q := x.queue) (by rw [hout]; simp)
  exact (List.getElem?_eq_some_iff.mp hentry).1

end Wired

theorem not_started_of_renews {c : PortCall} {q : Nat} (hc : c.Renews q)
    (hok : (c.run f p).1 = .ok ()) : (f.port p).stage ≠ .started := by
  cases c with
  | configure rx tx config => exact Port.configurable_eq_ok (checked_eq_ok hok).1
  | setupRx j descriptors => exact (Port.settable_eq_ok (checked_eq_ok hok).1).1
  | close => exact Port.closable_eq_ok (checked_eq_ok hok).1
  | _ => exact absurd hc id

end Fabric

namespace Client

open Fabric

variable {w : Client}

/-! ## All calls -/

theorem SameWiring.ages {w' : Client} (h : SameWiring w w') : Ages w.fabric w'.fabric := by
  obtain ⟨⟨s, hfabric⟩, -, -⟩ := h
  rw [hfabric]
  exact .of_life fun _ => rfl

theorem ages_callRegistry (w : Client) (c : RegistryCall) :
    Ages w.fabric (w.callRegistry c).fabric := by
  cases c with
  | createPair a b macA macB => exact .of_life (.createPair (fun _ _ _ _ => rfl) _ a b macA macB)
  | createLoopback name mac => exact .of_life (.createLoopback (fun _ _ _ _ => rfl) _ name mac)
  | renew => exact .renew _ _

theorem ages_callPort (w : Client) (p : Nat) (c : PortCall) :
    Ages w.fabric (w.callPort p c).fabric := by
  unfold Client.callPort
  split
  · exact .runPort _ p c
  · exact .refl _

theorem ages_callQueue (w : Client) (c : QueueCall) : Ages w.fabric (w.callQueue c).fabric := by
  refine w.callQueue_of (P := fun w' => Ages w.fabric w'.fabric) (.refl _)
    (fun p q _ => ?_) (fun p q _ => ?_) (fun x _ => ?_) (fun x _ => ?_)
    (fun x _ max => .of_life (.rxBurst Port.lasting_life _ x max))
    (fun x _ bs _ => .of_life (.txBurst Port.lasting_life _ x bs)) c
  · rw [takeRx_fabric]
    exact .of_life (.takeRx Port.lasting_life _ p q)
  · rw [takeTx_fabric]
    exact .of_life (.takeTx Port.lasting_life _ p q)
  · exact (Ages.putRx _ x).trans (.abandon _ _ _)
  · rw [putTx_fabric]
    exact ((Ages.putTx _ x).trans (.abandon _ _ _)).trans (.abandon _ _ _)

theorem ages_call (w : Client) (c : Call) : Ages w.fabric (w.call c).fabric := by
  cases c with
  | pool c => exact (SameWiring.callPool w c).ages
  | cache c => exact (SameWiring.callCache w c).ages
  | buffer b e => exact (SameWiring.callBuffer w b e).ages
  | registry c => exact w.ages_callRegistry c
  | port p c => exact w.ages_callPort p c
  | queue c => exact w.ages_callQueue c

theorem ages_callAll (calls : List Call) (w : Client) :
    Ages w.fabric (w.callAll calls).fabric := by
  induction calls generalizing w with
  | nil => exact .refl _
  | cons c rest ih => exact (w.ages_call c).trans (ih (w.call c))

def Staged (w : Client) : Prop := ∀ p, (w.fabric.port p).Staged

theorem Staged.call (h : w.Staged) (c : Call) : (w.call c).Staged :=
  fun p => (w.ages_call c p).staged (h p)

theorem staged_run (calls : List Call) : (run calls).Staged := by
  have hblank : (default : Port).Staged :=
    ⟨nofun, fun _ => ⟨rfl, rfl⟩, Nat.zero_le _, Nat.zero_le _, Nat.zero_le _, Nat.zero_le _⟩
  exact fun p => (ages_callAll calls {} p).staged hblank

/-! ## Order -/

/-- The ring of a receive handle goes back to where it came from, and nothing is lost by it. -/
structure GivesBack (w : Client) (x : RxQueue) : Prop where
  waiting : (w.fabric.port x.port).rxAt x.queue = .out
  newest : w.fabric.SoleProducer w.rxs w.txs x.port x.queue x.ring
  unreplaced : ∀ c, ¬w.Replaces c x.port x.queue
  entries : ∀ p q, ((w.fabric.putRx x).port p).rxAt q =
    if p = x.port ∧ q = x.queue then .parked x.ring else (w.fabric.port p).rxAt q
  rings : (w.fabric.putRx x).rings = w.fabric.rings

/-- How stages, tables and handles go together. -/
structure Orderly (w : Client) : Prop where
  rx_out : ∀ p q, rxHandles w.rxs p q = if (w.fabric.port p).rxAt q = .out then 1 else 0
  tx_out : ∀ p q, txHandles w.txs p q = if (w.fabric.port p).txAt q = .out then 1 else 0
  rx_started : ∀ x ∈ w.rxs, (w.fabric.port x.port).stage = .started
  tx_started : ∀ x ∈ w.txs, (w.fabric.port x.port).stage = .started
  link : ∀ p, (w.fabric.port p).linkUp = true → (w.fabric.port p).stage = .started
  ready : ∀ p, w.fabric.base ≤ p → (w.fabric.port p).stage = .started →
    .absent ∉ (w.fabric.port p).rx ∧ .absent ∉ (w.fabric.port p).tx
  lengths : ∀ p, w.fabric.base ≤ p →
    (w.fabric.port p).rx.length = (w.fabric.port p).rxCount ∧
    (w.fabric.port p).inbox.length = (w.fabric.port p).rxCount ∧
    (w.fabric.port p).tx.length = (w.fabric.port p).txCount
  counts : ∀ p, (w.fabric.port p).rxCount ≤ maxQueues ∧ (w.fabric.port p).txCount ≤ maxQueues
  empty : ∀ p, w.fabric.base ≤ p →
    (w.fabric.port p).stage = .unconfigured ∨ (w.fabric.port p).stage = .closed →
    (w.fabric.port p).rx = [] ∧ (w.fabric.port p).inbox = [] ∧ (w.fabric.port p).tx = []
  rx_index : ∀ x ∈ w.rxs, x.queue < (w.fabric.port x.port).rx.length ∧ x.queue < maxQueues
  tx_index : ∀ x ∈ w.txs, x.queue < (w.fabric.port x.port).tx.length ∧ x.queue < maxQueues
  rx_checked : ∀ p q, w.fabric.base ≤ p →
    (w.fabric.port p).checkQueue q (w.fabric.port p).rxCount = .ok () →
    q < (w.fabric.port p).rx.length ∧ q < (w.fabric.port p).inbox.length ∧ q < maxQueues
  tx_checked : ∀ p q, w.fabric.base ≤ p →
    (w.fabric.port p).checkQueue q (w.fabric.port p).txCount = .ok () →
    q < (w.fabric.port p).tx.length ∧ q < maxQueues
  closed : ∀ p, (w.fabric.port p).stage = .closed → ∀ calls,
    ((w.callAll calls).fabric.port p).stage = .closed
  putRx : ∀ x ∈ w.rxs, w.GivesBack x

theorem Wired.givesBack (h : w.Wired) {x : RxQueue} (hx : x ∈ w.rxs) : w.GivesBack x := by
  have hout := h.handed.rx_of_mem hx
  obtain ⟨hentry, heq⟩ := h.handed.putRx_eq hx
  refine ⟨hout, h.soleProducer (.inr hx), ?_, fun p q => ?_, ?_⟩
  · rintro c ⟨-, k, -, hk, hok⟩
    exact not_started_of_renews hk hok (h.handed.busy _ _ (.inl hout))
  · rw [heq, rxAt_updatePort hentry]
  · rw [heq, rings_updatePort]

theorem Wired.orderly (h : w.Wired) (hs : w.Staged) : w.Orderly where
  rx_out := h.handed.rx_out
  tx_out := h.handed.tx_out
  rx_started x hx := h.handed.busy _ _ (.inl (h.handed.rx_of_mem hx))
  tx_started x hx := h.handed.busy _ _ (.inr (h.handed.tx_of_mem hx))
  link p := (hs p).link
  ready p := h.no_absent
  lengths p hp := ⟨(h.counted p hp).rx, (h.counted p hp).inbox, (h.counted p hp).tx⟩
  counts p := ⟨(hs p).rxCount, (hs p).txCount⟩
  empty p hp hstage := by
    have hcounted := h.counted p hp
    obtain ⟨hrx, htx⟩ := (hs p).blank hstage
    exact ⟨List.eq_nil_of_length_eq_zero (hcounted.rx.trans hrx),
      List.eq_nil_of_length_eq_zero (hcounted.inbox.trans hrx),
      List.eq_nil_of_length_eq_zero (hcounted.tx.trans htx)⟩
  rx_index x hx := ⟨h.rx_queue_lt hx, (h.rx_queue_lt hx).trans_le (hs x.port).rx⟩
  tx_index x hx := ⟨h.tx_queue_lt hx, (h.tx_queue_lt hx).trans_le (hs x.port).tx⟩
  rx_checked p q hp hok := by
    have hq := Port.checkQueue_eq_ok hok
    have hcounted := h.counted p hp
    exact ⟨hcounted.rx ▸ hq, hcounted.inbox ▸ hq, hq.trans_le (hs p).rxCount⟩
  tx_checked p q hp hok := by
    have hq := Port.checkQueue_eq_ok hok
    exact ⟨(h.counted p hp).tx ▸ hq, hq.trans_le (hs p).txCount⟩
  closed p hclosed calls := (ages_callAll calls w p).closed hclosed
  putRx x hx := h.givesBack hx

/-- Whatever was called, a queue has a handle when its entry is out and not more than one, ports
with handles and ports with links that are up are started, started ports have all queues set up,
tables have the numbers of entries that go with the stage, no number of a queue in use is past
them, and what is closed stays closed. A receive handle given back puts its ring where it was. -/
theorem orderly_run (calls : List Call) : (run calls).Orderly :=
  (wired_run calls).orderly (staged_run calls)

end Client
end Dataplane
