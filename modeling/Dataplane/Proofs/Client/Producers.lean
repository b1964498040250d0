import Dataplane.Proofs.Client.Evolution
import Dataplane.Proofs.Port.Sole

/-! # Sending ends

In every reachable state the sending end of the ring behind a receive queue is in one place, and a
handle of a ring that was replaced never brings its end back, however often and by whatever calls
the ring was replaced. Epochs of a port only grow, so that an inbox that no longer has the epoch of
a handle never has it again.
-/
namespace Dataplane

namespace Fabric

variable {f g : Fabric} {p q r : Nat} {rxs rxs' : Multiset RxQueue} {txs : Multiset TxQueue}

theorem Evolves.epoch_ne {R : Nat → Nat → Prop} {e : Nat} (h : Evolves R f rxs g rxs')
    (hpos : 0 < e) (hle : e ≤ (f.port p).epoch) (hne : ((f.port p).inboxAt q).epoch ≠ e) :
    ((g.port p).inboxAt q).epoch ≠ e := by
  rcases h.renewed p q with hsame | hzero | hnew
  · rw [hsame]
    exact hne
  · omega
  · omega

theorem producer_abandon {inUse : Nat → Bool} {i : Nat}
    (h : (((f.abandon inUse i).port p).inboxAt q).producer = some r) :
    ((f.port p).inboxAt q).producer = some r := by
  unfold Fabric.abandon at h
  split at h
  · by_cases hi : i < f.ports.size
    · rw [port_resetQueues hi] at h
      split at h
      · rw [Port.inboxAt_cleared] at h
        cases h
      · exact h
    · rw [Wired.resetQueues_of_size_le (Nat.le_of_not_lt hi)] at h
      exact h
  · exact h

theorem inboxAt_emptied (hp : p < f.ports.size) (rx tx : Nat) {k : Port → Port}
    (hk : ∀ x, (k x).inbox = x.inbox) :
    (((f.resetQueues p rx tx).updatePort p k).port p).inboxAt q = {} := by
  rw [read_updatePort (·.inboxAt q) _ p k fun x => by simp only [Port.inboxAt, hk x],
    port_resetQueues hp, if_pos rfl, Port.inboxAt_cleared]

/-- Whatever takes the ring from a queue takes its epoch from the inbox. -/
theorem Wired.epoch_renewed (h : f.Wired rxs txs) (hbase : f.base ≤ p) (hp : p < f.ports.size)
    {c : PortCall} (hc : c.Renews q) (hok : (c.run f p).1 = .ok ()) :
    (((c.run f p).2.port p).inboxAt q).epoch = 0 ∨
      (f.port p).epoch < (((c.run f p).2.port p).inboxAt q).epoch := by
  cases c with
  | configure rx tx config =>
    left
    rw [PortCall.run, Fabric.configure, (checked_eq_ok hok).2, inboxAt_emptied hp rx tx]
    exact fun _ => rfl
  | setupRx j descriptors =>
    right
    obtain rfl : j = q := hc
    obtain ⟨hcheck, heq⟩ := checked_eq_ok hok
    obtain ⟨⟨i, hi⟩, -⟩ := (h.counted p hbase).entries (Port.settable_eq_ok hcheck).2
    rw [PortCall.run, Fabric.setupRx, heq, inboxAt_installRing hi, if_pos ⟨rfl, rfl⟩]
    exact Nat.lt_succ_self _
  | close =>
    left
    rw [PortCall.run, Fabric.close, (checked_eq_ok hok).2, inboxAt_emptied hp 0 0]
    exact fun _ => rfl
  | _ => exact absurd hc id

end Fabric

namespace Client

open Fabric

variable {w : Client}

/-- A call takes the ring from receive queue `q` of port `p`. -/
structure Replaces (w : Client) (c : Call) (p q : Nat) : Prop where
  port : w.IsPort p
  call : ∃ k : PortCall, c = .port p k ∧ k.Renews q ∧ (k.run w.fabric p).1 = .ok ()

/-- The end of the ring of a handle is gone when the handle is given back. -/
structure Discards (w : Client) (x : TxQueue) : Prop where
  gone : x.ring ∉ (w.putTx x).fabric.producers (w.putTx x).txs
  inbox : ∀ p q r, (((w.putTx x).fabric.port p).inboxAt q).producer = some r →
    ((w.fabric.port p).inboxAt q).producer = some r

theorem Wired.discards (h : w.Wired) {x : TxQueue} (hx : x ∈ w.txs)
    (hstale : ¬w.fabric.Reads w.rxs x.peer x.queue x.ring) : w.Discards x := by
  obtain ⟨hlost, hinbox⟩ := h.putTx_of_not_reads hx hstale
  have hlt := h.tx_ring_lt hx
  have howned := (h.putTx hx).owned
  rw [putTx_fabric] at howned
  constructor
  · rw [putTx_fabric]
    intro hmem
    have hkeeps := (Keeps.abandon (w.fabric.putTx x) (refersTo w.rxs (w.txs.erase x)) x.port).trans
      (.abandon _ (refersTo w.rxs (w.txs.erase x)) x.peer)
    have hend := hkeeps.hasProducer x.ring (hlt.trans_le (Keeps.putTx w.fabric x).size)
      (howned.producers.has_of_mem hmem)
    rw [hlost] at hend
    cases hend
  · intro p q r hr
    rw [putTx_fabric] at hr
    have hput := producer_abandon (producer_abandon hr)
    rw [Port.inboxAt, hinbox] at hput
    exact hput

/-- A handle whose ring was replaced is a handle of no ring that is read. -/
theorem Replaces.not_reads {c : Call} {x : TxQueue} (hc : w.Replaces c x.peer x.queue)
    (h : w.Wired) (hx : x ∈ w.txs) (more : List Call)
    (hheld : x ∈ ((w.call c).callAll more).txs) :
    ¬((w.call c).callAll more).fabric.Reads ((w.call c).callAll more).rxs
      x.peer x.queue x.ring := by
  obtain ⟨hpos, hle⟩ := h.fed.tx_epoch x hx
  have hfirst := evolves_call h c
  have hlater := evolves_callAll more (h.call c)
  have hne : (((w.call c).fabric.port x.peer).inboxAt x.queue).epoch ≠ x.epoch := by
    obtain ⟨hport, k, rfl, hk, hok⟩ := hc
    have hcall : (w.call (.port x.peer k)).fabric = (k.run w.fabric x.peer).2 := by
      simp only [Client.call, Client.callPort, if_pos hport]
    rw [hcall]
    rcases h.epoch_renewed hport.1 hport.2 hk hok with hzero | hnew
    · omega
    · omega
  intro hreads
  have hsame := (((h.call c).callAll more).tx_of_ring hreads hheld rfl).2.2
  exact hlater.epoch_ne hpos (hle.trans (hfirst.epoch _)) hne hsame.symm

/-- Where the sending ends are, and what may be done with them. -/
structure SoleProducers (w : Client) : Prop where
  sole : ∀ p q, (w.fabric.port p).rxAt q ≠ .absent →
    ∃ r, w.fabric.SoleProducer w.rxs w.txs p q r
  stale : ∀ x ∈ w.txs, ¬w.fabric.Reads w.rxs x.peer x.queue x.ring → w.Discards x
  takeTx : ∀ p q, w.IsPort p → (w.fabric.port p).stage = .started →
    q < (w.fabric.port p).txCount → ((∃ e, (w.fabric.takeTx p q).1 = .error e) ↔
      (∃ x ∈ w.txs, x.port = p ∧ x.queue = q) ∨
        (w.fabric.port (w.fabric.port p).peer).rxAt q = .absent)

theorem Wired.soleProducers (h : w.Wired) : w.SoleProducers where
  sole p q hset := by
    obtain ⟨r, hr⟩ := exists_reads h.handed hset
    exact ⟨r, h.soleProducer hr⟩
  stale x hx hstale := h.discards hx hstale
  takeTx p q hport hstage hq := h.takeTx_fails_iff hport.1 hstage hq

/-- Whatever was called, each installed ring has one sending end, with the inbox or with the one
handle of its epoch. A handle whose ring was replaced since, by whatever calls, parks nothing when
it is given back. A send handle can be taken unless it is out or there is no ring to feed. -/
theorem sole_producers_run (calls : List Call) :
    (run calls).SoleProducers ∧ ∀ before c more, calls = before ++ c :: more →
      ∀ x ∈ (run before).txs, (run before).Replaces c x.peer x.queue → x ∈ (run calls).txs →
        (run calls).Discards x := by
  refine ⟨(wired_run calls).soleProducers, ?_⟩
  rintro before c more rfl x hx hc hheld
  have hwired := wired_run (before ++ c :: more)
  refine hwired.discards hheld ?_
  rw [run_append] at hheld ⊢
  exact hc.not_reads (wired_run before) hx more hheld

/-- A handle of the first ring comes back when the second is in its place. -/
example : ((run [.registry (.createPair "a" "b" (.forwarding 1) (.forwarding 2)),
    .port 0 (.configure 1 1 {}), .port 0 (.setupRx 0 2), .port 0 (.setupTx 0 2),
    .port 1 (.configure 1 1 {}), .port 1 (.setupRx 0 2), .port 0 .start, .queue (.takeTx 0 0),
    .port 1 (.setupRx 0 2), .queue (.putTx ⟨0, 1, 0, 1, 1⟩)]).fabric.port 1).inbox =
      [⟨2, some 2⟩] := by
  decide +kernel

end Client
end Dataplane
