import Dataplane.Proofs.Client.Accounting
import Dataplane.Proofs.Client.Stages
import Dataplane.Proofs.Client.Upkeep
import Dataplane.Proofs.Port.Behind
import Dataplane.Proofs.Port.Bursts

/-! # Closing a port

A port that is closed gives up the receiving ends of its rings, and the sending ends that are
parked in its inbox. A ring that loses both is emptied, and its frames are dropped. A ring whose
sending end is out with a handle of the peer keeps its frames, which nobody can fetch any more,
until that handle is given back.
-/
namespace Dataplane

open Store

namespace Fabric

variable {f : Fabric} {p r : Nat} {rxs : Multiset RxQueue} {txs : Multiset TxQueue}

/-! ## Rings that lose ends -/

theorem frames_dropEnds {rx : List (QueueEnd Nat)} {inbox : List Inbox}
    (h : (f.ring r).frames = []) : ((f.dropEnds rx inbox).ring r).frames = [] := by
  rw [ring_dropEnds]
  dsimp only
  split <;> split <;> simp [Ring.loseProducer, Ring.loseConsumer, h]

theorem frames_abandon {inUse : Nat → Bool} (h : (f.ring r).frames = []) :
    ((f.abandon inUse p).ring r).frames = [] := by
  unfold abandon
  split
  · exact frames_dropEnds h
  · exact h

namespace Wired

variable (h : f.Wired rxs txs)
include h

theorem mem_parked_of_idle (hidle : f.Idle p) :
    r ∈ (f.port p).rx.filterMap QueueEnd.parked? ↔ r ∈ f.behind rxs p := by
  rw [Port.mem_parked_iff, mem_behind]
  refine exists_congr fun q => ⟨.inl, ?_⟩
  rintro (hparked | hout)
  · exact hparked
  · exact absurd (h.handed.rx_of_mem hout) (hidle q).1

/-- The sending ends that a port gives up are those that no handle has. -/
theorem mem_producers_iff : r ∈ (f.port p).inbox.filterMap Inbox.producer ↔
    r ∈ f.behind rxs p ∧ r ∉ txs.map TxQueue.ring := by
  rw [Port.mem_producers_iff, mem_behind]
  constructor
  · rintro ⟨q, hq⟩
    exact ⟨⟨q, (h.fed.queue p q).parked r hq⟩,
      h.owned.producers.not_mem_of_mem (mem_parkedProducers hq)⟩
  · rintro ⟨⟨q, hr⟩, hfree⟩
    rcases (h.soleProducer hr).place with ⟨hparked, -⟩ | ⟨-, x, hx, -, -, -, hring, -⟩
    · exact ⟨q, hparked⟩
    · exact absurd (hring ▸ Multiset.mem_map_of_mem TxQueue.ring hx) hfree

theorem ring_resetQueues (hidle : f.Idle p) (rx tx r : Nat) :
    (f.resetQueues p rx tx).ring r =
      if r ∈ f.behind rxs p then
        if r ∈ txs.map TxQueue.ring then { f.ring r with hasConsumer := false }
        else { f.ring r with frames := [], hasProducer := false, hasConsumer := false }
      else f.ring r := by
  rw [resetQueues_eq, ring_dropEnds, ring_updatePort]
  simp only [h.mem_parked_of_idle hidle, h.mem_producers_iff]
  by_cases hr : r ∈ f.behind rxs p
  · by_cases hx : r ∈ txs.map TxQueue.ring
    · have hproducer := h.owned.producers.has_of_mem (Multiset.mem_add.mpr (.inr hx))
      simp [hr, hx, Ring.loseConsumer, hproducer]
    · simp [hr, hx, Ring.loseConsumer, Ring.loseProducer]
  · simp [hr]

/-- A handle of a ring that nobody reads takes what is left on it along. -/
theorem frames_putTx {x : TxQueue} (hx : x ∈ txs)
    (hconsumer : (f.ring x.ring).hasConsumer = false) : ((f.putTx x).ring x.ring).frames = [] := by
  have hstale : ¬f.Reads rxs x.peer x.queue x.ring := by
    intro hr
    rw [h.hasConsumer hr] at hconsumer
    cases hconsumer
  rw [(h.handed.putTx_eq hx).2, h.putProducer_of_not_reads hx hstale, ring_updatePort,
    ring_dropProducer, if_pos rfl]
  simp [Ring.loseProducer, hconsumer]

end Wired
end Fabric

namespace Client

open Fabric

variable {w : Client} {p : Nat} {x : TxQueue}

/-! ## What a closed port leaves behind -/

/-- The rings of a port that lose both ends when it is closed. -/
def parted (w : Client) (p : Nat) : Multiset Nat :=
  (w.fabric.behind w.rxs p).filter (· ∉ w.txs.map TxQueue.ring)

/-- The frames that are dropped when a port is closed. -/
def released (w : Client) (p : Nat) : Multiset Buffer := w.fabric.framesOn (w.parted p)

theorem call_close (hport : w.IsPort p) (hok : (w.fabric.close p).1 = .ok ()) :
    w.call (.port p .close) = { w with
      fabric := (w.fabric.resetQueues p 0 0).updatePort p (fun port => { port with
        epoch := port.epoch + 1, rxCount := 0, txCount := 0, stage := .closed }) } := by
  have hcall : w.call (.port p .close) = { w with fabric := (w.fabric.close p).2 } := by
    simp only [Client.call, Client.callPort, if_pos hport, PortCall.run]
  rw [hcall, Fabric.close, (checked_eq_ok hok).2]

theorem Wired.idle_of_close (h : w.Wired) (hok : (w.fabric.close p).1 = .ok ()) :
    w.fabric.Idle p :=
  h.handed.idle (Port.closable_eq_ok (checked_eq_ok hok).1)

theorem Wired.ring_close (h : w.Wired) (hport : w.IsPort p) (hok : (w.fabric.close p).1 = .ok ())
    (r : Nat) : (w.call (.port p .close)).fabric.ring r =
      if r ∈ w.fabric.behind w.rxs p then
        if r ∈ w.txs.map TxQueue.ring then { w.fabric.ring r with hasConsumer := false }
        else { w.fabric.ring r with frames := [], hasProducer := false, hasConsumer := false }
      else w.fabric.ring r := by
  rw [call_close hport hok]
  exact Fabric.Wired.ring_resetQueues h (h.idle_of_close hok) 0 0 r

theorem Wired.inFlight_close (h : w.Wired) (hport : w.IsPort p)
    (hok : (w.fabric.close p).1 = .ok ()) :
    w.fabric.inFlight = w.released p + (w.call (.port p .close)).fabric.inFlight := by
  have hring := h.ring_close hport hok
  have hsize : (w.call (.port p .close)).fabric.rings.size = w.fabric.rings.size := by
    rw [call_close hport hok]
    exact (samePorts_dropEnds _ _ _).size
  have hparted : (↑(List.range w.fabric.rings.size) : Multiset Nat).filter (· ∈ w.parted p) =
      w.parted p := by
    have hnodup := (Fabric.Wired.behind_nodup h p).filter (· ∉ w.txs.map TxQueue.ring)
    have hrange : (↑(List.range w.fabric.rings.size) : Multiset Nat).Nodup := List.nodup_range
    refine (Multiset.Nodup.ext (hrange.filter _) hnodup).mpr fun r => ?_
    rw [Multiset.mem_filter, Multiset.mem_coe, List.mem_range]
    refine ⟨fun hr => hr.2, fun hr => ⟨?_, hr⟩⟩
    obtain ⟨q, hq⟩ := mem_behind.mp (Multiset.mem_filter.mp hr).1
    exact Fabric.Wired.ring_lt h hq
  rw [inFlight_eq, inFlight_eq, hsize, framesOn_filter _ _ (· ∈ w.parted p),
    framesOn_filter (w.call (.port p .close)).fabric _ (· ∈ w.parted p), hparted]
  have hnone : (w.call (.port p .close)).fabric.framesOn (w.parted p) = 0 := by
    refine framesOn_eq_zero fun r hr => ?_
    obtain ⟨hbehind, hfree⟩ := Multiset.mem_filter.mp hr
    rw [hring, if_pos hbehind, if_neg hfree]
  have hsame : (w.call (.port p .close)).fabric.framesOn
      ((↑(List.range w.fabric.rings.size) : Multiset Nat).filter (· ∉ w.parted p)) =
      w.fabric.framesOn
        ((↑(List.range w.fabric.rings.size) : Multiset Nat).filter (· ∉ w.parted p)) := by
    refine framesOn_congr fun r hr => ?_
    have hkept := (Multiset.mem_filter.mp hr).2
    rw [hring]
    split
    · rename_i hbehind
      split
      · rfl
      · rename_i hfree
        exact absurd (Multiset.mem_filter.mpr ⟨hbehind, hfree⟩) hkept
    · rfl
  rw [hnone, hsame, Multiset.zero_add]
  rfl

/-! ## Rings that nobody reads -/

/-- A ring that a handle sends to, from which nobody receives any more. -/
structure Stranded (w : Client) (x : TxQueue) : Prop where
  held : x ∈ w.txs
  consumer : (w.fabric.ring x.ring).hasConsumer = false
  closed : (w.fabric.port x.peer).stage = .closed

/-- Nothing goes on such a ring, and nothing comes off it before the handle is given back. -/
theorem Stranded.call (h : w.Stranded x) (hw : w.Wired) (hs : w.Staged) {c : Call}
    (hc : c ≠ .queue (.putTx x)) : (w.call c).Stranded x ∧
      ((w.call c).fabric.ring x.ring).frames = (w.fabric.ring x.ring).frames := by
  have hheld := mem_txs_call h.held hc
  have hlt := Fabric.Wired.tx_ring_lt hw h.held
  have hclosed := (w.ages_call c x.peer).closed h.closed
  refine ⟨⟨hheld, hasConsumer_call hlt h.consumer, hclosed⟩, ?_⟩
  rcases w.quiet_or_burst c with hquiet | ⟨y, hy, max, rfl, heq⟩ | ⟨y, hy, bs, -, rfl, heq⟩
  · -- A ring is emptied when its second end goes, and the handle still has the sending end.
    have hproducer := (hw.call c).owned.producers.has_of_mem
      (Multiset.mem_add.mpr (.inr (Multiset.mem_map_of_mem TxQueue.ring hheld)))
    exact hquiet.keeps.frames _ hlt (.inl hproducer)
  · have hreads : w.fabric.Reads w.rxs y.port y.queue y.ring := .inr hy
    obtain ⟨rest, -, hring⟩ := w.fabric.ring_rxBurst y max (Fabric.Wired.ring_lt hw hreads)
    rw [heq]
    refine congrArg Ring.frames ((hring x.ring).trans (if_neg fun hxy => ?_))
    have hconsumer := h.consumer
    rw [hxy, Fabric.Wired.hasConsumer hw hreads] at hconsumer
    cases hconsumer
  · have hring := w.fabric.ring_txBurst y bs (Fabric.Wired.tx_ring_lt hw hy) x.ring
    rw [heq]
    refine (congrArg Ring.frames hring).trans ?_
    split
    · rename_i hxy
      -- The peer is closed for good, so its link stays down and the burst carries nothing.
      have hdown : (w.fabric.port y.peer).linkUp = false := by
        rw [← Fabric.Wired.tx_unique hw h.held hy hxy]
        exact (hs x.peer).linkUp_eq_false (by rw [h.closed]; decide)
      simp [carried, hdown]
    · rfl

theorem Stranded.callAll (h : w.Stranded x) (hw : w.Wired) (hs : w.Staged) {calls : List Call}
    (hcalls : .queue (.putTx x) ∉ calls) : (w.callAll calls).Stranded x ∧
      ((w.callAll calls).fabric.ring x.ring).frames = (w.fabric.ring x.ring).frames := by
  induction calls generalizing w with
  | nil => exact ⟨h, rfl⟩
  | cons c rest ih =>
    obtain ⟨hc, hrest⟩ := not_or.mp (List.mem_cons.not.mp hcalls)
    obtain ⟨hfirst, hframes⟩ := h.call hw hs (Ne.symm hc)
    obtain ⟨hlast, hsame⟩ := ih hfirst (hw.call c) (hs.call c) hrest
    exact ⟨hlast, hsame.trans hframes⟩

theorem Stranded.frames_putTx (h : w.Stranded x) (hw : w.Wired) :
    ((w.call (.queue (.putTx x))).fabric.ring x.ring).frames = [] := by
  have hcall : w.call (.queue (.putTx x)) = w.putTx x := if_pos h.held
  rw [hcall, putTx_fabric]
  exact frames_abandon (frames_abandon (Fabric.Wired.frames_putTx hw h.held h.consumer))

/-! ## Closing -/

/-- What closing a port does with the frames on its rings. -/
structure Closes (w : Client) (p : Nat) : Prop where
  /-- The frames of rings to which no handle sends are dropped, and no others. -/
  flight : w.fabric.inFlight = w.released p + (w.call (.port p .close)).fabric.inFlight
  holders : ∀ x, w.store.holdersAt x =
    ((w.released p).map Buffer.place).count x + (w.call (.port p .close)).store.holdersAt x
  freed : ∀ b ∈ w.released p, (w.call (.port p .close)).store.holdersAt b.place = 0 →
    (w.call (.port p .close)).store.queuedAt b.place = 1
  others : ∀ r ∉ w.fabric.behind w.rxs p,
    (w.call (.port p .close)).fabric.ring r = w.fabric.ring r
  /-- The other handles of its rings are those of another port, which feeds this one. -/
  senders : ∀ x ∈ w.txs, x.ring ∈ w.fabric.behind w.rxs p →
    x.port = (w.fabric.port p).peer ∧ x.port ≠ p
  /-- As long as such a handle is out, its ring keeps what it had, for nobody. -/
  kept : ∀ x ∈ w.txs, x.ring ∈ w.fabric.behind w.rxs p → ∀ calls, .queue (.putTx x) ∉ calls →
    let w' := (w.call (.port p .close)).callAll calls
    (w'.fabric.ring x.ring).frames = (w.fabric.ring x.ring).frames ∧
      (∀ i q, ¬w'.fabric.Reads w'.rxs i q x.ring) ∧
      ((w'.call (.queue (.putTx x))).fabric.ring x.ring).frames = []
  clean : (∀ r ∈ w.fabric.behind w.rxs p,
      ((w.call (.port p .close)).fabric.ring r).frames = []) ↔
    ∀ x ∈ w.txs, x.ring ∈ w.fabric.behind w.rxs p → (w.fabric.ring x.ring).frames = []

theorem Wired.senders (h : w.Wired) (hok : (w.fabric.close p).1 = .ok ()) (hx : x ∈ w.txs)
    (hbehind : x.ring ∈ w.fabric.behind w.rxs p) :
    x.port = (w.fabric.port p).peer ∧ x.port ≠ p := by
  obtain ⟨q, hq⟩ := mem_behind.mp hbehind
  obtain ⟨hpeer, -⟩ := Fabric.Wired.tx_of_ring h hq hx rfl
  refine ⟨hpeer ▸ h.handed.tx_port hx, fun hport => ?_⟩
  have hout := h.handed.tx_of_mem hx
  rw [hport] at hout
  exact (h.idle_of_close hok x.queue).2 hout

theorem Wired.stranded (h : w.Wired) (hport : w.IsPort p) (hok : (w.fabric.close p).1 = .ok ())
    (hx : x ∈ w.txs) (hbehind : x.ring ∈ w.fabric.behind w.rxs p) :
    (w.call (.port p .close)).Stranded x := by
  have hring := h.ring_close hport hok x.ring
  rw [if_pos hbehind, if_pos (Multiset.mem_map_of_mem TxQueue.ring hx)] at hring
  refine ⟨?_, by rw [hring], ?_⟩
  · rw [call_close hport hok]
    exact hx
  · obtain ⟨q, hq⟩ := mem_behind.mp hbehind
    obtain ⟨hpeer, -⟩ := Fabric.Wired.tx_of_ring h hq hx rfl
    have hsize : p < (w.fabric.resetQueues p 0 0).ports.size := by
      rw [resetQueues_eq, (samePorts_dropEnds _ _ _).ports, size_updatePort]
      exact hport.2
    rw [hpeer, call_close hport hok, port_updatePort_of_lt hsize, if_pos rfl]

theorem Wired.holders_close (h : w.Wired) (hb : w.Balanced) (hport : w.IsPort p)
    (hok : (w.fabric.close p).1 = .ok ()) (x : Place) : w.store.holdersAt x =
      ((w.released p).map Buffer.place).count x + (w.call (.port p .close)).store.holdersAt x := by
  have hbuffers : (w.call (.port p .close)).buffers = w.buffers := by
    rw [call_close hport hok]
  rw [hb.ledger.holders_eq, (hb.call (.port p .close)).ledger.holders_eq, live, live, hbuffers,
    h.inFlight_close hport hok, ← Multiset.count_add, ← Multiset.map_add, add_left_comm]

/-- A slot that is let go by its last holder is in the queue of its pool again. -/
theorem Wired.freed_close (h : w.Wired) (hb : w.Balanced) (hport : w.IsPort p)
    (hok : (w.fabric.close p).1 = .ok ()) {b : Buffer} (hreleased : b ∈ w.released p)
    (hfree : (w.call (.port p .close)).store.holdersAt b.place = 0) :
    (w.call (.port p .close)).store.queuedAt b.place = 1 := by
  have hlive : b ∈ w.live := by
    rw [live, h.inFlight_close hport hok]
    exact Multiset.mem_add.mpr (.inr (Multiset.mem_add.mpr (.inl hreleased)))
  have hslot := hb.ledger.isSlot_of_mem hlive
  have hheld := hb.ledger.holdersAt_pos hlive
  have hbefore := hb.ledger.placed b.place
  have hafter := (hb.call (.port p .close)).ledger.placed b.place
  have hmemory : SameMemory w.store (w.call (.port p .close)).store := by
    rw [call_close hport hok]
    exact (Upkeep.resetQueues w.fabric p 0 0).sameMemory
  have hcached : (w.call (.port p .close)).cached = w.cached := by
    rw [call_close hport hok]
    rfl
  rw [if_pos hslot] at hbefore
  rw [if_pos ((hmemory.isSlot_iff _).mpr hslot), hcached] at hafter
  -- Held before, the slot was in no cache, and the caches are the same afterwards.
  omega

theorem Wired.clean_close (h : w.Wired) (hport : w.IsPort p)
    (hok : (w.fabric.close p).1 = .ok ()) :
    (∀ r ∈ w.fabric.behind w.rxs p, ((w.call (.port p .close)).fabric.ring r).frames = []) ↔
      ∀ x ∈ w.txs, x.ring ∈ w.fabric.behind w.rxs p → (w.fabric.ring x.ring).frames = [] := by
  have hring := h.ring_close hport hok
  constructor
  · intro hclean x hx hbehind
    have hempty := hclean x.ring hbehind
    rwa [hring, if_pos hbehind, if_pos (Multiset.mem_map_of_mem TxQueue.ring hx)] at hempty
  · intro hclean r hr
    rw [hring, if_pos hr]
    split
    · rename_i hx
      obtain ⟨x, hheld, rfl⟩ := Multiset.mem_map.mp hx
      exact hclean x hheld hr
    · rfl

theorem Wired.closes (h : w.Wired) (hs : w.Staged) (hb : w.Balanced) (hport : w.IsPort p)
    (hok : (w.fabric.close p).1 = .ok ()) : w.Closes p where
  flight := h.inFlight_close hport hok
  holders := h.holders_close hb hport hok
  freed _ := h.freed_close hb hport hok
  others r hr := (h.ring_close hport hok r).trans (if_neg hr)
  senders _ := h.senders hok
  kept x hx hbehind calls hcalls := by
    have hclosed := h.call (.port p .close)
    obtain ⟨hstranded, hframes⟩ :=
      (h.stranded hport hok hx hbehind).callAll hclosed (hs.call _) hcalls
    refine ⟨hframes.trans ?_, fun i q hr => ?_, hstranded.frames_putTx (hclosed.callAll calls)⟩
    · rw [h.ring_close hport hok, if_pos hbehind, if_pos (Multiset.mem_map_of_mem TxQueue.ring hx)]
    · have hconsumer := (hclosed.callAll calls).hasConsumer hr
      rw [hstranded.consumer] at hconsumer
      cases hconsumer
  clean := h.clean_close hport hok

/-- A port that is closed lets go of the frames on its rings, but for those on rings to which the
other port of a pair still has a handle. These stay, with their slots, until the handle is given
back, although nobody can receive them. -/
theorem closes_run (calls : List Call) (hport : (run calls).IsPort p)
    (hok : ((run calls).fabric.close p).1 = .ok ()) : (run calls).Closes p :=
  (wired_run calls).closes (staged_run calls) (balanced_run calls) hport hok

/-- A frame is on the ring of a queue whose receiver is stopped and then closed. -/
def unfetched : List Call :=
  [.registry (.createPair "a" "b" (.forwarding 1) (.forwarding 2)),
    .port 0 (.configure 1 1 {}), .port 0 (.setupRx 0 4), .port 0 (.setupTx 0 4), .port 0 .start,
    .port 1 (.configure 1 1 {}), .port 1 (.setupRx 0 4), .port 1 (.setupTx 0 4), .port 1 .start,
    .pool (.create "pool" { buffers := 1, cacheSize := 0, dataRoom := 8, headroom := 0 } true),
    .pool (.alloc 0), .queue (.takeTx 0 0), .queue (.send ⟨0, 1, 0, 1, 1⟩ [⟨0, 0, ⟨0, 0⟩⟩]),
    .port 1 .stop]

theorem closes_unfetched : (run unfetched).Closes 1 :=
  closes_run unfetched (by decide +kernel) (by decide +kernel)

/-- Closing does not empty every ring of a port. -/
theorem not_clean_unfetched :
    (run unfetched).IsPort 1 ∧ ((run unfetched).fabric.close 1).1 = .ok () ∧
    ∃ r ∈ (run unfetched).fabric.behind (run unfetched).rxs 1,
      (((run unfetched).call (.port 1 .close)).fabric.ring r).frames = [⟨0, 0, ⟨0, 0⟩⟩] ∧
      ((run unfetched).call (.port 1 .close)).store.queuedAt (0, 0) = 0 := by
  refine ⟨by decide +kernel, by decide +kernel, 1, ?_, ?_⟩
  all_goals decide +kernel

end Client
end Dataplane
