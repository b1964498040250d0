import Dataplane.Proofs.Client.Evolution
import Dataplane.Proofs.Port.Bursts
import Dataplane.Proofs.Port.Sole

/-! # Delivery in order

From its installation until its queue is set up anew, a ring is a queue: what went on it is what
came off it and then what is on it. The frames that receivers get are those that came off and passed
the settings in force at the time, in the same order. Nothing else that is called in between
matters: bursts through other queues, handles that come and go, ports that stop and start, and
settings that change.
-/
namespace Dataplane
namespace Client

open Fabric

/-! ## Logs -/

/-- What the calls of a run leave in a log. -/
def gather (log : Client → Call → List Buffer) (w : Client) : List Call → List Buffer
  | [] => []
  | c :: rest => log w c ++ gather log (w.call c) rest

/-- The frames that a call puts on a ring through a handle of epoch `e` that feeds queue `q` of
port `p`. -/
def pushed (p q e : Nat) (w : Client) : Call → List Buffer
  | .queue (.send x bs) =>
    if (x ∈ w.txs ∧ ↑bs ≤ w.buffers) ∧ x.peer = p ∧ x.queue = q ∧ x.epoch = e then
      w.fabric.carried x bs
    else []
  | _ => []

/-- The frames that a call takes off a ring through a handle of queue `q` of port `p`. -/
def popped (p q : Nat) (w : Client) : Call → List Buffer
  | .queue (.receive x max) =>
    if x ∈ w.rxs ∧ x.port = p ∧ x.queue = q then w.fabric.fetched x max else []
  | _ => []

/-- Those of the frames taken off that pass the settings in force. -/
def passed (p q : Nat) (w : Client) (c : Call) : List Buffer :=
  (w.popped p q c).filter ((w.fabric.port p).accepts w.store)

/-- The frames that a receiver gets from queue `q` of port `p`. -/
def received (p q : Nat) (w : Client) : Call → List Buffer
  | .queue (.receive x max) =>
    if x ∈ w.rxs ∧ x.port = p ∧ x.queue = q then (w.fabric.rxBurst x max).1 else []
  | _ => []

theorem received_eq_passed (p q : Nat) (w : Client) (c : Call) :
    w.received p q c = w.passed p q c := by
  unfold passed
  cases c with
  | queue c =>
    cases c with
    | receive x max =>
      simp only [received, popped]
      split
      · rename_i hx
        rw [w.fabric.rxBurst_delivered, hx.2.1]
        rfl
      · rfl
    | _ => rfl
  | _ => rfl

/-! ## The ring of one epoch -/

/-- Ring `r` is behind queue `q` of port `p` since epoch `e`, and has room for `n` frames. -/
structure Installed (w : Client) (p q r e n : Nat) : Prop where
  base : w.fabric.base ≤ p
  reads : w.fabric.Reads w.rxs p q r
  epoch : ((w.fabric.port p).inboxAt q).epoch = e
  capacity : (w.fabric.ring r).capacity = n
  bounded : (w.fabric.ring r).frames.length ≤ n

/-- What one call does to a ring: frames go on it at one end and come off it at the other. -/
structure Moves (w w' : Client) (r : Nat) (on off : List Buffer) : Prop where
  capacity : (w'.fabric.ring r).capacity = (w.fabric.ring r).capacity
  bounded : (w.fabric.ring r).frames.length ≤ (w.fabric.ring r).capacity →
    (w'.fabric.ring r).frames.length ≤ (w'.fabric.ring r).capacity
  frames : (w.fabric.ring r).frames ++ on = off ++ (w'.fabric.ring r).frames

variable {w w' : Client} {p q r e n : Nat}

theorem Moves.of_ring (hring : w'.fabric.ring r = w.fabric.ring r) : Moves w w' r [] [] := by
  refine ⟨by rw [hring], fun hle => ?_, ?_⟩
  · rw [hring]
    exact hle
  · rw [hring, List.append_nil, List.nil_append]

theorem Moves.of_keeps (h : w.Wired) (h' : w'.Wired) (hr : w.fabric.Reads w.rxs p q r)
    (hr' : w'.fabric.Reads w'.rxs p q r) (hkeeps : Keeps w.fabric w'.fabric) :
    Moves w w' r [] [] := by
  have hlt := h.ring_lt hr
  have hframes := hkeeps.frames r hlt (.inr (h'.hasConsumer hr'))
  have hcapacity := hkeeps.capacity r hlt
  refine ⟨hcapacity, fun hle => ?_, ?_⟩
  · rw [hframes, hcapacity]
    exact hle
  · rw [hframes, List.append_nil, List.nil_append]

theorem moves_send (h : w.Wired) (hr : w.fabric.Reads w.rxs p q r)
    (he : ((w.fabric.port p).inboxAt q).epoch = e) (x : TxQueue) (bs : List Buffer) :
    Moves w (w.callQueue (.send x bs)) r (w.pushed p q e (.queue (.send x bs))) [] := by
  simp only [Client.callQueue, pushed]
  by_cases hheld : x ∈ w.txs ∧ ↑bs ≤ w.buffers
  · rw [if_pos hheld]
    have hring : (w.send x bs).fabric.ring r = _ :=
      w.fabric.ring_txBurst x bs (h.tx_ring_lt hheld.1) r
    by_cases hxr : x.ring = r
    · obtain ⟨hpeer, hqueue, hepoch⟩ := h.tx_of_ring hr hheld.1 hxr
      rw [he] at hepoch
      rw [if_pos ⟨hheld, hpeer, hqueue, hepoch⟩]
      rw [if_pos hxr.symm] at hring
      have hcarried := w.fabric.length_carried_le x bs
      rw [hxr, Ring.vacancy] at hcarried
      refine ⟨by rw [hring], fun hle => ?_, by rw [hring, List.nil_append]⟩
      rw [hring, List.length_append]
      dsimp only
      omega
    · rw [if_neg fun hx => hxr ?_]
      · rw [if_neg (Ne.symm hxr)] at hring
        exact .of_ring hring
      · exact h.ring_of_epoch hr hheld.1 hx.2.1 hx.2.2.1 (hx.2.2.2.trans he.symm)
  · rw [if_neg hheld, if_neg fun hx => hheld hx.1]
    exact .of_ring rfl

theorem moves_receive (h : w.Wired) (hr : w.fabric.Reads w.rxs p q r) (x : RxQueue)
    (max : Nat) : Moves w (w.callQueue (.receive x max)) r []
      (w.popped p q (.queue (.receive x max))) := by
  simp only [Client.callQueue, popped]
  by_cases hheld : x ∈ w.rxs
  · rw [if_pos hheld]
    have hreads : w.fabric.Reads w.rxs x.port x.queue x.ring := .inr hheld
    obtain ⟨rest, hrest, hring⟩ := w.fabric.ring_rxBurst x max (h.ring_lt hreads)
    have hring : (w.receive x max).fabric.ring r = _ := hring r
    by_cases hxr : x.ring = r
    · rw [if_pos ⟨hheld, h.rx_of_ring hr hheld hxr⟩]
      rw [if_pos hxr.symm] at hring
      rw [hxr] at hrest
      refine ⟨by rw [hring], fun hle => ?_, by rw [hring, List.append_nil, hrest]⟩
      rw [hrest, List.length_append] at hle
      rw [hring]
      dsimp only
      omega
    · rw [if_neg fun hx => hxr ?_]
      · rw [if_neg (Ne.symm hxr)] at hring
        exact .of_ring hring
      · obtain ⟨-, rfl, rfl⟩ := hx
        exact hr.unique hreads h.handed
  · rw [if_neg hheld, if_neg fun hx => hheld hx.1]
    exact .of_ring rfl

theorem Quiet.logs_nothing {c : Call} (h : w.Quiet c) :
    w.pushed p q e c = [] ∧ w.popped p q c = [] := by
  cases c with
  | queue k =>
    have hidle := h.idle k rfl
    cases k with
    | receive x max => exact ⟨rfl, if_neg fun hx => hidle hx.1⟩
    | send x bs => exact ⟨if_neg fun hx => hidle hx.1, rfl⟩
    | _ => exact ⟨rfl, rfl⟩
  | _ => exact ⟨rfl, rfl⟩

theorem moves_call (h : w.Wired) (hr : w.fabric.Reads w.rxs p q r)
    (he : ((w.fabric.port p).inboxAt q).epoch = e) (c : Call)
    (hr' : (w.call c).fabric.Reads (w.call c).rxs p q r) :
    Moves w (w.call c) r (w.pushed p q e c) (w.popped p q c) := by
  rcases w.quiet_or_burst c with hquiet | ⟨x, -, max, rfl, -⟩ | ⟨x, -, bs, -, rfl, -⟩
  · obtain ⟨hpushed, hpopped⟩ := hquiet.logs_nothing (p := p) (q := q) (e := e)
    rw [hpushed, hpopped]
    exact Moves.of_keeps h (h.call c) hr hr' hquiet.keeps
  · exact moves_receive h hr x max
  · exact moves_send h hr he x bs

/-- One call: the ring stays where it is, and moves as a queue does. -/
theorem Installed.call (hi : w.Installed p q r e n) (h : w.Wired) {c : Call}
    (hc : ¬c.Renews p q) : (w.call c).Installed p q r e n ∧
      Moves w (w.call c) r (w.pushed p q e c) (w.popped p q c) := by
  have hevolves := evolves_call h c
  have hfree : ¬w.Renewed c p q := by
    rintro (hgone | hrenews)
    · exact Nat.not_lt.mpr hi.base hgone
    · exact hc hrenews
  have hreads := hevolves.reads p q r hfree hi.reads
  have hmoves := moves_call h hi.reads hi.epoch c hreads
  refine ⟨⟨hevolves.base p q hfree hi.base, hreads, ?_, ?_, ?_⟩, hmoves⟩
  · rw [hevolves.inbox p q hfree, hi.epoch]
  · rw [hmoves.capacity, hi.capacity]
  · have hle := hmoves.bounded (hi.capacity.symm ▸ hi.bounded)
    rw [hmoves.capacity, hi.capacity] at hle
    exact hle

/-- A run of calls: what was on the ring and went on it is what came off it and is on it now. -/
theorem Installed.callAll (hi : w.Installed p q r e n) (h : w.Wired) (calls : List Call)
    (hcalls : ∀ c ∈ calls, ¬c.Renews p q) : (w.callAll calls).Installed p q r e n ∧
      (w.fabric.ring r).frames ++ gather (pushed p q e) w calls =
        gather (popped p q) w calls ++ ((w.callAll calls).fabric.ring r).frames := by
  induction calls generalizing w with
  | nil =>
    refine ⟨hi, ?_⟩
    rw [gather, gather, List.append_nil, List.nil_append]
    rfl
  | cons c rest ih =>
    obtain ⟨hfirst, hmoves⟩ := hi.call h (hcalls c List.mem_cons_self)
    obtain ⟨hrest, hframes⟩ :=
      ih hfirst (h.call c) fun d hd => hcalls d (List.mem_cons_of_mem c hd)
    refine ⟨hrest, ?_⟩
    calc (w.fabric.ring r).frames ++ gather (pushed p q e) w (c :: rest)
      _ = (w.fabric.ring r).frames ++ w.pushed p q e c ++
          gather (pushed p q e) (w.call c) rest := (List.append_assoc _ _ _).symm
      _ = w.popped p q c ++ (((w.call c).fabric.ring r).frames ++
          gather (pushed p q e) (w.call c) rest) := by rw [hmoves.frames, List.append_assoc]
      _ = w.popped p q c ++ (gather (popped p q) (w.call c) rest ++
          (((w.call c).callAll rest).fabric.ring r).frames) := by rw [hframes]
      _ = gather (popped p q) w (c :: rest) ++
          (((w.call c).callAll rest).fabric.ring r).frames := (List.append_assoc _ _ _).symm

theorem gather_congr {log log' : Client → Call → List Buffer} (hlog : ∀ w c, log w c = log' w c)
    (w : Client) (calls : List Call) : gather log w calls = gather log' w calls := by
  induction calls generalizing w with
  | nil => rfl
  | cons c rest ih => rw [gather, gather, hlog, ih]

/-! ## From the installation on -/

theorem Installed.start (h : w.Wired) (hport : w.IsPort p)
    (hok : (w.fabric.setupRx p q n).1 = .ok ()) :
    (w.call (.port p (.setupRx q n))).Installed p q w.fabric.rings.size
        ((w.fabric.port p).epoch + 1) n ∧
      ((w.call (.port p (.setupRx q n))).fabric.ring w.fabric.rings.size).frames = [] := by
  obtain ⟨hcheck, heq⟩ := checked_eq_ok hok
  have hcall : (w.call (.port p (.setupRx q n))).fabric = w.fabric.installRing p q n := by
    simp only [Client.call, Client.callPort, if_pos hport, PortCall.run]
    exact heq
  obtain ⟨⟨i, hi⟩, e, he⟩ := (h.counted p hport.1).entries (Port.settable_eq_ok hcheck).2
  have hreads : (w.call (.port p (.setupRx q n))).fabric.Reads
      (w.call (.port p (.setupRx q n))).rxs p q w.fabric.rings.size := by
    left
    rw [hcall, rxAt_installRing hi he, if_pos ⟨rfl, rfl⟩]
  have hconsumer := (h.call _).hasConsumer hreads
  rw [hcall] at hconsumer
  obtain ⟨hcapacity, hframes⟩ := Keeps.ring_installRing w.fabric p q n hconsumer
  rw [← hcall] at hcapacity hframes
  refine ⟨⟨?_, hreads, ?_, hcapacity, ?_⟩, hframes⟩
  · rw [hcall, installRing_eq, (samePorts_dropEnds _ _ _).base]
    exact hport.1
  · rw [hcall, inboxAt_installRing hi, if_pos ⟨rfl, rfl⟩]
  · rw [hframes]
    exact Nat.zero_le n

/-- What has become of the frames for queue `q` of port `p`, whose ring `r` of epoch `e` was empty
when a run of calls began. -/
structure InOrder (w : Client) (p q r e n : Nat) (calls : List Call) : Prop where
  /-- Nothing is lost, doubled or moved. -/
  order : gather (pushed p q e) w calls =
    gather (popped p q) w calls ++ ((w.callAll calls).fabric.ring r).frames
  bounded : ((w.callAll calls).fabric.ring r).frames.length ≤ n
  delivered : gather (received p q) w calls = gather (passed p q) w calls
  /-- The ring is the one of the queue and of the epoch still. -/
  reads : (w.callAll calls).fabric.Reads (w.callAll calls).rxs p q r
  receiver : ∀ x ∈ (w.callAll calls).rxs, x.ring = r ↔ x.port = p ∧ x.queue = q
  sender : ∀ x ∈ (w.callAll calls).txs, x.ring = r ↔ x.peer = p ∧ x.queue = q ∧ x.epoch = e

theorem Installed.inOrder (hi : w.Installed p q r e n) (h : w.Wired)
    (hempty : (w.fabric.ring r).frames = []) {calls : List Call}
    (hcalls : ∀ c ∈ calls, ¬c.Renews p q) : w.InOrder p q r e n calls := by
  obtain ⟨hinstalled, hframes⟩ := hi.callAll h calls hcalls
  have hwired := h.callAll calls
  rw [hempty, List.nil_append] at hframes
  refine ⟨hframes, hinstalled.bounded, gather_congr (received_eq_passed p q) w calls,
    hinstalled.reads, fun x hx => ⟨fun hxr => ?_, ?_⟩, fun x hx => ⟨fun hxr => ?_, ?_⟩⟩
  · exact hwired.rx_of_ring hinstalled.reads hx hxr
  · rintro ⟨rfl, rfl⟩
    exact hinstalled.reads.unique (.inr hx) hwired.handed
  · have hsends := hwired.tx_of_ring hinstalled.reads hx hxr
    rw [hinstalled.epoch] at hsends
    exact hsends
  · rintro ⟨hpeer, hqueue, hepoch⟩
    exact hwired.ring_of_epoch hinstalled.reads hx hpeer hqueue
      (hepoch.trans hinstalled.epoch.symm)

/-- A ring that is set up for a queue at any time is from then on a queue of its own, as long as no
call sets the queue up anew. -/
theorem delivered_in_order (calls : List Call) {p q n : Nat} (hport : (run calls).IsPort p)
    (hok : ((run calls).fabric.setupRx p q n).1 = .ok ()) {more : List Call}
    (hmore : ∀ c ∈ more, ¬c.Renews p q) :
    ((run calls).call (.port p (.setupRx q n))).InOrder p q (run calls).fabric.rings.size
      (((run calls).fabric.port p).epoch + 1) n more := by
  obtain ⟨hinstalled, hempty⟩ := Installed.start (wired_run calls) hport hok
  exact hinstalled.inOrder ((wired_run calls).call _) hempty hmore

/-- A port that feeds itself. Of three frames two fit, and one of these is for another station. -/
theorem delivered_in_order_loopback :
    let calls : List Call :=
      [.registry (.createLoopback "lo" (.forwarding 1)), .port 0 (.configure 1 1 {})]
    let more : List Call :=
      [.port 0 (.setupTx 0 2), .port 0 .start, .queue (.takeTx 0 0), .queue (.takeRx 0 0),
        .pool (.create "pool" { buffers := 3, cacheSize := 0, dataRoom := 8, headroom := 0 } true),
        .pool (.allocInto 0 3), .buffer ⟨0, 1, ⟨0, 0⟩⟩ (.extend [2, 0, 0, 0, 0, 9]),
        .queue (.send ⟨0, 0, 0, 0, 1⟩ [⟨0, 0, ⟨0, 0⟩⟩, ⟨0, 1, ⟨0, 6⟩⟩, ⟨0, 2, ⟨0, 0⟩⟩]),
        .queue (.receive ⟨0, 0, 0⟩ 8)]
    let w := (run calls).call (.port 0 (.setupRx 0 2))
    w.InOrder 0 0 (run calls).fabric.rings.size (((run calls).fabric.port 0).epoch + 1) 2 more ∧
      gather (pushed 0 0 1) w more = [⟨0, 0, ⟨0, 0⟩⟩, ⟨0, 1, ⟨0, 6⟩⟩] ∧
      gather (popped 0 0) w more = [⟨0, 0, ⟨0, 0⟩⟩, ⟨0, 1, ⟨0, 6⟩⟩] ∧
      gather (received 0 0) w more = [⟨0, 0, ⟨0, 0⟩⟩] := by
  refine ⟨delivered_in_order _ (by decide) rfl (by simp [Call.Renews, PortCall.Renews]), ?_⟩
  decide +kernel

end Client
end Dataplane
