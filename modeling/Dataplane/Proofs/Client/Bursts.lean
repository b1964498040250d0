import Dataplane.Proofs.Client.Accounting
import Dataplane.Proofs.Client.Wiring
import Dataplane.Proofs.Port.Dispatch
import Dataplane.Proofs.Port.Sole

/-! # Bursts through handles in hands

Handles that were given out belong to ports and rings that are there, so that what a burst does to
its port, its ring and the pools is what it does through any handle that a client has. Buffers move
between its hands and the ring. A slot whose buffer was sent is in the queue of its pool if no
handle names it any more, and only then.
-/
namespace Dataplane

namespace Client

variable {w : Client}

/-- What receiving through a handle in hands does. -/
structure Takes (w : Client) (x : RxQueue) (max : Nat) : Prop where
  burst : w.fabric.Receives x max
  call : w.call (.queue (.receive x max)) =
    { w with fabric := (w.fabric.rxBurst x max).2,
             buffers := ↑(w.fabric.rxBurst x max).1 + w.buffers }

/-- What sending buffers in hands through a handle in hands does. -/
structure Gives (w : Client) (x : TxQueue) (bufs : List Buffer) : Prop where
  burst : w.fabric.Dispatches x bufs
  call : w.call (.queue (.send x bufs)) =
    { w with fabric := (w.fabric.txBurst x bufs).2.2,
             buffers := ↑(w.fabric.txBurst x bufs).2.1 + (w.buffers - ↑bufs) }
  /-- A slot is free, or there is a handle to it, in hands or on a ring. -/
  slots : ∀ b ∈ bufs, let w' := w.call (.queue (.send x bufs))
    (w'.store.queuedAt b.place = 1 ∧ ∀ c ∈ w'.live, c.place ≠ b.place) ∨
      (w'.store.queuedAt b.place = 0 ∧ ∃ c ∈ w'.live, c.place = b.place)

theorem Balanced.takes (h : w.Balanced) (hw : w.Wired) {x : RxQueue} (hx : x ∈ w.rxs) (max : Nat) :
    w.Takes x max where
  burst := Fabric.Balanced.receives h (Fabric.lt_size_of_rx (hw.handed.putRx_eq hx).1)
    (Fabric.Wired.ring_lt hw (.inr hx)) max
  call := if_pos hx

theorem Balanced.gives (h : w.Balanced) (hw : w.Wired) {x : TxQueue} (hx : x ∈ w.txs)
    {bufs : List Buffer} (hbufs : ↑bufs ≤ w.buffers) : w.Gives x bufs := by
  have hcall : w.call (.queue (.send x bufs)) = w.send x bufs := if_pos ⟨hx, hbufs⟩
  have hheld : w.fabric.Balanced (↑bufs + (w.buffers - ↑bufs)) w.cached := by
    rw [add_tsub_cancel_of_le hbufs]
    exact h
  have hdispatches := hheld.dispatches (hw.handed.port_lt hx) (Fabric.Wired.tx_ring_lt hw hx)
  refine ⟨hdispatches, hcall, fun b hb => ?_⟩
  have hlive : b ∈ w.live := Multiset.mem_add.mpr (.inl (Multiset.mem_of_le hbufs hb))
  have hafter : (w.call (.queue (.send x bufs))).Balanced := h.call _
  obtain ⟨queued, lost, -, -, -, hreleased⟩ := hdispatches.parted
  rw [hcall] at hafter ⊢
  refine hafter.ledger.queued_or_named ?_ fun hcached => ?_
  · exact (hreleased.isSlot_iff b.place).mpr (h.ledger.isSlot_of_mem hlive)
  · have hpos := h.ledger.holdersAt_pos hlive
    have hnone := (h.ledger.aside_exclusive hcached).2.2
    omega

/-- Whatever was called, a burst takes off the ring of a handle what it should, and nothing else. -/
theorem takes_run (calls : List Call) {x : RxQueue} (hx : x ∈ (run calls).rxs) (max : Nat) :
    (run calls).Takes x max :=
  (balanced_run calls).takes (wired_run calls) hx max

/-- Whatever was called, the buffers of a burst are kept, or lost, or on the ring. -/
theorem gives_run (calls : List Call) {x : TxQueue} (hx : x ∈ (run calls).txs)
    {bufs : List Buffer} (hbufs : ↑bufs ≤ (run calls).buffers) : (run calls).Gives x bufs :=
  (balanced_run calls).gives (wired_run calls) hx hbufs

/-! ## A port that feeds itself -/

/-- Of five frames, the first is for another station and has a second handle, the second is too
long, and the others are too short to name a station. The ring has room for four. -/
def looped : List Call :=
  [.registry (.createLoopback "lo" (.forwarding 1)), .port 0 (.configure 1 1 { mtu := 68 }),
    .port 0 (.setupRx 0 4), .port 0 (.setupTx 0 4), .port 0 .start, .queue (.takeRx 0 0),
    .queue (.takeTx 0 0),
    .pool (.create "pool" { buffers := 5, cacheSize := 0, dataRoom := 96, headroom := 0 } true),
    .pool (.allocInto 0 5), .buffer ⟨0, 0, ⟨0, 0⟩⟩ (.extend [2, 0, 0, 0, 0, 9]),
    .buffer ⟨0, 0, ⟨0, 6⟩⟩ .clone, .buffer ⟨0, 1, ⟨0, 0⟩⟩ (.append 83),
    .buffer ⟨0, 2, ⟨0, 0⟩⟩ (.extend [7])]

def loopedFrames : List Buffer :=
  [⟨0, 0, ⟨0, 6⟩⟩, ⟨0, 1, ⟨0, 83⟩⟩, ⟨0, 2, ⟨0, 1⟩⟩, ⟨0, 3, ⟨0, 0⟩⟩, ⟨0, 4, ⟨0, 0⟩⟩]

theorem takes_run_looped :
    let w := run (looped ++ [.queue (.send ⟨0, 0, 0, 0, 1⟩ loopedFrames)])
    let r := w.fabric.rxBurst ⟨0, 0, 0⟩ 1
    w.Takes ⟨0, 0, 0⟩ 1 ∧ r.1 = [⟨0, 2, ⟨0, 1⟩⟩] ∧ (r.2.ring 0).frames = [⟨0, 3, ⟨0, 0⟩⟩] ∧
      (r.2.port 0).stats.receiveErrors = 1 ∧ r.2.store.holdersAt (0, 0) = 1 ∧
      (r.2.store.pool 0).free.toList = [1] := by
  refine ⟨takes_run _ ?_ 1, ?_⟩
  · decide +kernel
  · decide +kernel

theorem gives_run_looped :
    let w := run looped
    let down := run (looped ++ [.port 0 (.setLink false)])
    let x : TxQueue := ⟨0, 0, 0, 0, 1⟩
    w.Gives x loopedFrames ∧ w.fabric.fate x = .carried ∧
      (w.fabric.txBurst x loopedFrames).2.1 = [⟨0, 4, ⟨0, 0⟩⟩] ∧
      down.Gives x loopedFrames ∧ down.fabric.fate x = .lost ∧
      ((down.fabric.txBurst x loopedFrames).2.2.store.pool 0).free.toList = [1, 2, 3, 4] := by
  refine ⟨gives_run looped ?_ ?_, ?_, ?_, gives_run (looped ++ [_]) ?_ ?_, ?_⟩
  all_goals decide +kernel

end Client
end Dataplane
