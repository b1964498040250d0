import Dataplane.Proofs.Port.Counters
import Dataplane.Proofs.Port.Upkeep

/-! # Frames that pass between open ports

A port is open while its link is up and none of its queues is paused. Sending from one open port to
another fills the ring and leaves what does not fit, so that no frame is lost. Receiving takes
frames off a ring in their order, and each of them is counted, as received or as an error, unless it
is meant for another station. Ports change in their counters only.
-/
namespace Dataplane

def Port.bare (x : Port) : Port := { x with stats := {} }

structure Port.Open (x : Port) : Prop where
  linkUp : x.linkUp = true
  rxPaused : x.rxPaused = 0
  txPaused : x.txPaused = 0

theorem Port.Open.of_bare {x y : Port} (h : x.Open) (hxy : y.bare = x.bare) : y.Open :=
  ⟨(congrArg Port.linkUp hxy).trans h.linkUp, (congrArg Port.rxPaused hxy).trans h.rxPaused,
    (congrArg Port.txPaused hxy).trans h.txPaused⟩

@[simp] theorem isPaused_zero (q : Nat) : isPaused 0 q = false := by
  simp [isPaused]

namespace Fabric

/-- From `f` to `g`, nothing was done to ports but counting. -/
structure Steady (f g : Fabric) : Prop where
  ports : g.ports.size = f.ports.size
  rings : g.rings.size = f.rings.size
  port : ∀ i, (g.port i).bare = (f.port i).bare

namespace Steady

variable {f g h : Fabric}

theorem refl (f : Fabric) : Steady f f := ⟨rfl, rfl, fun _ => rfl⟩

theorem trans (hfg : Steady f g) (hgh : Steady g h) : Steady f h :=
  ⟨hgh.ports.trans hfg.ports, hgh.rings.trans hfg.rings,
    fun i => (hgh.port i).trans (hfg.port i)⟩

theorem restore (h : Steady f g) (s : Store) : Steady f { g with store := s } :=
  ⟨h.ports, h.rings, h.port⟩

theorem read {α : Type} (h : Steady f g) (k : Port → α) (hk : ∀ x, k x.bare = k x) (i : Nat) :
    k (g.port i) = k (f.port i) := by
  rw [← hk, h.port, hk]

theorem rxBurst (f : Fabric) (y : RxQueue) (max : Nat) : Steady f (f.rxBurst y max).2 := by
  refine ⟨(Upkeep.rxBurst f y max).size, f.size_rxBurst y max, ?_⟩
  unfold Fabric.rxBurst
  dsimp only
  split
  · exact fun _ => rfl
  · exact read_updatePort Port.bare _ _ _ fun _ => rfl

theorem txBurst (f : Fabric) (x : TxQueue) (bs : List Buffer) :
    Steady f (f.txBurst x bs).2.2 := by
  refine ⟨(Upkeep.txBurst f x bs).size, f.size_txBurst x bs, ?_⟩
  unfold Fabric.txBurst
  dsimp only
  split
  · exact fun _ => rfl
  · split
    · exact read_updatePort Port.bare _ _ _ fun _ => rfl
    · exact read_updatePort Port.bare _ _ _ fun _ => rfl

end Steady

variable {f : Fabric}

/-! ## Sending -/

/-- From `f` to `g`, the frames in `bs` were sent through `x`. -/
structure Shipped (f g : Fabric) (x : TxQueue) (bs : List Buffer) : Prop where
  steady : f.Steady g
  frames : (g.ring x.ring).frames = (f.ring x.ring).frames ++ bs
  others : ∀ r ≠ x.ring, (g.ring r).frames = (f.ring r).frames
  sent : (g.port x.port).stats.sentFrames = (f.port x.port).stats.sentFrames + bs.length
  idle : ∀ i ≠ x.port, (g.port i).stats.sentFrames = (f.port i).stats.sentFrames
  received : ∀ i, (g.port i).stats.receivedFrames = (f.port i).stats.receivedFrames
  errors : ∀ i, (g.port i).stats.receiveErrors = (f.port i).stats.receiveErrors

theorem Shipped.of_restore {g : Fabric} {s : Store} {x : TxQueue} {bs : List Buffer}
    (h : Shipped { f with store := s } g x bs) : f.Shipped g x bs :=
  ⟨((Steady.refl f).restore s).trans h.steady, h.frames, h.others, h.sent, h.idle, h.received,
    h.errors⟩

/-- A burst between open ports is sent as far as there is room. -/
theorem txBurst_shipped {x : TxQueue} (hx : x.port < f.ports.size) (hr : x.ring < f.rings.size)
    (hport : (f.port x.port).Open) (hpeer : (f.port x.peer).Open) (bs : List Buffer) :
    ∃ n g, f.txBurst x bs = (n, bs.drop n, g) ∧ n = min bs.length (f.freeSlots x) ∧
      g.store = f.store ∧ f.Shipped g x (bs.take n) := by
  have hcount : (f.txBurst x bs).1 = min bs.length (f.freeSlots x) := by
    simp [txBurst, hport.txPaused, hport.linkUp, hpeer.linkUp]
  have hstore : (f.txBurst x bs).2.2.store = f.store := by
    simp [txBurst, hport.txPaused, hport.linkUp, hpeer.linkUp]
  have hcarried : f.carried x bs = bs.take (f.txBurst x bs).1 := by
    rw [carried, hport.linkUp, hpeer.linkUp]
    rfl
  have hring := f.ring_txBurst x bs hr
  have hstats := f.stats_txBurst hx bs
  refine ⟨(f.txBurst x bs).1, (f.txBurst x bs).2.2, ?_, hcount, hstore, .txBurst f x bs, ?_,
    fun r hne => ?_, ?_, fun i hne => ?_, fun i => (hstats i).2.1, fun i => (hstats i).2.2⟩
  · rw [← f.txBurst_left]
  · rw [hring, if_pos rfl, hcarried]
  · rw [hring, if_neg hne]
  · rw [(hstats x.port).1, if_pos rfl, hcarried]
  · rw [(hstats i).1, if_neg hne, Nat.add_zero]

/-! ## Receiving -/

/-- From `f` to `g`, the frames in `bs` were received through `y`. -/
structure Collected (f g : Fabric) (y : RxQueue) (bs : List Buffer) : Prop where
  steady : f.Steady g
  store : ∃ cs, g.store = f.store.dropAll cs
  taken : ∀ b ∈ bs, b ∈ (f.ring y.ring).frames ∧ (f.port y.port).accepts f.store b = true
  left : ∀ r, ∀ b ∈ (g.ring r).frames, b ∈ (f.ring r).frames
  others : ∀ r ≠ y.ring, (g.ring r).frames = (f.ring r).frames
  sent : ∀ i, (g.port i).stats.sentFrames = (f.port i).stats.sentFrames
  received : (g.port y.port).stats.receivedFrames =
    (f.port y.port).stats.receivedFrames + bs.length
  idle : ∀ i ≠ y.port, (g.port i).stats.receivedFrames = (f.port i).stats.receivedFrames ∧
    (g.port i).stats.receiveErrors = (f.port i).stats.receiveErrors
  /-- Frames that have left the ring were received or counted as errors. -/
  balance : (g.port y.port).stats.receiveErrors + bs.length + (g.ring y.ring).frames.length =
    (f.port y.port).stats.receiveErrors + (f.ring y.ring).frames.length
  clean : (∀ b ∈ (f.ring y.ring).frames, (f.port y.port).judge f.store b = .deliver) →
    (g.port y.port).stats.receiveErrors = (f.port y.port).stats.receiveErrors

theorem length_rxBurst (f : Fabric) (y : RxQueue) (max : Nat) : (f.rxBurst y max).1.length =
    (f.fetched y max).countP ((f.port y.port).judge f.store · = .deliver) := by
  rw [f.rxBurst_delivered y max]
  exact length_filter_passes ((f.port y.port).judge_eq_deliver_iff f.store) _

theorem rxBurst_collected {y : RxQueue} (hy : y.port < f.ports.size) (hr : y.ring < f.rings.size)
    (hours : ∀ b ∈ (f.ring y.ring).frames, (f.port y.port).judge f.store b ≠ .foreign)
    (max : Nat) : f.Collected (f.rxBurst y max).2 y (f.rxBurst y max).1 := by
  obtain ⟨rest, hold, hnew⟩ := f.ring_rxBurst y max hr
  have hring : ((f.rxBurst y max).2.ring y.ring).frames = rest := by rw [hnew, if_pos rfl]
  have hothers : ∀ r ≠ y.ring, (f.rxBurst y max).2.ring r = f.ring r := fun r hne => by
    rw [hnew, if_neg hne]
  have hstats := f.stats_rxBurst hy max
  dsimp only at hstats
  have hfetched : ∀ b ∈ f.fetched y max, b ∈ (f.ring y.ring).frames := fun b hb => by
    rw [hold]
    exact List.mem_append_left _ hb
  refine ⟨.rxBurst f y max, (Upkeep.rxBurst f y max).store, fun b hb => ?_, fun r b hb => ?_,
    fun r hne => congrArg Ring.frames (hothers r hne), fun i => (hstats i).1, ?_,
    fun i hne => ?_, ?_, fun hall => ?_⟩
  · rw [f.rxBurst_delivered y max, List.mem_filter] at hb
    exact ⟨hfetched b hb.1, hb.2⟩
  · by_cases hne : r = y.ring
    · subst hne
      rw [hring] at hb
      rw [hold]
      exact List.mem_append_right _ hb
    · rwa [hothers r hne] at hb
  · rw [(hstats y.port).2.1, if_pos rfl, f.length_rxBurst y max]
  · rw [(hstats i).2.1, (hstats i).2.2, if_neg hne, if_neg hne]
    exact ⟨rfl, rfl⟩
  · have herrors := (hstats y.port).2.2
    have hverdicts := length_eq_verdicts ((f.port y.port).judge f.store) (f.fetched y max)
    have hforeign : (f.fetched y max).countP ((f.port y.port).judge f.store · = .foreign) = 0 := by
      rw [List.countP_eq_zero]
      intro b hb
      rw [decide_eq_true_iff]
      exact hours b (hfetched b hb)
    have hlength := congrArg List.length hold
    rw [if_pos rfl] at herrors
    rw [List.length_append] at hlength
    rw [herrors, f.length_rxBurst y max, hring]
    omega
  · have hoverlong :
        (f.fetched y max).countP ((f.port y.port).judge f.store · = .overlong) = 0 := by
      rw [List.countP_eq_zero]
      intro b hb
      simp [hall b (hfetched b hb)]
    rw [(hstats y.port).2.2, if_pos rfl, hoverlong, Nat.add_zero]

end Fabric
end Dataplane
