import Dataplane.Proofs.Buffer.Contents
import Dataplane.Proofs.Pool.Releases
import Dataplane.Proofs.Port.Counters
import Dataplane.Proofs.Port.Frames

/-! # What receiving takes

A burst takes the shortest beginning of a ring that has enough frames for the receiver, or the whole
ring. What it takes is delivered or given up, and there is no third way. It counts the frames and
bytes delivered, and as errors the frames that were too long. A paused queue does nothing.
-/
namespace Dataplane

/-- Whether a port takes a frame. It must not be too long. A port that does not take all frames
takes those that are too short to name a station, and those that name a group or its own. -/
def Port.Acceptable (x : Port) (s : Store) (b : Buffer) : Prop :=
  b.window.size ≤ x.mtu + 14 ∧
    (x.promiscuous = true ∨ b.window.size < 6 ∨ (s.data b).headD 0 &&& 1 ≠ 0 ∨
      (s.data b).take 6 = x.mac.bytes)

instance (x : Port) (s : Store) (b : Buffer) : Decidable (x.Acceptable s b) :=
  inferInstanceAs (Decidable (_ ∧ _))

/-- `bs` is the shortest beginning of `frames` in which `max` frames pass, or all of `frames` if
there are fewer. -/
structure Shortest (passes : Buffer → Bool) (max : Nat) (frames bs : List Buffer) : Prop where
  begins : bs <+: frames
  count : bs.countP passes = min max (frames.countP passes)
  shortest : ∀ cs, cs <+: frames → max ≤ cs.countP passes → bs <+: cs
  all : frames.countP passes < max → bs = frames

/-- From `f` to `g`, port `p` has come to count `stats` and ring `r` to hold `frames`. Other ports
and rings are what they were. -/
structure Fabric.Burst (f : Fabric) (p : Nat) (stats : Stats) (r : Nat) (frames : List Buffer)
    (g : Fabric) : Prop where
  base : g.base = f.base
  ports : g.ports.size = f.ports.size
  port : ∀ i, g.port i = if i = p then { f.port i with stats } else f.port i
  rings : g.rings.size = f.rings.size
  ring : ∀ i, g.ring i = if i = r then { f.ring i with frames } else f.ring i

/-- A burst has taken `popped` off a ring and delivered `got`. -/
structure Fabric.Receipt (f : Fabric) (x : RxQueue) (max : Nat) (popped got : List Buffer)
    (g : Fabric) : Prop where
  enough : Shortest (fun b => (f.port x.port).Acceptable f.store b) max (f.ring x.ring).frames popped
  delivered : got = popped.filter fun b => (f.port x.port).Acceptable f.store b
  /-- The other frames are given up. -/
  store : Store.Released f.store
    (popped.filter fun b => ¬(f.port x.port).Acceptable f.store b) g.store
  burst : f.Burst x.port
    { (f.port x.port).stats with
      receivedFrames := (f.port x.port).stats.receivedFrames + got.length
      receivedBytes := (f.port x.port).stats.receivedBytes + (got.map (·.window.size)).sum
      receiveErrors := (f.port x.port).stats.receiveErrors +
        popped.countP fun b => (f.port x.port).mtu + 14 < b.window.size }
    x.ring ((f.ring x.ring).frames.drop popped.length) g

/-- What a burst does, whether or not its queue is paused. -/
structure Fabric.Receives (f : Fabric) (x : RxQueue) (max : Nat) : Prop where
  paused : isPaused (f.port x.port).rxPaused x.queue = true → f.rxBurst x max = ([], f)
  running : isPaused (f.port x.port).rxPaused x.queue = false →
    ∃ popped, f.Receipt x max popped (f.rxBurst x max).1 (f.rxBurst x max).2

/-! ## Frames for a port -/

theorem addressed_iff (mac : Mac) (frame : List UInt8) : addressed mac frame = true ↔
    frame.length < 6 ∨ frame.headD 0 &&& 1 ≠ 0 ∨ frame.take 6 = mac.bytes := by
  rcases frame with _ | ⟨a, _ | ⟨b, _ | ⟨c, _ | ⟨d, _ | ⟨e, _ | ⟨g, rest⟩⟩⟩⟩⟩⟩
  all_goals simp [addressed]

theorem Port.accepts_iff (x : Port) {s : Store} {b : Buffer}
    (hlength : (s.data b).length = b.window.size) :
    x.accepts s b = true ↔ x.Acceptable s b := by
  rw [Port.accepts, Port.Acceptable, Bool.and_eq_true, decide_eq_true_iff, Bool.or_eq_true,
    addressed_iff, hlength]
  rfl

theorem Port.judge_eq_overlong_iff (x : Port) (s : Store) (b : Buffer) :
    x.judge s b = .overlong ↔ x.mtu + 14 < b.window.size := by
  unfold Port.judge
  change _ ↔ b.window.size > x.maxFrame
  split
  · simp [*]
  · split <;> simp [*]

/-! ## The frames that are fetched -/

namespace Shortest

variable {passes : Buffer → Bool} {max : Nat} {b : Buffer} {frames bs : List Buffer}

theorem zero (passes : Buffer → Bool) (frames : List Buffer) : Shortest passes 0 frames [] where
  begins := List.nil_prefix
  count := by rw [List.countP_nil, Nat.zero_min]
  shortest _ _ _ := List.nil_prefix
  all h := absurd h (Nat.not_lt_zero _)

theorem nil (passes : Buffer → Bool) (max : Nat) : Shortest passes max [] [] where
  begins := List.nil_prefix
  count := by rw [List.countP_nil, Nat.min_zero]
  shortest _ _ _ := List.nil_prefix
  all _ := rfl

theorem cons {k : Nat} (h : Shortest passes max frames bs) (hk : k = if passes b then 1 else 0)
    (hwanted : 0 < max + k) : Shortest passes (max + k) (b :: frames) (b :: bs) where
  begins := List.cons_prefix_cons.mpr ⟨rfl, h.begins⟩
  count := by
    rw [List.countP_cons, List.countP_cons, ← hk, h.count]
    omega
  shortest cs hcs hmax := by
    cases cs with
    | nil =>
      rw [List.countP_nil] at hmax
      omega
    | cons c rest =>
      obtain ⟨rfl, hrest⟩ := List.cons_prefix_cons.mp hcs
      rw [List.countP_cons, ← hk] at hmax
      exact List.cons_prefix_cons.mpr ⟨rfl, h.shortest rest hrest (Nat.le_of_add_le_add_right hmax)⟩
  all hfew := by
    rw [List.countP_cons, ← hk] at hfew
    rw [h.all (Nat.lt_of_add_lt_add_right hfew)]

end Shortest

theorem fetch_shortest (passes : Buffer → Bool) (max : Nat) (frames : List Buffer) :
    Shortest passes max frames (fetch passes max frames) := by
  induction frames generalizing max with
  | nil => cases max <;> exact .nil passes _
  | cons b rest ih =>
    cases max with
    | zero => exact .zero passes _
    | succ max =>
      rw [fetch]
      by_cases hb : passes b = true
      · rw [if_pos hb]
        exact (ih max).cons (if_pos hb).symm (Nat.succ_pos max)
      · rw [if_neg hb]
        exact (ih (max + 1)).cons (if_neg hb).symm (Nat.succ_pos max)

theorem fetch_congr {passes other : Buffer → Bool} {frames : List Buffer}
    (h : ∀ b ∈ frames, passes b = other b) (max : Nat) :
    fetch passes max frames = fetch other max frames := by
  induction frames generalizing max with
  | nil => cases max <;> rfl
  | cons b rest ih =>
    have hrest := ih fun c hc => h c (List.mem_cons_of_mem b hc)
    cases max with
    | zero => rfl
    | succ max => rw [fetch, fetch, h b List.mem_cons_self, hrest, hrest]

theorem totalSize_eq_sum (bs : List Buffer) : totalSize bs = (bs.map (·.window.size)).sum := by
  induction bs with
  | nil => rfl
  | cons b rest ih =>
    rw [List.map_cons, List.sum_cons, ← ih]
    rfl

/-! ## Bursts -/

namespace Fabric

variable {f : Fabric} {held : Multiset Buffer} {aside : Multiset Place} {p r : Nat}

theorem ring_refill (hr : r < f.rings.size) {k : Ring → Ring} {frames : List Buffer}
    (hk : k (f.ring r) = { f.ring r with frames }) (i : Nat) :
    (f.updateRing r k).ring i = if i = r then { f.ring i with frames } else f.ring i := by
  rw [f.ring_updateRing r fun hle => absurd hr (Nat.not_lt.mpr hle)]
  split
  · rename_i hi
    rw [hi]
    exact hk
  · rfl

theorem SamePorts.burst {g : Fabric} (h : SamePorts f g) (hp : p < f.ports.size) {c : Port → Port}
    {stats : Stats} {frames : List Buffer}
    (hring : ∀ i, g.ring i = if i = r then { f.ring i with frames } else f.ring i)
    (hc : c (f.port p) = { f.port p with stats }) :
    f.Burst p stats r frames (g.updatePort p c) where
  base := h.base
  ports := by rw [size_updatePort, h.ports]
  port i := by
    have hsize : p < g.ports.size := h.ports ▸ hp
    rw [port_updatePort_of_lt hsize, h.port]
    split
    · rename_i hi
      rw [hi]
      exact hc
    · rfl
  rings := h.size
  ring := hring

theorem Balanced.accepts_iff (h : f.Balanced held aside) {b : Buffer}
    (hb : b ∈ (f.ring r).frames) (x : Port) : x.accepts f.store b = true ↔ x.Acceptable f.store b :=
  x.accepts_iff (h.length_data (Multiset.mem_add.mpr (.inr (f.mem_inFlight hb))))

/-- Harvesting takes a shortest beginning, delivers what is acceptable in it and drops the rest. -/
theorem Balanced.exists_harvest (h : f.Balanced held aside) (x : Port) (r max : Nat) :
    ∃ popped, Shortest (fun b => x.Acceptable f.store b) max (f.ring r).frames popped ∧
      harvest (x.judge f.store) max (f.ring r).frames =
        { delivered := popped.filter fun b => x.Acceptable f.store b
          dropped := popped.filter fun b => ¬x.Acceptable f.store b
          overlong := popped.countP fun b => x.mtu + 14 < b.window.size
          rest := (f.ring r).frames.drop popped.length } := by
  have hpasses : ∀ b ∈ (f.ring r).frames, x.accepts f.store b = decide (x.Acceptable f.store b) :=
    fun b hb => Bool.eq_iff_iff.mpr ((h.accepts_iff hb x).trans decide_eq_true_iff.symm)
  have hshortest := fetch_shortest (fun b => x.Acceptable f.store b) max (f.ring r).frames
  obtain ⟨rest, hrest, hharvest⟩ :=
    harvest_eq (x.judge_eq_deliver_iff f.store) max (f.ring r).frames
  rw [fetch_congr hpasses max] at hrest hharvest
  generalize fetch _ max (f.ring r).frames = popped at hshortest hrest hharvest
  have hmem : ∀ b ∈ popped, x.accepts f.store b = decide (x.Acceptable f.store b) :=
    fun b hb => hpasses b (hshortest.begins.subset hb)
  refine ⟨popped, hshortest, ?_⟩
  rw [hharvest, List.filter_congr hmem, List.filter_congr fun b hb => congrArg (!·) (hmem b hb)]
  simp only [Port.judge_eq_overlong_iff, decide_not, hrest, List.drop_left]

theorem Balanced.receipt (h : f.Balanced held aside) {x : RxQueue} (hp : x.port < f.ports.size)
    (hr : x.ring < f.rings.size) (hrunning : isPaused (f.port x.port).rxPaused x.queue = false)
    (max : Nat) : ∃ popped, f.Receipt x max popped (f.rxBurst x max).1 (f.rxBurst x max).2 := by
  obtain ⟨popped, hshortest, hharvest⟩ := h.exists_harvest (f.port x.port) x.ring max
  have hlive : ↑(popped.filter fun b => ¬(f.port x.port).Acceptable f.store b) ≤
      held + f.inFlight :=
    (Multiset.coe_le.mpr (List.filter_sublist.trans hshortest.begins.sublist).subperm).trans
      ((f.frames_le_inFlight x.ring).trans (Multiset.le_add_left _ _))
  rw [rxBurst_running hrunning]
  generalize hgot : f.reaped x max = got
  have hsame : SamePorts f ((f.updateRing x.ring fun ring =>
      { ring with frames := got.rest }).updateStore (·.dropAll got.dropped)) :=
    (f.samePorts_updateRing x.ring _).trans ⟨rfl, rfl, rfl⟩
  obtain rfl : got = _ := hgot.symm.trans hharvest
  refine ⟨popped, hshortest, rfl, Store.Ledger.dropAll_released h hlive,
    hsame.burst hp (f.ring_refill hr rfl) ?_⟩
  rw [Stats.received, totalSize_eq_sum]

theorem Balanced.receives (h : f.Balanced held aside) {x : RxQueue} (hp : x.port < f.ports.size)
    (hr : x.ring < f.rings.size) (max : Nat) : f.Receives x max where
  paused hpaused := rxBurst_paused hpaused max
  running hrunning := h.receipt hp hr hrunning max

end Fabric
end Dataplane
