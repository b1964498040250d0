import Dataplane.Proofs.Port.Parts

/-! # What bursts move

A burst through a send handle puts the frames that fit at the end of its ring. A burst through a
receive handle takes frames off the front until it has enough, and delivers those that pass the
settings of the port. Other rings are left alone.
-/
namespace Dataplane

/-- Whether a frame passes the settings of a port: it is not too long, and the port takes all
frames or the frame is meant for it. -/
def Port.accepts (x : Port) (s : Store) (b : Buffer) : Bool :=
  b.window.size ≤ x.mtu + etherHeaderLength && (x.promiscuous || addressed x.mac (s.data b))

/-- Takes frames until `max` of them pass or none is left. -/
def fetch (passes : Buffer → Bool) : (max : Nat) → List Buffer → List Buffer
  | 0, _ => []
  | _ + 1, [] => []
  | max + 1, b :: frames =>
    if passes b then b :: fetch passes max frames else b :: fetch passes (max + 1) frames

theorem length_filter_fetch_le (passes : Buffer → Bool) (max : Nat) (frames : List Buffer) :
    ((fetch passes max frames).filter passes).length ≤ max := by
  induction frames generalizing max with
  | nil => cases max <;> exact Nat.zero_le _
  | cons b rest ih =>
    cases max with
    | zero => exact Nat.zero_le _
    | succ max =>
      rw [fetch]
      split
      · rename_i hpass
        rw [List.filter_cons_of_pos hpass, List.length_cons]
        exact Nat.succ_le_succ (ih max)
      · rename_i hfail
        rw [List.filter_cons_of_neg hfail]
        exact ih (max + 1)

/-- Six bytes are enough to see whom a frame is meant for. -/
theorem addressed_take (mac : Mac) (frame : List UInt8) :
    addressed mac (frame.take 6) = addressed mac frame := by
  rcases frame with _ | ⟨a, _ | ⟨b, _ | ⟨c, _ | ⟨d, _ | ⟨e, _ | ⟨g, rest⟩⟩⟩⟩⟩⟩
  all_goals rfl

theorem Port.judge_eq_deliver_iff (x : Port) (s : Store) (b : Buffer) :
    x.judge s b = .deliver ↔ x.accepts s b = true := by
  have haddressed : addressed x.mac (s.head b 6) = addressed x.mac (s.data b) := by
    rw [← addressed_take x.mac (s.data b), Store.head, Store.data, List.take_take]
  simp only [Port.judge, Port.accepts, Port.maxFrame, haddressed]
  by_cases hlong : b.window.size > x.mtu + etherHeaderLength
  · simp [hlong]
  · rw [if_neg hlong]
    cases x.promiscuous <;> cases addressed x.mac (s.data b) <;> simp [Nat.le_of_not_lt hlong]

/-- Frames are fetched in order. Those that pass are delivered, and the others are dropped. -/
theorem harvest_eq {judge : Buffer → Verdict} {passes : Buffer → Bool}
    (hjudge : ∀ b, judge b = .deliver ↔ passes b = true) (max : Nat) (frames : List Buffer) :
    ∃ rest, frames = fetch passes max frames ++ rest ∧
      harvest judge max frames =
        { delivered := (fetch passes max frames).filter passes
          dropped := (fetch passes max frames).filter (!passes ·)
          overlong := (fetch passes max frames).countP (judge · = .overlong)
          rest } := by
  induction frames generalizing max with
  | nil => cases max <;> exact ⟨[], rfl, rfl⟩
  | cons b rest ih =>
    cases max with
    | zero => exact ⟨b :: rest, rfl, rfl⟩
    | succ max =>
      have hb := hjudge b
      cases hverdict : judge b with
      | deliver =>
        obtain ⟨left, hleft, hrest⟩ := ih max
        refine ⟨left, ?_, ?_⟩
        · rw [fetch, if_pos (hb.mp hverdict), List.cons_append, ← hleft]
        · simp [harvest, fetch, hverdict, hb.mp hverdict, hrest]
      | overlong | foreign =>
        have hfails : passes b = false := by
          rw [← Bool.not_eq_true, ← hb, hverdict]
          exact nofun
        obtain ⟨left, hleft, hrest⟩ := ih (max + 1)
        refine ⟨left, ?_, ?_⟩
        · rw [fetch, hfails, if_neg Bool.false_ne_true, List.cons_append, ← hleft]
        · simp [harvest, fetch, hverdict, hfails, hrest]

theorem harvest_fetch {judge : Buffer → Verdict} {passes : Buffer → Bool}
    (hjudge : ∀ b, judge b = .deliver ↔ passes b = true) (max : Nat) (frames : List Buffer) :
    (harvest judge max frames).delivered = (fetch passes max frames).filter passes ∧
      frames = fetch passes max frames ++ (harvest judge max frames).rest := by
  obtain ⟨rest, hframes, hharvest⟩ := harvest_eq hjudge max frames
  rw [hharvest]
  exact ⟨rfl, hframes⟩

theorem length_filter_passes {judge : Buffer → Verdict} {passes : Buffer → Bool}
    (hjudge : ∀ b, judge b = .deliver ↔ passes b = true) (bs : List Buffer) :
    (bs.filter passes).length = bs.countP (judge · = .deliver) := by
  rw [← List.countP_eq_length_filter]
  refine List.countP_congr fun b _ => ?_
  rw [decide_eq_true_iff]
  exact (hjudge b).symm

theorem modify_eq_self {α : Type} [Inhabited α] {xs : Array α} {i : Nat} {g : α → α}
    (h : g (xs.getD i default) = xs.getD i default) : xs.modify i g = xs := by
  apply Array.ext_getElem?
  intro j
  rw [Array.getElem?_modify]
  split
  · subst j
    cases hx : xs[i]? with
    | none => rfl
    | some a =>
      rw [Array.getD_eq_getD_getElem?, hx] at h
      exact congrArg some h
  · rfl

namespace Fabric

variable (f : Fabric)

/-- What a burst takes off the ring of a handle. -/
def reaped (x : RxQueue) (max : Nat) : Harvest :=
  harvest ((f.port x.port).judge f.store) max (f.ring x.ring).frames

def reap (x : RxQueue) (got : Harvest) : Fabric :=
  ((f.updateRing x.ring fun r => { r with frames := got.rest }).updateStore
    (·.dropAll got.dropped)).updatePort x.port fun p => { p with stats := p.stats.received got }

theorem rxBurst_paused {f : Fabric} {x : RxQueue}
    (h : isPaused (f.port x.port).rxPaused x.queue = true) (max : Nat) :
    f.rxBurst x max = ([], f) := by
  unfold rxBurst
  simp only [h, if_true]

theorem rxBurst_running {f : Fabric} {x : RxQueue}
    (h : isPaused (f.port x.port).rxPaused x.queue = false) (max : Nat) :
    f.rxBurst x max = ((f.reaped x max).delivered, f.reap x (f.reaped x max)) := by
  unfold rxBurst
  simp only [h, Bool.false_eq_true, if_false, reap, reaped]

/-- The frames that a burst takes off the ring. -/
def fetched (x : RxQueue) (max : Nat) : List Buffer :=
  if isPaused (f.port x.port).rxPaused x.queue then []
  else fetch ((f.port x.port).accepts f.store) max (f.ring x.ring).frames

/-- The frames that a burst puts on the ring, which are those it says it took, unless a link is
down. -/
def carried (x : TxQueue) (bufs : List Buffer) : List Buffer :=
  if (f.port x.port).linkUp && (f.port x.peer).linkUp then bufs.take (f.txBurst x bufs).1 else []

theorem rxBurst_delivered (x : RxQueue) (max : Nat) :
    (f.rxBurst x max).1 = (f.fetched x max).filter ((f.port x.port).accepts f.store) := by
  unfold rxBurst fetched
  dsimp only
  split
  · rfl
  · exact (harvest_fetch ((f.port x.port).judge_eq_deliver_iff f.store) max _).1

theorem length_rxBurst_le (x : RxQueue) (max : Nat) : (f.rxBurst x max).1.length ≤ max := by
  rw [f.rxBurst_delivered x max, fetched]
  split
  · exact Nat.zero_le _
  · exact length_filter_fetch_le _ _ _

theorem ring_rxBurst (x : RxQueue) (max : Nat) (hx : x.ring < f.rings.size) :
    ∃ rest, (f.ring x.ring).frames = f.fetched x max ++ rest ∧
      ∀ r, (f.rxBurst x max).2.ring r =
        if r = x.ring then { f.ring r with frames := rest } else f.ring r := by
  unfold rxBurst fetched
  dsimp only
  split
  · refine ⟨_, rfl, fun r => ?_⟩
    split
    · rename_i hr
      rw [hr]
    · rfl
  · refine ⟨_, (harvest_fetch ((f.port x.port).judge_eq_deliver_iff f.store) max _).2, fun r => ?_⟩
    rw [ring_updatePort, ring_updateStore,
      f.ring_updateRing x.ring fun hr => absurd hx (Nat.not_lt.mpr hr)]

/-- A burst either puts nothing on the ring or what fits. -/
theorem txBurst_cases (x : TxQueue) (bufs : List Buffer) :
    (f.carried x bufs = [] ∧ (f.txBurst x bufs).2.2.rings = f.rings) ∨
    (f.carried x bufs = bufs.take (min bufs.length (f.freeSlots x)) ∧
      (f.txBurst x bufs).2.2.rings = (f.updateRing x.ring fun r =>
        { r with frames := r.frames ++ f.carried x bufs }).rings) := by
  unfold carried txBurst
  dsimp only
  by_cases hpaused : isPaused (f.port x.port).txPaused x.queue = true
  · left
    rw [if_pos hpaused, List.take_zero, ite_self]
    exact ⟨rfl, rfl⟩
  · by_cases hlinks : ((f.port x.port).linkUp && (f.port x.peer).linkUp) = true
    · right
      simp [hpaused, hlinks]
    · left
      simp [hpaused, hlinks]

theorem ring_txBurst (x : TxQueue) (bufs : List Buffer) (hx : x.ring < f.rings.size) (r : Nat) :
    (f.txBurst x bufs).2.2.ring r =
      if r = x.ring then { f.ring r with frames := (f.ring r).frames ++ f.carried x bufs }
      else f.ring r := by
  rcases f.txBurst_cases x bufs with ⟨hnone, hrings⟩ | ⟨-, hrings⟩
  · rw [ring, hrings, hnone]
    simp [ring]
  · rw [ring, hrings]
    exact f.ring_updateRing x.ring (fun hr => absurd hx (Nat.not_lt.mpr hr)) r

theorem size_rxBurst (x : RxQueue) (max : Nat) :
    (f.rxBurst x max).2.rings.size = f.rings.size := by
  unfold rxBurst
  dsimp only
  split
  · rfl
  · exact f.size_updateRing x.ring _

theorem size_txBurst (x : TxQueue) (bufs : List Buffer) :
    (f.txBurst x bufs).2.2.rings.size = f.rings.size := by
  rcases f.txBurst_cases x bufs with ⟨-, hrings⟩ | ⟨-, hrings⟩
  · rw [hrings]
  · rw [hrings]
    exact f.size_updateRing x.ring _

/-- With both links up, what a burst says it took is what it put on the ring. -/
theorem txBurst_count (x : TxQueue) (bufs : List Buffer) (hport : (f.port x.port).linkUp = true)
    (hpeer : (f.port x.peer).linkUp = true) :
    (f.txBurst x bufs).1 = (f.carried x bufs).length := by
  unfold carried txBurst
  dsimp only
  rw [hport, hpeer]
  split
  · rfl
  · simp

theorem length_carried_le (x : TxQueue) (bufs : List Buffer) :
    (f.carried x bufs).length ≤ (f.ring x.ring).vacancy := by
  rcases f.txBurst_cases x bufs with ⟨hnone, -⟩ | ⟨hsome, -⟩
  · rw [hnone]
    exact Nat.zero_le _
  · rw [hsome, List.length_take]
    unfold freeSlots
    omega

/-! ## What a burst leaves -/

theorem txBurst_left (x : TxQueue) (bufs : List Buffer) :
    (f.txBurst x bufs).2.1 = bufs.drop (f.txBurst x bufs).1 := by
  unfold txBurst
  dsimp only
  split
  · rfl
  · split
    · exact (List.drop_length).symm
    · rfl

theorem txBurst_le (x : TxQueue) (bufs : List Buffer) : (f.txBurst x bufs).1 ≤ bufs.length := by
  unfold txBurst
  dsimp only
  split
  · exact Nat.zero_le _
  · split
    · exact Nat.le_refl _
    · exact Nat.min_le_left _ _

/-- A burst that leaves something has given nothing up. -/
theorem store_txBurst_of_lt (x : TxQueue) (bufs : List Buffer)
    (h : (f.txBurst x bufs).1 < bufs.length) :
    (f.txBurst x bufs).2.2.store = f.store := by
  unfold txBurst at h ⊢
  dsimp only at h ⊢
  split
  · rfl
  · rename_i hpaused
    rw [if_neg hpaused] at h
    split
    · rename_i hlinks
      rw [if_pos hlinks] at h
      exact absurd h (Nat.lt_irrefl _)
    · rfl

theorem txBurst_nil (x : TxQueue) : f.txBurst x [] = (0, [], f) := by
  have hport : ∀ g : Port → Port, g (f.port x.port) = f.port x.port →
      f.updatePort x.port g = f := by
    intro g hg
    rw [updatePort, modify_eq_self hg]
  have hring : f.updateRing x.ring (fun r => { r with frames := r.frames ++ [] }) = f := by
    rw [updateRing, modify_eq_self]
    rw [List.append_nil]
  unfold txBurst
  dsimp only
  split
  · rfl
  · split
    · exact congrArg (0, [], ·) (hport _ rfl)
    · simp only [List.length_nil, Nat.zero_min, List.take_zero, List.drop_zero, hring]
      exact congrArg (0, [], ·) (hport _ rfl)

end Fabric
end Dataplane
