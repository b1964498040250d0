import Dataplane.Proofs.Port.Receipts

/-! # What becomes of buffers that are sent

A burst takes buffers off the front. Those that it takes stand at the end of its ring, in their
order, or all of them are given up because a link is down; a paused queue takes none. Buffers that
it leaves are as they were.
-/
namespace Dataplane

/-- What becomes of the buffers of a burst. -/
inductive Fate
  | kept
  | lost
  | carried
  deriving DecidableEq

namespace Fabric

variable {f : Fabric} {held : Multiset Buffer} {aside : Multiset Place} {x : TxQueue}
  {bufs : List Buffer}

/-- A link was down, and all buffers were taken and given up. -/
structure Lost (f : Fabric) (x : TxQueue) (bufs : List Buffer) (sent : Nat) (g : Fabric) :
    Prop where
  down : (f.port x.port).linkUp = false ∨ (f.port x.peer).linkUp = false
  count : sent = bufs.length
  store : Store.Released f.store bufs g.store
  burst : f.Burst x.port
    { (f.port x.port).stats with
      sendErrors := (f.port x.port).stats.sendErrors + sent }
    x.ring (f.ring x.ring).frames g

/-- Both links were up, and the buffers for which there was room were put on the ring. -/
structure Carried (f : Fabric) (x : TxQueue) (bufs : List Buffer) (sent : Nat) (g : Fabric) :
    Prop where
  up : (f.port x.port).linkUp = true ∧ (f.port x.peer).linkUp = true
  count : sent = min bufs.length (f.freeSlots x)
  store : g.store = f.store
  burst : f.Burst x.port
    { (f.port x.port).stats with
      sentFrames := (f.port x.port).stats.sentFrames + sent
      sentBytes := (f.port x.port).stats.sentBytes + ((bufs.take sent).map (·.window.size)).sum }
    x.ring ((f.ring x.ring).frames ++ bufs.take sent) g

/-- Whether a burst with outcome `r` ended in this way. A queue that is paused keeps everything,
whatever the links. -/
def Ends (f : Fabric) (x : TxQueue) (bufs : List Buffer) (r : Nat × List Buffer × Fabric) :
    Fate → Prop
  | .kept => isPaused (f.port x.port).txPaused x.queue = true ∧ r = (0, bufs, f)
  | .lost => isPaused (f.port x.port).txPaused x.queue = false ∧ f.Lost x bufs r.1 r.2.2
  | .carried => isPaused (f.port x.port).txPaused x.queue = false ∧ f.Carried x bufs r.1 r.2.2

/-- Every buffer is on the ring, or given up, or left, in this order, and a burst does not put some
on the ring and give others up. -/
def Parted (f : Fabric) (x : TxQueue) (bufs left : List Buffer) (g : Fabric) : Prop :=
  ∃ queued lost, bufs = queued ++ lost ++ left ∧ (queued = [] ∨ lost = []) ∧
    (g.ring x.ring).frames = (f.ring x.ring).frames ++ queued ∧
    Store.Released f.store lost g.store

/-- What a burst of `bufs` does. -/
structure Dispatches (f : Fabric) (x : TxQueue) (bufs : List Buffer) : Prop where
  left : (f.txBurst x bufs).2.1 = bufs.drop (f.txBurst x bufs).1
  bytes : ∀ b, (f.txBurst x bufs).2.2.store.data b = f.store.data b
  holders : ∀ b ∈ (f.txBurst x bufs).2.1,
    (f.txBurst x bufs).2.2.store.holders b = f.store.holders b
  fate : ∃! fate, f.Ends x bufs (f.txBurst x bufs) fate
  parted : f.Parted x bufs (f.txBurst x bufs).2.1 (f.txBurst x bufs).2.2

/-! ## How a burst ends -/

/-- What becomes of the buffers is settled beforehand. -/
def fate (f : Fabric) (x : TxQueue) : Fate :=
  if isPaused (f.port x.port).txPaused x.queue then .kept
  else if (f.port x.port).linkUp && (f.port x.peer).linkUp then .carried
  else .lost

theorem Ends.eq_fate {r : Nat × List Buffer × Fabric} {fate : Fate} (h : f.Ends x bufs r fate) :
    fate = f.fate x := by
  unfold Fabric.fate
  cases fate with
  | kept => rw [if_pos h.1]
  | lost =>
    have hdown := Bool.and_eq_false_iff.mpr h.2.down
    rw [h.1, hdown]
    rfl
  | carried =>
    rw [h.1, h.2.up.1, h.2.up.2]
    rfl

theorem paused_of_kept (h : f.fate x = .kept) :
    isPaused (f.port x.port).txPaused x.queue = true := by
  unfold Fabric.fate at h
  split at h
  · assumption
  · split at h <;> cases h

theorem down_of_lost (h : f.fate x = .lost) :
    isPaused (f.port x.port).txPaused x.queue = false ∧
      ((f.port x.port).linkUp && (f.port x.peer).linkUp) = false := by
  unfold Fabric.fate at h
  split at h
  · cases h
  · rename_i hrunning
    split at h
    · cases h
    · rename_i hdown
      exact ⟨Bool.eq_false_iff.mpr hrunning, Bool.eq_false_iff.mpr hdown⟩

theorem up_of_carried (h : f.fate x = .carried) :
    isPaused (f.port x.port).txPaused x.queue = false ∧
      ((f.port x.port).linkUp && (f.port x.peer).linkUp) = true := by
  unfold Fabric.fate at h
  split at h
  · cases h
  · rename_i hrunning
    split at h
    · rename_i hup
      exact ⟨Bool.eq_false_iff.mpr hrunning, hup⟩
    · cases h

/-- The fabric after buffers were lost because a link is down. -/
def lose (f : Fabric) (x : TxQueue) (bs : List Buffer) : Fabric :=
  (f.updateStore (·.dropAll bs)).updatePort x.port
    fun p => { p with stats := p.stats.lost bs.length }

/-- The fabric after buffers were put on the ring of a handle. -/
def load (f : Fabric) (x : TxQueue) (bs : List Buffer) : Fabric :=
  (f.updateRing x.ring fun r => { r with frames := r.frames ++ bs }).updatePort x.port
    fun p => { p with stats := p.stats.sent bs }

theorem txBurst_kept (h : f.fate x = .kept) (bs : List Buffer) : f.txBurst x bs = (0, bs, f) :=
  if_pos (paused_of_kept h)

theorem txBurst_lost (h : f.fate x = .lost) (bs : List Buffer) :
    f.txBurst x bs = (bs.length, [], f.lose x bs) := by
  obtain ⟨hrunning, hdown⟩ := down_of_lost h
  simp only [txBurst, hrunning, hdown, lose]
  rfl

theorem txBurst_carried (h : f.fate x = .carried) (bs : List Buffer) :
    f.txBurst x bs = (min bs.length (f.freeSlots x), bs.drop (min bs.length (f.freeSlots x)),
      f.load x (bs.take (min bs.length (f.freeSlots x)))) := by
  obtain ⟨hrunning, hup⟩ := up_of_carried h
  simp only [txBurst, hrunning, hup, load]
  rfl

theorem ends_kept (h : f.fate x = .kept) : f.Ends x bufs (f.txBurst x bufs) .kept :=
  ⟨paused_of_kept h, txBurst_kept h bufs⟩

theorem ends_lost (hbufs : Store.Released f.store bufs (f.store.dropAll bufs))
    (hp : x.port < f.ports.size) (h : f.fate x = .lost) :
    f.Ends x bufs (f.txBurst x bufs) .lost := by
  obtain ⟨hrunning, hdown⟩ := down_of_lost h
  have hsame : SamePorts f (f.updateStore (·.dropAll bufs)) := ⟨rfl, rfl, rfl⟩
  rw [txBurst_lost h]
  refine ⟨hrunning, Bool.and_eq_false_iff.mp hdown, rfl, hbufs, hsame.burst hp (fun i => ?_) rfl⟩
  split
  · rename_i hi
    rw [hi]
    rfl
  · rfl

theorem ends_carried (hp : x.port < f.ports.size) (hr : x.ring < f.rings.size)
    (h : f.fate x = .carried) : f.Ends x bufs (f.txBurst x bufs) .carried := by
  obtain ⟨hrunning, hup⟩ := up_of_carried h
  rw [txBurst_carried h]
  generalize hn : min bufs.length (f.freeSlots x) = n
  have hcount : (bufs.take n).length = n := by
    rw [List.length_take]
    omega
  have hsame : SamePorts f (f.updateRing x.ring fun ring =>
    { ring with frames := ring.frames ++ bufs.take n }) := f.samePorts_updateRing x.ring _
  refine ⟨hrunning, Bool.and_eq_true_iff.mp hup, hn.symm, rfl,
    hsame.burst hp (f.ring_refill hr rfl) ?_⟩
  rw [Stats.sent, totalSize_eq_sum, hcount]

theorem Balanced.ends (h : f.Balanced (↑bufs + held) aside) (hp : x.port < f.ports.size)
    (hr : x.ring < f.rings.size) : f.Ends x bufs (f.txBurst x bufs) (f.fate x) := by
  cases hfate : f.fate x with
  | kept => exact ends_kept hfate
  | lost =>
    have hlive : ↑bufs ≤ ↑bufs + held + f.inFlight :=
      (Multiset.le_add_right _ _).trans (Multiset.le_add_right _ _)
    exact ends_lost (Store.Ledger.dropAll_released h hlive) hp hfate
  | carried => exact ends_carried hp hr hfate

/-! ## Where the buffers are -/

variable {r : Nat × List Buffer × Fabric} {fate : Fate}

theorem Ends.data (h : f.Ends x bufs r fate) (b : Buffer) :
    r.2.2.store.data b = f.store.data b := by
  cases fate with
  | kept => rw [h.2]
  | lost => exact h.2.store.data b
  | carried => rw [h.2.store]

theorem Ends.parted (h : f.Ends x bufs r fate) (hleft : r.2.1 = bufs.drop r.1) :
    f.Parted x bufs r.2.1 r.2.2 := by
  cases fate with
  | kept =>
    rw [h.2]
    exact ⟨[], [], rfl, .inl rfl, (List.append_nil _).symm, .nil f.store⟩
  | lost =>
    have hring := h.2.burst.ring x.ring
    rw [if_pos rfl] at hring
    refine ⟨[], bufs, ?_, .inl rfl, ?_, h.2.store⟩
    · rw [hleft, h.2.count, List.drop_length, List.append_nil, List.nil_append]
    · rw [hring, List.append_nil]
  | carried =>
    have hring := h.2.burst.ring x.ring
    rw [if_pos rfl] at hring
    refine ⟨bufs.take r.1, [], ?_, .inr rfl, ?_, ?_⟩
    · rw [hleft, List.append_nil, List.take_append_drop]
    · rw [hring]
    · rw [h.2.store]
      exact .nil f.store

theorem Balanced.dispatches (h : f.Balanced (↑bufs + held) aside) (hp : x.port < f.ports.size)
    (hr : x.ring < f.rings.size) : f.Dispatches x bufs := by
  have hends := h.ends hp hr
  have hleft := f.txBurst_left x bufs
  refine ⟨hleft, hends.data, fun b hb => ?_, ⟨f.fate x, hends, fun _ hother => hother.eq_fate⟩,
    hends.parted hleft⟩
  have hlt : (f.txBurst x bufs).1 < bufs.length := by
    by_contra hall
    rw [hleft, List.drop_eq_nil_of_le (Nat.le_of_not_lt hall)] at hb
    cases hb
  rw [f.store_txBurst_of_lt x bufs hlt]

end Fabric
end Dataplane
