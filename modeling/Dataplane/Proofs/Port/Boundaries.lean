import Dataplane.Proofs.Port.Dispatch
import Dataplane.Proofs.Port.Passage

/-! # Where bursts end

It does not matter where one burst ends and the next one begins. Frames that are asked for in
several bursts are those that one burst would have brought, in the same order, and buffers that are
sent in several parts, what was left before what is new, go where one burst would have put them.
The rings, the counters and the pools are the same afterwards. A burst that has enough leaves the
frames behind the last one delivered where they are, whether or not the port would take them, so
that the next burst finds what one long burst would have come to; and a full ring stays full for
what follows.
-/
namespace Dataplane

/-! ## Receiving -/

/-- What two harvests came to, the second from what the first left. -/
def Harvest.join (h k : Harvest) : Harvest where
  delivered := h.delivered ++ k.delivered
  dropped := h.dropped ++ k.dropped
  overlong := h.overlong + k.overlong
  rest := k.rest

@[simp] theorem Harvest.dropped_join (h k : Harvest) :
    (h.join k).dropped = h.dropped ++ k.dropped := rfl

@[simp] theorem Harvest.rest_join (h k : Harvest) : (h.join k).rest = k.rest := rfl

theorem harvest_nil (judge : Buffer → Verdict) (max : Nat) : harvest judge max [] = {} := by
  cases max <;> rfl

theorem harvest_add (judge : Buffer → Verdict) (m n : Nat) (frames : List Buffer) :
    harvest judge (m + n) frames =
      (harvest judge m frames).join (harvest judge n (harvest judge m frames).rest) := by
  induction frames generalizing m with
  | nil => simp only [harvest_nil, Harvest.join, List.append_nil, Nat.add_zero]
  | cons b rest ih =>
    cases m with
    | zero => simp only [harvest, Harvest.join, Nat.zero_add, List.nil_append]
    | succ m =>
      have hfewer := ih m
      have hsame := ih (m + 1)
      rw [Nat.succ_add] at hsame ⊢
      -- Only a frame that is delivered brings the first burst nearer to its end.
      cases hverdict : judge b with
      | deliver => simp only [harvest, hverdict, hfewer, Harvest.join, List.cons_append]
      | overlong =>
        simp only [harvest, hverdict, hsame, Harvest.join, List.cons_append]
        simp only [Nat.add_right_comm]
      | foreign => simp only [harvest, hverdict, hsame, Harvest.join, List.cons_append]

theorem totalSize_append (bs cs : List Buffer) :
    totalSize (bs ++ cs) = totalSize bs + totalSize cs := by
  induction bs with
  | nil => simp [totalSize]
  | cons b rest ih =>
    simp only [totalSize, List.cons_append, List.foldr_cons] at ih ⊢
    omega

theorem Stats.received_join (s : Stats) (h k : Harvest) :
    s.received (h.join k) = (s.received h).received k := by
  simp only [Stats.received, Harvest.join, List.length_append, totalSize_append, Nat.add_assoc]

theorem Stats.sent_append (s : Stats) (bs cs : List Buffer) :
    s.sent (bs ++ cs) = (s.sent bs).sent cs := by
  simp only [Stats.sent, List.length_append, totalSize_append, Nat.add_assoc]

/-- What was given up has no say in what a port takes. -/
theorem Port.judge_of_sameMemory (x : Port) {s t : Store} (h : s.SameMemory t) :
    x.judge t = x.judge s := by
  funext b
  have hhead : t.head b 6 = s.head b 6 := by
    simp only [Store.head, h.bytes]
  unfold Port.judge
  rw [hhead]

theorem Store.dropAll_append (s : Store) (bs cs : List Buffer) :
    s.dropAll (bs ++ cs) = (s.dropAll bs).dropAll cs :=
  List.foldl_append

namespace Fabric

variable (f : Fabric) (x : RxQueue)

/-- Two harvests leave what both together would have left. -/
theorem reap_reap (got more : Harvest) :
    (f.reap x got).reap x more = f.reap x (got.join more) := by
  simp only [reap, updateStore, updatePort, updateRing, modify_modify, Stats.received_join,
    Harvest.dropped_join, Harvest.rest_join, Store.dropAll_append]

theorem frames_reap (max : Nat) :
    ((f.reap x (f.reaped x max)).ring x.ring).frames = (f.reaped x max).rest := by
  have hring : (f.reap x (f.reaped x max)).ring x.ring =
      (f.updateRing x.ring fun r => { r with frames := (f.reaped x max).rest }).ring x.ring := rfl
  rw [hring, ring_updateRing, if_pos rfl]
  intro hsize
  have hnone : (f.ring x.ring).frames = [] := by
    rw [f.ring_of_size_le hsize]
    rfl
  have hrest : (f.reaped x max).rest = [] := by
    simp only [reaped, hnone, harvest_nil]
  rw [hrest]
  rfl

theorem steady_reap (got : Harvest) : f.Steady (f.reap x got) where
  ports := size_updatePort _ x.port _
  rings := f.size_updateRing x.ring _
  port := read_updatePort Port.bare _ x.port _ fun _ => rfl

/-- A second harvest takes from what the first one left, and by the same rule. -/
theorem reaped_reap (m n : Nat) :
    (f.reap x (f.reaped x m)).reaped x n =
      harvest ((f.port x.port).judge f.store) n (f.reaped x m).rest := by
  have hmemory : f.store.SameMemory (f.reap x (f.reaped x m)).store :=
    Store.sameMemory_dropAll f.store _
  have hjudge := (f.steady_reap x (f.reaped x m)).read (fun p => p.judge f.store) (fun _ => rfl)
  rw [reaped, frames_reap, Port.judge_of_sameMemory _ hmemory, hjudge]

theorem reaped_add (m n : Nat) :
    f.reaped x (m + n) =
      (f.reaped x m).join ((f.reap x (f.reaped x m)).reaped x n) := by
  rw [reaped_reap]
  exact harvest_add _ m n _

/-- A burst goes on where the last one ended. -/
theorem rxBurst_add (m n : Nat) :
    f.rxBurst x (m + n) =
      ((f.rxBurst x m).1 ++ ((f.rxBurst x m).2.rxBurst x n).1,
        ((f.rxBurst x m).2.rxBurst x n).2) := by
  cases hpaused : isPaused (f.port x.port).rxPaused x.queue with
  | true => simp only [rxBurst_paused hpaused, List.append_nil]
  | false =>
    have hrunning : isPaused ((f.reap x (f.reaped x m)).port x.port).rxPaused x.queue = false := by
      rw [(f.steady_reap x (f.reaped x m)).read (·.rxPaused) (fun _ => rfl)]
      exact hpaused
    simp only [rxBurst_running hpaused, rxBurst_running hrunning, reap_reap, reaped_add]
    rfl

end Fabric

/-! ## Sending -/

namespace Fabric

variable (f : Fabric) (x : TxQueue)

theorem lose_lose (bs cs : List Buffer) : (f.lose x bs).lose x cs = f.lose x (bs ++ cs) := by
  simp only [lose, updateStore, updatePort, modify_modify, Stats.lost, Store.dropAll_append,
    List.length_append, Nat.add_assoc]

theorem load_load (bs cs : List Buffer) : (f.load x bs).load x cs = f.load x (bs ++ cs) := by
  simp only [load, updatePort, updateRing, modify_modify, Stats.sent_append, List.append_assoc]

theorem fate_txBurst (bs : List Buffer) : (f.txBurst x bs).2.2.fate x = f.fate x := by
  have hsteady := Steady.txBurst f x bs
  unfold fate
  rw [hsteady.read (·.txPaused) fun _ => rfl, hsteady.read (·.linkUp) fun _ => rfl,
    hsteady.read (·.linkUp) fun _ => rfl]

theorem freeSlots_load (bs : List Buffer) :
    (f.load x bs).freeSlots x = f.freeSlots x - bs.length := by
  have hring : (f.load x bs).ring x.ring =
      (f.updateRing x.ring fun r => { r with frames := r.frames ++ bs }).ring x.ring := rfl
  unfold freeSlots
  by_cases hsize : f.rings.size ≤ x.ring
  · rw [hring, updateRing_of_size_le f hsize, f.ring_of_size_le hsize]
    exact (Nat.zero_sub _).symm
  · rw [hring, ring_updateRing f x.ring (fun h => absurd h hsize), if_pos rfl]
    simp only [Ring.vacancy, List.length_append]
    omega

/-- What was left of a burst goes before what is new. -/
theorem txBurst_append (xs ys : List Buffer) :
    f.txBurst x (xs ++ ys) =
      let (n, left, g) := f.txBurst x xs
      let (k, rest, h) := g.txBurst x (left ++ ys)
      (n + k, rest, h) := by
  have hfate := f.fate_txBurst x xs
  cases h : f.fate x with
  | kept =>
    simp only [txBurst_kept h, Nat.add_zero]
  | lost =>
    rw [h] at hfate
    rw [txBurst_lost h xs] at hfate ⊢
    simp only [txBurst_lost h, txBurst_lost hfate, lose_lose, List.length_append, List.nil_append]
  | carried =>
    rw [h] at hfate
    rw [txBurst_carried h xs] at hfate ⊢
    have hroom := f.freeSlots_load x (xs.take (min xs.length (f.freeSlots x)))
    simp only [txBurst_carried h, txBurst_carried hfate, load_load, hroom]
    generalize f.freeSlots x = room
    -- The first burst took `n` of the buffers, and what it left is the rest of all of them.
    generalize hn : min xs.length room = n
    have hleft : xs.drop n ++ ys = (xs ++ ys).drop n := by
      rw [List.drop_append_of_le_length (by omega)]
    have htaken : xs.take n = (xs ++ ys).take n := by
      rw [List.take_append_of_le_length (by omega)]
    have hcount : min (xs ++ ys).length room =
        n + min ((xs ++ ys).drop n).length (room - (xs.take n).length) := by
      simp only [List.length_drop, List.length_take, List.length_append]
      omega
    rw [hleft, hcount, htaken, List.take_add, List.drop_drop]

/-! ## Any number of bursts -/

/-- Bursts that ask for so many frames each, one after another. -/
def rxBursts (x : RxQueue) : (sizes : List Nat) → Fabric → List Buffer × Fabric
  | [], f => ([], f)
  | max :: sizes, f =>
    let (first, f) := f.rxBurst x max
    let (others, f) := rxBursts x sizes f
    (first ++ others, f)

/-- Bursts of so many parts, one after another. What a burst leaves goes before the next part. -/
def txBursts (x : TxQueue) : (left : List Buffer) → (parts : List (List Buffer)) → Fabric →
    Nat × List Buffer × Fabric
  | left, [], f => (0, left, f)
  | left, bs :: parts, f =>
    let (n, left, f) := f.txBurst x (left ++ bs)
    let (k, left, f) := txBursts x left parts f
    (n + k, left, f)

theorem rxBurst_zero (x : RxQueue) : f.rxBurst x 0 = ([], f) := by
  cases hpaused : isPaused (f.port x.port).rxPaused x.queue with
  | true => exact rxBurst_paused hpaused 0
  | false =>
    have hreaped : f.reaped x 0 = { rest := (f.ring x.ring).frames } := by
      unfold reaped harvest
      rfl
    have hring :
        f.updateRing x.ring (fun r => { r with frames := (f.ring x.ring).frames }) = f := by
      rw [updateRing, modify_eq_self]
      rfl
    have hport : f.updatePort x.port (fun p => { p with stats := p.stats.received {} }) = f :=
      f.updatePort_eq_self x.port rfl
    rw [rxBurst_running hpaused, hreaped]
    exact congrArg ([], ·) (by rw [reap, hring]; exact hport)

theorem rxBursts_eq (x : RxQueue) (sizes : List Nat) :
    f.rxBursts x sizes = f.rxBurst x sizes.sum := by
  induction sizes generalizing f with
  | nil => exact (f.rxBurst_zero x).symm
  | cons max sizes ih =>
    simp only [rxBursts, List.sum_cons, rxBurst_add, ih]

/-- The parts that follow a burst go where they would have gone with it. -/
theorem txBursts_after (xs : List Buffer) (parts : List (List Buffer)) :
    f.txBurst x (xs ++ parts.flatten) =
      let (n, left, g) := f.txBurst x xs
      let (k, rest, h) := g.txBursts x left parts
      (n + k, rest, h) := by
  induction parts generalizing xs with
  | nil => simp only [List.flatten_nil, List.append_nil, txBursts, Nat.add_zero]
  | cons bs parts ih =>
    have hfirst := f.txBurst_append x xs bs
    rw [List.flatten_cons, ← List.append_assoc, ih (xs ++ bs), hfirst]
    simp only [txBursts, Nat.add_assoc]

theorem txBursts_eq (parts : List (List Buffer)) :
    f.txBursts x [] parts = f.txBurst x parts.flatten := by
  have hafter := f.txBursts_after x [] parts
  simp only [txBurst_nil, List.nil_append, Nat.zero_add] at hafter
  exact hafter.symm

/-- One burst and several do the same, in every state of a fabric and through every handle. -/
structure Seamless (f : Fabric) : Prop where
  receive : ∀ x m n,
    let (first, g) := f.rxBurst x m
    let (second, h) := g.rxBurst x n
    f.rxBurst x (m + n) = (first ++ second, h)
  send : ∀ x xs ys,
    let (n, left, g) := f.txBurst x xs
    let (k, rest, h) := g.txBurst x (left ++ ys)
    f.txBurst x (xs ++ ys) = (n + k, rest, h)
  receives : ∀ x sizes, f.rxBursts x sizes = f.rxBurst x sizes.sum
  sends : ∀ x parts, f.txBursts x [] parts = f.txBurst x parts.flatten

/-- Where bursts end does not matter: not for the frames delivered, the buffers left and the counts
told, nor for the rings, the counters of the ports and the pools, whether the queue is paused, runs,
or has a link that is down. -/
theorem seamless : f.Seamless where
  receive x m n := f.rxBurst_add x m n
  send x xs ys := f.txBurst_append x xs ys
  receives x sizes := f.rxBursts_eq x sizes
  sends x parts := f.txBursts_eq x parts

end Fabric
end Dataplane
