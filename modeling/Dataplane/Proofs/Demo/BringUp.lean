import Dataplane.Demo.Rig
import Dataplane.Proofs.Port.Wiring

/-! # Bringing a port up

A port that is not started is configured, gets a ring behind each of its queues, and is started.
All of it succeeds when the numbers of queues and descriptors are allowed, and the first number
that is not is the reason why it fails. What the port is afterwards is known to the last entry.
-/
namespace Dataplane

/-! ## Calls in a row -/

section Calls

variable {ε α β : Type}

theorem bind_eq_ok {x : Except ε α} {k : α → Except ε β} {b : β} :
    (x >>= k) = .ok b ↔ ∃ a, x = .ok a ∧ k a = .ok b := by
  cases x <;> simp [bind, Except.bind]

/-- What every call keeps a row of calls keeps. -/
theorem foldlM_keeps {P : β → Prop} {step : β → α → Except ε β}
    (hstep : ∀ b a b', P b → step b a = .ok b' → P b') {as : List α} {b b' : β} (hb : P b)
    (h : as.foldlM step b = .ok b') : P b' := by
  induction as generalizing b with
  | nil =>
    cases h
    exact hb
  | cons a rest ih =>
    rw [List.foldlM_cons, bind_eq_ok] at h
    obtain ⟨c, hc, hrest⟩ := h
    exact ih (hstep b a c hb hc) hrest

/-- Numbered calls succeed one after another when each leads from one state to the next. -/
theorem foldlM_range_ok {P : Nat → β → Prop} {step : β → Nat → Except ε β} {n : Nat}
    (hstep : ∀ k < n, ∀ b, P k b → ∃ b', step b k = .ok b' ∧ P (k + 1) b') {b : β} (hb : P 0 b)
    {k : Nat} (hk : k ≤ n) : ∃ b', (List.range k).foldlM step b = .ok b' ∧ P k b' := by
  induction k with
  | zero => exact ⟨b, rfl, hb⟩
  | succ k ih =>
    obtain ⟨c, hrun, hc⟩ := ih (Nat.le_of_lt hk)
    obtain ⟨b', hnext, hb'⟩ := hstep k hk c hc
    refine ⟨b', ?_, hb'⟩
    rw [List.range_succ, List.foldlM_append, hrun]
    simp only [List.foldlM_cons, List.foldlM_nil, bind, Except.bind, hnext]
    rfl

end Calls

/-! ## Checks that pass -/

namespace Port

variable {x : Port}

theorem configurable_eq (h : x.stage ∈ [.unconfigured, .configured, .stopped]) (n : Nat) :
    x.configurable n n { promiscuous := true } = checkQueueCounts n n := by
  have hstage : x.requireStage [.unconfigured, .configured, .stopped]
      "configure needs a stopped port" = .ok () := if_pos h
  rw [configurable, hstage]
  cases checkQueueCounts n n <;> rfl

theorem settable_eq (h : x.stage ∈ [.configured, .stopped]) {q count : Nat} (hq : q < count)
    (descriptors : Nat) : x.settable q count descriptors = checkDescriptors descriptors := by
  have hstage : x.requireStage [.configured, .stopped]
      "queue setup needs a configured, stopped port" = .ok () := if_pos h
  have hqueue : x.checkQueue q count = .ok () := if_neg (Nat.not_le.mpr hq)
  rw [settable, hstage]
  change (x.checkQueue q count >>= _) = _
  rw [hqueue]
  rfl

theorem startable_of (h : x.stage ∈ [.configured, .stopped]) (hparked : x.allParked = true) :
    x.startable = .ok () := by
  have hstage : x.requireStage [.configured, .stopped]
      "port is not configured or already started" = .ok () := if_pos h
  rw [startable, hstage, hparked]
  rfl

theorem stoppable_of (h : x.stage = .started) (hout : x.anyOut = false) :
    x.stoppable = .ok () := by
  have hstage : x.requireStage [.started] "port is not started" = .ok () :=
    if_pos (List.mem_singleton.mpr h)
  rw [stoppable, hstage, hout]
  rfl

theorem closable_of (h : x.stage = .stopped) : x.closable = .ok () :=
  if_pos (by simp [h])

end Port

theorem Rig.settled_checked (f : Fabric) (check : Except Fault Unit) (effect : Fabric → Fabric) :
    Rig.settled (f.checked check effect) =
      match check with
      | .ok () => .ok (effect f)
      | .error e => .error (.library e) := by
  cases check <;> rfl

/-! ## Tables that fill up -/

/-- A table of `n` entries of which the first `k` are new and the rest are old. -/
def mixed {α : Type} (n k : Nat) (new old : Nat → α) : List α :=
  (List.range n).map fun q => if q < k then new q else old q

section Mixed

variable {α : Type} (n k : Nat) (new old : Nat → α)

@[simp] theorem length_mixed : (mixed n k new old).length = n := by simp [mixed]

theorem getElem?_mixed {q : Nat} (hq : q < n) :
    (mixed n k new old)[q]? = some (if q < k then new q else old q) := by
  simp [mixed, hq]

theorem getElem?_mixed_self (hk : k < n) : (mixed n k new old)[k]? = some (old k) := by
  rw [getElem?_mixed n k new old hk, if_neg (Nat.lt_irrefl k)]

theorem mixed_zero : mixed n 0 new old = (List.range n).map old := by simp [mixed]

theorem mixed_self : mixed n n new old = (List.range n).map new := by
  apply List.map_congr_left
  intro q hq
  rw [if_pos (List.mem_range.mp hq)]

theorem mixed_set : (mixed n k new old).set k (new k) = mixed n (k + 1) new old := by
  apply List.ext_getElem?
  intro q
  rw [List.getElem?_set, length_mixed]
  by_cases hq : q < n
  · rw [getElem?_mixed _ _ _ _ hq, getElem?_mixed _ _ _ _ hq]
    by_cases hk : k = q
    · subst hk
      simp [hq]
    · have hlt : q < k ↔ q < k + 1 := by omega
      simp [hk, hlt]
  · have hnone : ∀ k, (mixed n k new old)[q]? = none := fun k => by
      rw [List.getElem?_eq_none]
      simpa using hq
    rw [hnone, hnone]
    by_cases hk : k = q
    · rw [if_pos hk, if_neg (by omega)]
    · rw [if_neg hk]

theorem replicate_eq_map (a : α) : List.replicate n a = (List.range n).map fun _ => a := by
  simp

end Mixed

namespace Port

variable (x : Port)

/-- A port configured for `n` queues each way of which the first `k` are set up, with rings that are
numbered from `r` on. -/
def fitted (n k r : Nat) : Port :=
  { x with
    stage := .configured
    rxCount := n
    txCount := n
    mtu := defaultMtu
    promiscuous := true
    rxPaused := 0
    txPaused := 0
    epoch := x.epoch + k
    rx := mixed n k (fun q => .parked (r + q)) fun _ => .absent
    tx := mixed n k (fun _ => .parked ()) fun _ => .absent
    inbox := mixed n k (fun q => ⟨x.epoch + q + 1, some (r + q)⟩) fun _ => {} }

/-- A port with all queues set up and started. -/
def launched (n r : Nat) : Port :=
  { x.fitted n n r with linkUp := true, stage := .started }

theorem fitted_succ (n k r : Nat) :
    ((x.fitted n k r).withRing k (r + k)).setTx k (.parked ()) = x.fitted n (k + 1) r := by
  unfold withRing setTx fitted
  congr 1
  · exact mixed_set n k (fun q => QueueEnd.parked (r + q)) _
  · exact mixed_set n k (fun _ => QueueEnd.parked ()) _
  · exact mixed_set n k (fun q => (⟨x.epoch + q + 1, some (r + q)⟩ : Inbox)) _

theorem fitted_allParked (n r : Nat) : (x.fitted n n r).allParked = true := by
  simp [allParked, fitted, mixed_self, QueueEnd.isParked]

theorem launched_anyOut (n r : Nat) : (x.launched n r).anyOut = false := by
  simp [anyOut, launched, fitted, mixed_self, QueueEnd.isOut]

end Port

namespace Fabric

/-! ## Fabrics without frames -/

/-- No ring holds a frame, and the pools are those of `s`. -/
structure Calm (s : Store) (f : Fabric) : Prop where
  store : f.store = s
  frames : ∀ r, (f.ring r).frames = []

namespace Calm

variable {s : Store} {f : Fabric}

theorem updatePort (h : f.Calm s) (p : Nat) (k : Port → Port) : (f.updatePort p k).Calm s :=
  ⟨h.store, h.frames⟩

theorem updateRing (h : f.Calm s) (r : Nat) {k : Ring → Ring}
    (hk : ∀ x, x.frames = [] → (k x).frames = []) : (f.updateRing r k).Calm s := by
  refine ⟨h.store, fun i => ?_⟩
  by_cases hr : f.rings.size ≤ r
  · rw [f.updateRing_of_size_le hr]
    exact h.frames i
  · rw [f.ring_updateRing r fun hle => absurd hle hr]
    split
    · exact hk _ (h.frames i)
    · exact h.frames i

theorem settle (h : f.Calm s) (r : Nat) : (f.settle r).Calm s := by
  unfold Fabric.settle
  dsimp only
  split
  · exact h
  · have hdrop := h.updateRing r (k := fun x => { x with frames := [] }) fun _ _ => rfl
    refine ⟨?_, hdrop.frames⟩
    rw [store_updateStore, h.frames]
    exact hdrop.store

theorem dropProducer (h : f.Calm s) (r : Nat) : (f.dropProducer r).Calm s :=
  (h.updateRing r (k := fun x => { x with hasProducer := false }) fun _ hx => hx).settle r

theorem dropConsumer (h : f.Calm s) (r : Nat) : (f.dropConsumer r).Calm s :=
  (h.updateRing r (k := fun x => { x with hasConsumer := false }) fun _ hx => hx).settle r

theorem foldl {g : Fabric → Nat → Fabric} (hg : ∀ {f : Fabric} r, f.Calm s → (g f r).Calm s)
    (rs : List Nat) (h : f.Calm s) : (rs.foldl g f).Calm s := by
  induction rs generalizing f with
  | nil => exact h
  | cons r rest ih => exact ih (hg r h)

theorem dropEnds (h : f.Calm s) (rx : List (QueueEnd Nat)) (inbox : List Inbox) :
    (f.dropEnds rx inbox).Calm s :=
  foldl (fun r h => h.dropProducer r) _ (foldl (fun r h => h.dropConsumer r) _ h)

theorem resetQueues (h : f.Calm s) (p rx tx : Nat) : (f.resetQueues p rx tx).Calm s :=
  (h.updatePort p _).dropEnds _ _

theorem addRing (h : f.Calm s) (capacity : Nat) : (f.addRing capacity).2.Calm s := by
  refine ⟨h.store, fun i => ?_⟩
  rw [ring_addRing]
  split
  · rfl
  · exact h.frames i

theorem installRing (h : f.Calm s) (p q capacity : Nat) : (f.installRing p q capacity).Calm s :=
  ((h.addRing capacity).updatePort p _).dropEnds _ _

theorem putRx (h : f.Calm s) (x : RxQueue) : (f.putRx x).Calm s := by
  unfold Fabric.putRx
  split
  · exact h.updatePort _ _
  · exact h.dropConsumer _

theorem putTx (h : f.Calm s) (x : TxQueue) : (f.putTx x).Calm s := by
  have hput : (f.putProducer x).Calm s := by
    unfold Fabric.putProducer
    split
    · split
      · exact h.updatePort _ _
      · exact h.dropProducer _
    · exact h.dropProducer _
  unfold Fabric.putTx
  dsimp only
  split
  · exact hput.updatePort _ _
  · exact hput

end Calm

/-! ## What is done to one port -/

/-- From `f` to `g`, port `p` became `y` and got `k` new rings of `descriptors` places, and only
rings that it held the ends of have changed. -/
structure Renewed (p k descriptors : Nat) (y : Port) (f g : Fabric) : Prop where
  base : g.base = f.base
  size : g.ports.size = f.ports.size
  port : ∀ i, g.port i = if i = p then y else f.port i
  rings : g.rings.size = f.rings.size + k
  new : ∀ q < k, g.ring (f.rings.size + q) = { capacity := descriptors }
  old : ∀ r < f.rings.size, r ∉ (f.port p).rx.filterMap QueueEnd.parked? →
    r ∉ (f.port p).inbox.filterMap Inbox.producer → g.ring r = f.ring r
  calm : ∀ s, f.Calm s → g.Calm s

namespace Renewed

variable {f g : Fabric} {p k n descriptors : Nat} {y : Port}

theorem updatePort (h : Renewed p k descriptors y f g) (hp : p < f.ports.size)
    (e : Port → Port) : Renewed p k descriptors (e y) f (g.updatePort p e) where
  base := h.base
  size := (size_updatePort g p e).trans h.size
  port i := by
    rw [port_updatePort_of_lt (by rw [h.size]; exact hp), h.port]
    split <;> rfl
  rings := h.rings
  new := h.new
  old := h.old
  calm s hs := (h.calm s hs).updatePort p e

theorem resetQueues (hp : p < f.ports.size) (n descriptors : Nat) :
    Renewed p 0 descriptors ((f.port p).cleared n n) f (f.resetQueues p n n) where
  base := by rw [resetQueues_eq, (samePorts_dropEnds _ _ _).base, base_updatePort]
  size := by rw [resetQueues_eq, (samePorts_dropEnds _ _ _).ports, size_updatePort]
  port i := by
    rw [port_resetQueues hp]
    split
    · rename_i hi
      rw [hi]
    · rfl
  rings := by rw [resetQueues_eq, (samePorts_dropEnds _ _ _).size, rings_updatePort]; rfl
  new q hq := absurd hq (Nat.not_lt_zero q)
  old r _ hrx hinbox := by
    rw [resetQueues_eq, ring_dropEnds, if_neg hrx, if_neg hinbox, ring_updatePort]
  calm s hs := hs.resetQueues p n n

theorem installRing (h : Renewed p k descriptors y f g) (hp : p < f.ports.size) {q : Nat}
    (hrx : y.rx[q]? = some .absent) (hinbox : y.inbox[q]? = some {}) :
    Renewed p (k + 1) descriptors (y.withRing q (f.rings.size + k)) f
      (g.installRing p q descriptors) := by
  have hport : g.port p = y := by rw [h.port, if_pos rfl]
  have hlt : p < g.ports.size := h.size.symm ▸ hp
  have hring : ∀ r, (g.installRing p q descriptors).ring r =
      if r = f.rings.size + k then { capacity := descriptors } else g.ring r := by
    intro r
    rw [installRing_eq, hport, hrx, hinbox, ring_dropEnds, ring_updatePort, ring_addRing, h.rings]
    simp [QueueEnd.parked?]
  refine ⟨?_, ?_, fun i => ?_, ?_, fun j hj => ?_, fun r hr hnot hnot' => ?_, fun s hs =>
    (h.calm s hs).installRing p q descriptors⟩
  · rw [installRing_eq, (samePorts_dropEnds _ _ _).base]
    exact h.base
  · rw [installRing_eq, (samePorts_dropEnds _ _ _).ports, size_updatePort]
    exact h.size
  · rw [port_installRing hlt, h.rings]
    split
    · rename_i hi
      rw [hi, hport]
    · rename_i hi
      rw [h.port, if_neg hi]
  · rw [installRing_eq, (samePorts_dropEnds _ _ _).size, rings_updatePort]
    simp [addRing, h.rings, Nat.add_assoc]
  · rw [hring]
    split
    · rfl
    · exact h.new j (by omega)
  · rw [hring, if_neg (by omega)]
    exact h.old r hr hnot hnot'

end Renewed
end Fabric

namespace Rig

variable {f g : Fabric} {p n k descriptors : Nat} {e : Fault}

theorem setupQueue_ok (hp : p < f.ports.size) (hk : k < n)
    (hd : checkDescriptors descriptors = .ok ())
    (h : f.Renewed p k descriptors ((f.port p).fitted n k f.rings.size) g) :
    ∃ g', setupQueue p descriptors g k = .ok g' ∧
      f.Renewed p (k + 1) descriptors ((f.port p).fitted n (k + 1) f.rings.size) g' := by
  have hport : g.port p = (f.port p).fitted n k f.rings.size := by rw [h.port, if_pos rfl]
  have hring := h.installRing hp (q := k) (getElem?_mixed_self n k _ _ hk)
    (getElem?_mixed_self n k _ _ hk)
  refine ⟨_, ?_, (Port.fitted_succ (f.port p) n k f.rings.size) ▸
    hring.updatePort hp (·.setTx k (.parked ()))⟩
  have hport' : (g.installRing p k descriptors).port p =
      ((f.port p).fitted n k f.rings.size).withRing k (f.rings.size + k) := by
    rw [hring.port, if_pos rfl]
  rw [setupQueue, Fabric.setupRx, settled_checked, hport,
    Port.settable_eq (by simp [Port.fitted]) (by simpa [Port.fitted] using hk), hd]
  change settled (Fabric.setupTx _ _ _ _) = _
  rw [Fabric.setupTx, settled_checked, hport',
    Port.settable_eq (by simp [Port.fitted, Port.withRing])
      (by simpa [Port.fitted, Port.withRing] using hk), hd]

theorem setupQueue_of_descriptors (hport : g.port p = (f.port p).fitted n 0 f.rings.size)
    (hn : 0 < n) (hd : checkDescriptors descriptors = .error e) :
    setupQueue p descriptors g 0 = .error (.library e) := by
  rw [setupQueue, Fabric.setupRx, settled_checked, hport,
    Port.settable_eq (by simp [Port.fitted]) (by simpa [Port.fitted] using hn), hd]
  rfl

section BringUp

variable (hp : p < f.ports.size)
  (hstage : (f.port p).stage ∈ [.unconfigured, .configured, .stopped])
include hstage

theorem configure_of_counts (hn : checkQueueCounts n n = .error e) :
    settled (f.configure p n n { promiscuous := true }) = .error (.library e) := by
  rw [Fabric.configure, settled_checked, Port.configurable_eq hstage, hn]

include hp in
theorem configure_ok (hn : checkQueueCounts n n = .ok ()) (descriptors : Nat) :
    ∃ g, settled (f.configure p n n { promiscuous := true }) = .ok g ∧
      f.Renewed p 0 descriptors ((f.port p).fitted n 0 f.rings.size) g := by
  have h := (Fabric.Renewed.resetQueues hp n descriptors).updatePort hp fun port =>
    { port with
      rxPaused := 0
      txPaused := 0
      mtu := defaultMtu
      promiscuous := true
      rxCount := n
      txCount := n
      stage := .configured }
  refine ⟨_, ?_, by
    simpa only [Port.fitted, Port.cleared, mixed_zero, replicate_eq_map, Nat.add_zero] using h⟩
  rw [Fabric.configure, settled_checked, Port.configurable_eq hstage, hn]

theorem bringUp_of_counts (hn : checkQueueCounts n n = .error e) (descriptors : Nat) :
    bringUp n descriptors f p = .error (.library e) := by
  rw [bringUp, configure_of_counts hstage hn]
  rfl

include hp

theorem bringUp_of_descriptors (hn : checkQueueCounts n n = .ok ())
    (hd : checkDescriptors descriptors = .error e) :
    bringUp n descriptors f p = .error (.library e) := by
  obtain ⟨g, hconfigure, hg⟩ := configure_ok hp hstage hn descriptors
  have hport : g.port p = (f.port p).fitted n 0 f.rings.size := by rw [hg.port, if_pos rfl]
  cases n with
  | zero => cases hn
  | succ m =>
    rw [bringUp, hconfigure]
    simp only [bind, Except.bind, List.range_succ_eq_map, List.foldlM_cons,
      setupQueue_of_descriptors hport (Nat.succ_pos m) hd]

theorem bringUp_ok (hn : checkQueueCounts n n = .ok ())
    (hd : checkDescriptors descriptors = .ok ()) :
    ∃ g, bringUp n descriptors f p = .ok g ∧
      f.Renewed p n descriptors ((f.port p).launched n f.rings.size) g := by
  obtain ⟨g₀, hconfigure, hg₀⟩ := configure_ok hp hstage hn descriptors
  obtain ⟨g, hrun, hg⟩ := foldlM_range_ok
    (P := fun k g => f.Renewed p k descriptors ((f.port p).fitted n k f.rings.size) g)
    (fun _ hk _ h => setupQueue_ok hp hk hd h) hg₀ (Nat.le_refl n)
  have hport : g.port p = (f.port p).fitted n n f.rings.size := by rw [hg.port, if_pos rfl]
  have hstart := hg.updatePort hp fun port =>
    { port with rxPaused := 0, txPaused := 0, linkUp := true, stage := .started }
  refine ⟨_, ?_, hstart⟩
  rw [bringUp, hconfigure]
  simp only [bind, Except.bind, hrun]
  rw [Fabric.start, settled_checked, hport,
    Port.startable_of (by simp [Port.fitted]) (Port.fitted_allParked _ _ _)]

end BringUp

end Rig
end Dataplane
