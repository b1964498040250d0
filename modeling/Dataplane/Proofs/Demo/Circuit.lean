import Dataplane.Demo.Rig
import Dataplane.Proofs.Port.Frames
import Dataplane.Proofs.Port.Passage
import Dataplane.Proofs.Traffic.Loads

/-! # Frames that go around

A generator sends from the first of two ports to the second, a forwarder sends back what arrives
there, and a sink receives it. What a worker does in one turn keeps the accounts between them: every
frame that was sent was received, was counted as an error, was dropped by the forwarder for want of
room, or waits on a ring. Frames on the way out are as they were generated, and frames on the way
back are as the forwarder sends them on and pass the settings of the first port.
-/
namespace Dataplane
namespace Circuit

open Rig (firstPort secondPort)

/-! ## Handles -/

/-- The ring of a queue has the number of the port that receives from it. -/
def outTx : TxQueue := ⟨firstPort, secondPort, 0, 1, 1⟩

def outRx : RxQueue := ⟨secondPort, 0, 1⟩

def backTx : TxQueue := ⟨secondPort, firstPort, 0, 0, 1⟩

def backRx : RxQueue := ⟨firstPort, 0, 0⟩

structure Seated (way : Option Redirection) (g : Generator) (w : Forwarder) (k : Sink) : Prop where
  generator : g.tx = outTx
  forwarder : w.rx = outRx ∧ w.tx = backTx
  sink : k.rx = backRx
  way : w.redirection = way

/-- Two open ports. The second takes every frame, and the first takes what the forwarder sends on
unless it is longer than what the second takes. -/
structure Plumbed (frame : List UInt8) (way : Option Redirection) (f : Fabric) : Prop where
  ports : f.ports.size = 2
  rings : f.rings.size = 2
  isOpen : ∀ p < 2, (f.port p).Open
  promiscuous : (f.port secondPort).promiscuous = true
  maxFrame : (f.port firstPort).maxFrame = (f.port secondPort).maxFrame
  passes : (f.port firstPort).promiscuous = true ∨
    addressed (f.port firstPort).mac (onward way frame) = true

namespace Plumbed

variable {frame : List UInt8} {way : Option Redirection} {f g : Fabric}

theorem steady (h : Plumbed frame way f) (hfg : f.Steady g) : Plumbed frame way g where
  ports := hfg.ports.trans h.ports
  rings := hfg.rings.trans h.rings
  isOpen p hp := (h.isOpen p hp).of_bare (hfg.port p)
  promiscuous := (hfg.read Port.promiscuous (fun _ => rfl) secondPort).trans h.promiscuous
  maxFrame := by
    have hmaxFrame := hfg.read Port.maxFrame fun _ => rfl
    rw [hmaxFrame, hmaxFrame, h.maxFrame]
  passes := by
    rw [hfg.read Port.promiscuous fun _ => rfl, hfg.read Port.mac fun _ => rfl]
    exact h.passes

/-- The second port refuses a frame for its length only. -/
theorem judge_second (h : Plumbed frame way f) (s : Store) (b : Buffer) :
    (f.port secondPort).judge s b ≠ .foreign := by
  rw [Port.judge, h.promiscuous]
  split <;> simp

theorem judge_first (h : Plumbed frame way f) {s : Store} {b : Buffer}
    (hsize : b.window.size ≤ (f.port firstPort).maxFrame) (hdata : s.data b = onward way frame) :
    (f.port firstPort).judge s b = .deliver := by
  rw [Port.judge_eq_deliver_iff, Port.accepts, hdata, Bool.and_eq_true, Bool.or_eq_true]
  exact ⟨decide_eq_true hsize, h.passes⟩

theorem restore (h : Plumbed frame way f) (s : Store) : Plumbed frame way { f with store := s } :=
  h.steady ((Fabric.Steady.refl f).restore s)

theorem send (h : Plumbed frame way f) {q : TxQueue} (hport : q.port < 2) (hpeer : q.peer < 2)
    (hring : q.ring < 2) (bs : List Buffer) :
    ∃ n g, f.txBurst q bs = (n, bs.drop n, g) ∧ n = min bs.length (f.freeSlots q) ∧
      g.store = f.store ∧ f.Shipped g q (bs.take n) :=
  Fabric.txBurst_shipped (by rwa [h.ports]) (by rwa [h.rings]) (h.isOpen q.port hport)
    (h.isOpen q.peer hpeer) bs

theorem receive (h : Plumbed frame way f) {q : RxQueue} (hport : q.port < 2) (hring : q.ring < 2)
    (hjudge : ∀ b ∈ (f.ring q.ring).frames, (f.port q.port).judge f.store b ≠ .foreign)
    (max : Nat) : f.Collected (f.rxBurst q max).2 q (f.rxBurst q max).1 :=
  Fabric.rxBurst_collected (by rwa [h.ports]) (by rwa [h.rings]) hjudge max

end Plumbed

/-! ## Counters -/

/-- The counters of workers and ports after the forwarder has dropped `lost` frames. -/
structure Counted (lost : Nat) (g : Generator) (w : Forwarder) (k : Sink) (f : Fabric) : Prop where
  generated : g.sent = (f.port firstPort).stats.sentFrames
  forwarded : w.forwarded = (f.port secondPort).stats.sentFrames
  received : k.received = (f.port firstPort).stats.receivedFrames
  outward : (f.port firstPort).stats.sentFrames = (f.port secondPort).stats.receivedFrames +
    (f.port secondPort).stats.receiveErrors + (f.ring 1).frames.length
  passed : (f.port secondPort).stats.receivedFrames =
    (f.port secondPort).stats.sentFrames + lost
  homeward : (f.port secondPort).stats.sentFrames =
    (f.port firstPort).stats.receivedFrames + (f.ring 0).frames.length
  clean : (f.port firstPort).stats.receiveErrors = 0

namespace Counted

variable {lost : Nat} {g g' : Generator} {w w' : Forwarder} {k k' : Sink} {f f' f'' : Fabric}
  {bs cs : List Buffer}

theorem restore (h : Counted lost g w k f) (s : Store) :
    Counted lost g w k { f with store := s } :=
  ⟨h.generated, h.forwarded, h.received, h.outward, h.passed, h.homeward, h.clean⟩

theorem generate (h : Counted lost g w k f) (hship : f.Shipped f' outTx bs)
    (hg : g'.sent = g.sent + bs.length) : Counted lost g' w k f' := by
  have hsent : (f'.port firstPort).stats.sentFrames =
      (f.port firstPort).stats.sentFrames + bs.length := hship.sent
  have hring : (f'.ring 1).frames = (f.ring 1).frames ++ bs := hship.frames
  have hlength := congrArg List.length hring
  rw [List.length_append] at hlength
  constructor
  · rw [hg, hsent, h.generated]
  · rw [hship.idle secondPort (by decide), h.forwarded]
  · rw [hship.received, h.received]
  · rw [hship.received, hship.errors, hsent, hlength, h.outward]
    omega
  · rw [hship.received, hship.idle secondPort (by decide), h.passed]
  · rw [hship.received, hship.idle secondPort (by decide), hship.others 0 (by decide), h.homeward]
  · rw [hship.errors, h.clean]

/-- The forwarder receives `bs` and has room to send `cs` on. -/
theorem forward (h : Counted lost g w k f) (hcollect : f.Collected f' outRx bs)
    (hship : f'.Shipped f'' backTx cs) (hw : w'.forwarded = w.forwarded + cs.length)
    (hle : cs.length ≤ bs.length) : Counted (lost + (bs.length - cs.length)) g w' k f'' := by
  have hreceived : (f'.port secondPort).stats.receivedFrames =
      (f.port secondPort).stats.receivedFrames + bs.length := hcollect.received
  have hbalance : (f'.port secondPort).stats.receiveErrors + bs.length + (f'.ring 1).frames.length =
      (f.port secondPort).stats.receiveErrors + (f.ring 1).frames.length := hcollect.balance
  have hsent : (f''.port secondPort).stats.sentFrames =
      (f'.port secondPort).stats.sentFrames + cs.length := hship.sent
  have hring : (f''.ring 0).frames = (f'.ring 0).frames ++ cs := hship.frames
  have hlength := congrArg List.length hring
  rw [List.length_append, hcollect.others 0 (by decide)] at hlength
  obtain ⟨hidle, hclean⟩ := hcollect.idle firstPort (by decide)
  have hfirst := hship.idle firstPort (by decide)
  rw [hcollect.sent] at hsent hfirst
  constructor
  · rw [hfirst, h.generated]
  · rw [hw, hsent, h.forwarded]
  · rw [hship.received, hidle, h.received]
  · rw [hfirst, hship.received, hship.errors, hship.others 1 (by decide), hreceived, h.outward]
    omega
  · rw [hship.received, hreceived, hsent, h.passed]
    omega
  · rw [hsent, hship.received, hidle, hlength, h.homeward]
    omega
  · rw [hship.errors, hclean, h.clean]

theorem receive (h : Counted lost g w k f) (hcollect : f.Collected f' backRx bs)
    (hall : ∀ b ∈ (f.ring 0).frames, (f.port firstPort).judge f.store b = .deliver)
    (hk : k'.received = k.received + bs.length) : Counted lost g w k' f' := by
  have hreceived : (f'.port firstPort).stats.receivedFrames =
      (f.port firstPort).stats.receivedFrames + bs.length := hcollect.received
  have hbalance : (f'.port firstPort).stats.receiveErrors + bs.length + (f'.ring 0).frames.length =
      (f.port firstPort).stats.receiveErrors + (f.ring 0).frames.length := hcollect.balance
  have hclean : (f'.port firstPort).stats.receiveErrors =
      (f.port firstPort).stats.receiveErrors := hcollect.clean hall
  obtain ⟨hidle, herrors⟩ := hcollect.idle secondPort (by decide)
  constructor
  · rw [hcollect.sent, h.generated]
  · rw [hcollect.sent, h.forwarded]
  · rw [hk, hreceived, h.received]
  · rw [hcollect.sent, hidle, herrors, hcollect.others 1 (by decide), h.outward]
  · rw [hidle, hcollect.sent, h.passed]
  · rw [hcollect.sent, hreceived, h.homeward]
    omega
  · rw [hclean, h.clean]

end Counted

/-! ## Contents -/

/-- The frames in a burst and on the rings, in a store where nothing is shared and pool `p` has room
for the frame that is generated. -/
structure Stocked (frame : List UInt8) (way : Option Redirection) (p : Nat) (burst : List Buffer)
    (f : Fabric) : Prop where
  unshared : f.store.Unshared
  room : frame.length ≤ (f.store.pool p).config.dataRoom.toNat
  burst : ∀ b ∈ burst, f.store.data b = frame
  outward : ∀ b ∈ (f.ring 1).frames, f.store.data b = frame
  homeward : ∀ b ∈ (f.ring 0).frames,
    f.store.data b = onward way frame ∧ b.window.size ≤ (f.port firstPort).maxFrame

namespace Stocked

open Store

variable {frame : List UInt8} {way : Option Redirection} {p : Nat} {burst bs cs : List Buffer}
  {f g : Fabric} {t : Store} {y : RxQueue}

theorem restore (h : Stocked frame way p burst f) (ht : Spares (↑burst + f.inFlight) f.store t) :
    Stocked frame way p burst { f with store := t } where
  unshared := ht.unshared
  room := by
    change frame.length ≤ (t.pool p).config.dataRoom.toNat
    rw [ht.config]
    exact h.room
  burst b hb := (ht.data b (Multiset.mem_add.mpr (.inl hb))).trans (h.burst b hb)
  outward b hb :=
    (ht.data b (Multiset.mem_add.mpr (.inr (f.mem_inFlight hb)))).trans (h.outward b hb)
  homeward b hb :=
    ⟨(ht.data b (Multiset.mem_add.mpr (.inr (f.mem_inFlight hb)))).trans (h.homeward b hb).1,
      (h.homeward b hb).2⟩

theorem dropAll (h : Stocked frame way p burst f) (cs : List Buffer) :
    Stocked frame way p burst { f with store := f.store.dropAll cs } :=
  h.restore (.of_sameMemory (sameMemory_dropAll f.store cs) (h.unshared.dropAll cs) _)

/-- Frames may move on as long as each gets to where it belongs. -/
theorem moved (h : Stocked frame way p burst f) (hstore : g.store = f.store)
    (hsteady : f.Steady g) (hburst : ∀ b ∈ bs, b ∈ burst)
    (hout : ∀ b ∈ (g.ring 1).frames, f.store.data b = frame)
    (hback : ∀ b ∈ (g.ring 0).frames, f.store.data b = onward way frame ∧
      b.window.size ≤ (f.port firstPort).maxFrame) : Stocked frame way p bs g where
  unshared := hstore ▸ h.unshared
  room := hstore ▸ h.room
  burst b hb := hstore ▸ h.burst b (hburst b hb)
  outward b hb := hstore ▸ hout b hb
  homeward b hb := by
    rw [hstore, hsteady.read Port.maxFrame fun _ => rfl]
    exact hback b hb

theorem collect (h : Stocked frame way p burst f) (hcollect : f.Collected g y bs) :
    Stocked frame way p burst g := by
  obtain ⟨cs, hcs⟩ := hcollect.store
  have hdrop := h.dropAll cs
  have hsteady := hcollect.steady
  exact hdrop.moved hcs ⟨hsteady.ports, hsteady.rings, hsteady.port⟩ (fun _ hb => hb)
    (fun b hb => hdrop.outward b (hcollect.left 1 b hb))
    (fun b hb => hdrop.homeward b (hcollect.left 0 b hb))

theorem ship_out (h : Stocked frame way p burst f) {n : Nat} (hstore : g.store = f.store)
    (hship : f.Shipped g outTx (burst.take n)) : Stocked frame way p (burst.drop n) g := by
  have hout : (g.ring 1).frames = (f.ring 1).frames ++ burst.take n := hship.frames
  refine h.moved hstore hship.steady (fun _ => List.mem_of_mem_drop) (fun b hb => ?_)
    (fun b hb => ?_)
  · rw [hout, List.mem_append] at hb
    rcases hb with hb | hb
    · exact h.outward b hb
    · exact h.burst b (List.mem_of_mem_take hb)
  · rw [hship.others 0 (by decide)] at hb
    exact h.homeward b hb

theorem ship_back (h : Stocked frame way p burst f) (hstore : g.store = f.store)
    (hship : f.Shipped g backTx cs)
    (hcs : ∀ b ∈ cs, f.store.data b = onward way frame ∧
      b.window.size ≤ (f.port firstPort).maxFrame) : Stocked frame way p burst g := by
  have hback : (g.ring 0).frames = (f.ring 0).frames ++ cs := hship.frames
  refine h.moved hstore hship.steady (fun _ hb => hb) (fun b hb => ?_) (fun b hb => ?_)
  · rw [hship.others 1 (by decide)] at hb
    exact h.outward b hb
  · rw [hback, List.mem_append] at hb
    rcases hb with hb | hb
    · exact h.homeward b hb
    · exact hcs b hb

end Stocked

/-! ## What a turn keeps -/

/-- The workers, and the frames that they hold and that wait between them. -/
structure Flow (frame : List UInt8) (way : Option Redirection) (lost : Nat) (g : Generator)
    (w : Forwarder) (k : Sink) (f : Fabric) : Prop where
  seated : Seated way g w k
  plumbed : Plumbed frame way f
  balanced : f.Balanced ↑g.burst g.cache.places
  stocked : Stocked frame way g.cache.pool g.burst f
  counted : Counted lost g w k f

namespace Flow

open Store

variable {frame : List UInt8} {way : Option Redirection} {lost : Nat} {g : Generator}
  {w : Forwarder} {k : Sink} {f : Fabric}

section

variable (h : Flow frame way lost g w k f)
include h

theorem delivered : ∀ b ∈ (f.ring 0).frames, (f.port firstPort).judge f.store b = .deliver :=
  fun b hb => h.plumbed.judge_first (h.stocked.homeward b hb).2 (h.stocked.homeward b hb).1

theorem generate : ∃ g' f', g.step frame f = (.ok (), g', f') ∧ f.Steady f' ∧
    Flow frame way lost g' w k f' := by
  have hledger : f.store.Ledger (↑g.burst + f.inFlight) (g.cache.places + 0) := by
    rw [Multiset.add_zero]
    exact h.balanced
  obtain ⟨new, cache, t, hfill, hpool, hledger, hspares, hnew⟩ :=
    Generator.fill_ok (burstSize - g.burst.length) hledger h.stocked.unshared h.stocked.room
  have hmid := h.stocked.restore hspares
  generalize hbufs : g.burst ++ new = bufs at hfill
  -- What is sent is what was left of the last turn and the new copies.
  have hbalanced : Fabric.Balanced { f with store := t } (↑bufs + 0) cache.places := by
    have hsame : (↑new + (↑g.burst + f.inFlight) : Multiset Buffer) = ↑bufs + 0 + f.inFlight := by
      rw [Multiset.add_zero, ← hbufs, ← Multiset.coe_add, add_left_comm, add_assoc]
    rwa [Multiset.add_zero, hsame] at hledger
  have hstocked : Stocked frame way cache.pool bufs { f with store := t } := by
    refine { hmid with room := by rw [hpool]; exact hmid.room, burst := fun b hb => ?_ }
    rw [← hbufs, List.mem_append] at hb
    rcases hb with hb | hb
    · exact hmid.burst b hb
    · exact hnew b hb
  obtain ⟨n, f', hsend, hn, hstore, hship⟩ :=
    (h.plumbed.restore t).send (q := outTx) (by decide) (by decide) (by decide) bufs
  have hsteady : f.Steady f' := hship.of_restore.steady
  refine ⟨{ g with cache, burst := bufs.drop n, sent := g.sent + n }, f', ?_, hsteady,
    ⟨h.seated.generator, h.seated.forwarder, h.seated.sink, h.seated.way⟩,
    h.plumbed.steady hsteady, ?_, hstocked.ship_out hstore hship,
    h.counted.generate hship.of_restore ?_⟩
  · rw [Generator.step, hfill]
    simp only [h.seated.generator, hsend]
  · have hafter := hbalanced.txBurst outTx
    rw [hsend] at hafter
    simpa using hafter
  · rw [List.length_take, hn]
    simp

theorem forward : ∃ w' f', w.step f = (.ok (), w', f') ∧ f.Steady f' ∧
    Flow frame way (lost + ((f.rxBurst w.rx burstSize).1.length -
      (f.rxBurst w.rx burstSize).2.freeSlots w.tx)) g w' k f' := by
  obtain ⟨hrxQueue, htxQueue⟩ := h.seated.forwarder
  have hcollect := h.plumbed.receive (q := outRx) (by decide) (by decide)
    (fun b _ => h.plumbed.judge_second f.store b) burstSize
  have hbalanced := h.balanced.rxBurst outRx burstSize
  rw [hrxQueue, htxQueue]
  rcases hrx : f.rxBurst outRx burstSize with ⟨bs, f₁⟩
  rw [hrx] at hcollect hbalanced
  have hstocked := h.stocked.collect hcollect
  have hreceived : ∀ b ∈ bs, f₁.store.data b = frame ∧
      b.window.size ≤ (f.port firstPort).maxFrame := by
    intro b hb
    obtain ⟨cs, hcs⟩ := hcollect.store
    obtain ⟨hmem, haccepts⟩ := hcollect.taken b hb
    rw [Port.accepts, Bool.and_eq_true, decide_eq_true_iff] at haccepts
    refine ⟨?_, h.plumbed.maxFrame ▸ haccepts.1⟩
    change f₁.store = _ at hcs
    rw [hcs, (sameMemory_dropAll f.store cs).data]
    exact h.stocked.outward b hmem
  have hledger : f₁.store.Ledger (↑bs + (↑g.burst + f₁.inFlight)) g.cache.places := by
    rw [← Multiset.add_assoc]
    exact hbalanced
  obtain ⟨t, hprepare, hledger, hspares, hdata⟩ := w.prepare_ok hledger hstocked.unshared
  have hredirected : Fabric.Balanced { f₁ with store := t } (↑bs + ↑g.burst) g.cache.places := by
    rw [← Multiset.add_assoc] at hledger
    exact hledger
  obtain ⟨n, f₂, hsend, hn, hstore, hship⟩ :=
    ((h.plumbed.steady hcollect.steady).restore t).send (q := backTx) (by decide) (by decide)
      (by decide) bs
  have hsteady : f.Steady f₂ := hcollect.steady.trans hship.of_restore.steady
  -- What did not fit is given up.
  refine ⟨{ w with forwarded := w.forwarded + n }, f₂.updateStore (·.dropAll (bs.drop n)), ?_,
    hsteady.restore _, ⟨h.seated.generator, h.seated.forwarder, h.seated.sink, h.seated.way⟩,
    (h.plumbed.steady hsteady).restore _, ?_, ?_, ?_⟩
  · rw [Forwarder.step_eq (hrxQueue ▸ hrx) hprepare, htxQueue]
    simp only [hsend]
  · have hafter := hredirected.txBurst backTx
    rw [hsend] at hafter
    unfold Fabric.Balanced at hafter ⊢
    rw [Multiset.add_assoc] at hafter
    exact hafter.dropAll
  · refine ((hstocked.restore hspares).ship_back hstore hship fun b hb => ?_).dropAll _
    have hmem := List.mem_of_mem_take hb
    refine ⟨?_, ?_⟩
    · change t.data b = _
      rw [hdata b hmem, h.seated.way, (hreceived b hmem).1]
    · change _ ≤ (f₁.port firstPort).maxFrame
      rw [hcollect.steady.read Port.maxFrame fun _ => rfl]
      exact (hreceived b hmem).2
  · have hlost : bs.length - f₁.freeSlots backTx = bs.length - (bs.take n).length := by
      change n = min bs.length (f₁.freeSlots backTx) at hn
      rw [List.length_take]
      omega
    rw [hlost]
    refine (h.counted.forward hcollect hship.of_restore ?_ (List.length_take_le' _ _)).restore _
    rw [List.length_take, hn]
    simp

theorem receive : ∃ frames k' f', k.step f = (frames, k', f') ∧ f.Steady f' ∧
    (∀ x ∈ frames, x = onward way frame) ∧ Flow frame way lost g w k' f' := by
  have hcollect := h.plumbed.receive (q := backRx) (by decide) (by decide)
    (fun b hb => (h.delivered b hb).trans_ne nofun) burstSize
  have hbalanced := h.balanced.rxBurst backRx burstSize
  rcases hrx : f.rxBurst backRx burstSize with ⟨bs, f₁⟩
  rw [hrx] at hcollect hbalanced
  have hstocked := h.stocked.collect hcollect
  refine ⟨bs.map f₁.store.data, { k with received := k.received + bs.length },
    f₁.updateStore (·.dropAll bs), ?_, hcollect.steady.restore _, fun x hx => ?_,
    ⟨h.seated.generator, h.seated.forwarder, h.seated.sink, h.seated.way⟩,
    (h.plumbed.steady hcollect.steady).restore _, ?_, hstocked.dropAll bs,
    (h.counted.receive hcollect h.delivered rfl).restore _⟩
  · rw [Sink.step, h.seated.sink, hrx]
  · obtain ⟨b, hb, rfl⟩ := List.mem_map.mp hx
    obtain ⟨cs, hcs⟩ := hcollect.store
    change f₁.store = _ at hcs
    rw [hcs, (sameMemory_dropAll f.store cs).data]
    exact (h.stocked.homeward b (hcollect.taken b hb).1).1
  · unfold Fabric.Balanced at hbalanced ⊢
    rw [Multiset.add_assoc] at hbalanced
    exact hbalanced.dropAll

end
end Flow
end Circuit
end Dataplane
