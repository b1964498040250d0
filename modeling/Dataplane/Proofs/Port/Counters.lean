import Dataplane.Proofs.Port.Bursts
import Dataplane.Proofs.Port.Wiring

/-! # Counters

The counters of a port change with bursts and when they are reset, and stay as they are otherwise.
A burst counts the frames that it puts on a ring as sent, and those that it takes off a ring as
received or as errors, unless they are meant for another station. The peer of a port is for life.
-/
namespace Dataplane

/-! ## What a receiver counts -/

theorem harvest_counts {judge : Buffer → Verdict} {passes : Buffer → Bool}
    (hjudge : ∀ b, judge b = .deliver ↔ passes b = true) (max : Nat) (frames : List Buffer) :
    (harvest judge max frames).delivered.length =
        (fetch passes max frames).countP (judge · = .deliver) ∧
      (harvest judge max frames).overlong =
        (fetch passes max frames).countP (judge · = .overlong) := by
  obtain ⟨rest, -, hharvest⟩ := harvest_eq hjudge max frames
  rw [hharvest]
  exact ⟨length_filter_passes hjudge _, rfl⟩

theorem length_eq_verdicts (judge : Buffer → Verdict) (bs : List Buffer) :
    bs.length = bs.countP (judge · = .deliver) + bs.countP (judge · = .overlong) +
      bs.countP (judge · = .foreign) := by
  induction bs with
  | nil => rfl
  | cons b rest ih =>
    simp only [List.length_cons, List.countP_cons]
    cases judge b <;> simp <;> omega

namespace Fabric

variable {f g h : Fabric} {p : Nat}

theorem stats_rxBurst (f : Fabric) {x : RxQueue} (hx : x.port < f.ports.size) (max i : Nat) :
    let s := (f.port i).stats
    let s' := ((f.rxBurst x max).2.port i).stats
    let count (v : Verdict) := (f.fetched x max).countP ((f.port x.port).judge f.store · = v)
    s'.sentFrames = s.sentFrames ∧
      s'.receivedFrames = s.receivedFrames + (if i = x.port then count .deliver else 0) ∧
      s'.receiveErrors = s.receiveErrors + (if i = x.port then count .overlong else 0) := by
  unfold rxBurst fetched
  dsimp only
  split
  · simp
  · obtain ⟨hdelivered, hoverlong⟩ :=
      harvest_counts ((f.port x.port).judge_eq_deliver_iff f.store) max (f.ring x.ring).frames
    rw [← hdelivered, ← hoverlong]
    dsimp only
    rw [port_updatePort_of_lt]
    · split <;> exact ⟨rfl, rfl, rfl⟩
    · exact hx

theorem stats_txBurst (f : Fabric) {x : TxQueue} (hx : x.port < f.ports.size)
    (bufs : List Buffer) (i : Nat) :
    let s := (f.port i).stats
    let s' := ((f.txBurst x bufs).2.2.port i).stats
    s'.sentFrames = s.sentFrames + (if i = x.port then (f.carried x bufs).length else 0) ∧
      s'.receivedFrames = s.receivedFrames ∧ s'.receiveErrors = s.receiveErrors := by
  unfold carried txBurst
  dsimp only
  by_cases hpaused : isPaused (f.port x.port).txPaused x.queue = true
  · simp [hpaused]
  · rw [if_neg hpaused]
    cases hlinks : (f.port x.port).linkUp && (f.port x.peer).linkUp with
    | true =>
      rw [Bool.not_true, if_neg Bool.false_ne_true, if_pos rfl, port_updatePort_of_lt]
      · split <;> exact ⟨rfl, rfl, rfl⟩
      · exact hx
    | false =>
      rw [Bool.not_false, if_pos rfl, if_neg Bool.false_ne_true, port_updatePort_of_lt]
      · split <;> exact ⟨rfl, rfl, rfl⟩
      · exact hx

/-! ## What stays -/

/-- From `f` to `g`, ports keep their peers, ports that are gone stay gone, and only ports in `R`
count. -/
structure Lasts (R : Nat → Prop) (f g : Fabric) : Prop where
  base : f.base ≤ f.ports.size → f.base ≤ g.base ∧ g.base ≤ g.ports.size
  size : f.ports.size ≤ g.ports.size
  peer : ∀ p < f.ports.size, (g.port p).peer = (f.port p).peer
  stats : ∀ p, ¬R p → (g.port p).stats = (f.port p).stats

namespace Lasts

variable {R : Nat → Prop}

theorem of_ports (hbase : g.base = f.base) (hsize : g.ports.size = f.ports.size)
    (hpeer : ∀ i, (g.port i).peer = (f.port i).peer)
    (hstats : ∀ i, ¬R i → (g.port i).stats = (f.port i).stats) : Lasts R f g where
  base hle := by
    rw [hbase, hsize]
    exact ⟨Nat.le_refl _, hle⟩
  size := hsize.ge
  peer p _ := hpeer p
  stats := hstats

theorem of_samePorts (hfg : SamePorts f g) : Lasts R f g :=
  of_ports hfg.base (congrArg Array.size hfg.ports) (fun i => by rw [hfg.port])
    fun i _ => by rw [hfg.port]

theorem refl (f : Fabric) : Lasts R f f := of_samePorts (.refl f)

theorem trans (hg : Lasts R f g) (hh : Lasts R g h) : Lasts R f h where
  base hle := by
    obtain ⟨hfirst, hmiddle⟩ := hg.base hle
    obtain ⟨hsecond, hlast⟩ := hh.base hmiddle
    exact ⟨hfirst.trans hsecond, hlast⟩
  size := hg.size.trans hh.size
  peer p hp := (hh.peer p (hp.trans_le hg.size)).trans (hg.peer p hp)
  stats p hp := (hh.stats p hp).trans (hg.stats p hp)

theorem mono {S : Nat → Prop} (h : Lasts R f g) (hRS : ∀ p, R p → S p) : Lasts S f g :=
  { h with stats := fun p hp => h.stats p fun hR => hp (hRS p hR) }

theorem updatePort (f : Fabric) (p : Nat) {k : Port → Port}
    (hk : ∀ x, (k x).peer = x.peer ∧ (k x).stats = x.stats) : Lasts R f (f.updatePort p k) :=
  of_ports rfl (f.size_updatePort p k) (read_updatePort (·.peer) f p k fun x => (hk x).1)
    fun i _ => read_updatePort (·.stats) f p k (fun x => (hk x).2) i

theorem resetQueues (f : Fabric) (p rx tx : Nat) : Lasts R f (f.resetQueues p rx tx) :=
  (updatePort f p (k := (·.cleared rx tx)) fun _ => ⟨rfl, rfl⟩).trans
    (of_samePorts (samePorts_dropEnds _ _ _))

theorem installRing (f : Fabric) (p q capacity : Nat) :
    Lasts R f (f.installRing p q capacity) := by
  have hset := updatePort (R := R) (f.addRing capacity).2 p (k := (·.withRing q f.rings.size))
    fun _ => ⟨rfl, rfl⟩
  have hadd : Lasts R f (f.addRing capacity).2 := of_ports rfl rfl (fun _ => rfl) fun _ _ => rfl
  exact hadd.trans (hset.trans (of_samePorts (samePorts_dropEnds _ _ _)))

theorem putRx (f : Fabric) (x : RxQueue) : Lasts R f (f.putRx x) := by
  unfold Fabric.putRx
  split
  · exact updatePort f _ fun _ => ⟨rfl, rfl⟩
  · exact of_samePorts (f.samePorts_dropConsumer x.ring)

theorem putTx (f : Fabric) (x : TxQueue) : Lasts R f (f.putTx x) := by
  have hproducer : Lasts R f (f.putProducer x) := by
    rcases Fed.putProducer_cases f x with ⟨-, heq⟩ | ⟨-, heq⟩
    · rw [heq]
      exact updatePort f _ fun _ => ⟨rfl, rfl⟩
    · rw [heq]
      exact of_samePorts (f.samePorts_dropProducer x.ring)
  unfold Fabric.putTx
  dsimp only
  split
  · exact hproducer.trans (updatePort _ _ fun _ => ⟨rfl, rfl⟩)
  · exact hproducer

theorem abandon (f : Fabric) (inUse : Nat → Bool) (p : Nat) : Lasts R f (f.abandon inUse p) := by
  unfold Fabric.abandon
  split
  · exact resetQueues f p 0 0
  · exact refl f

theorem renew (f : Fabric) (inUse : Nat → Bool) : Lasts R f (f.renew inUse) := by
  refine renew_of f (P := Lasts R f) ?_ fun g p hg => hg.trans (abandon g inUse p)
  exact ⟨fun hle => ⟨hle, Nat.le_refl _⟩, Nat.le_refl _, fun _ _ => rfl, fun _ _ => rfl⟩

theorem addPort (f : Fabric) (name : String) (peer : Nat) (mac : Mac) :
    Lasts R f (f.addPort name peer mac) := by
  have hsize : (f.addPort name peer mac).ports.size = f.ports.size + 1 := by
    simp [Fabric.addPort]
  have hold : ∀ p < f.ports.size, (f.addPort name peer mac).port p = f.port p := by
    intro p hp
    simp [Fabric.addPort, port, Array.getElem?_push, Nat.ne_of_lt hp]
  refine ⟨fun hle => ?_, ?_, fun p hp => ?_, fun p _ => ?_⟩
  · rw [hsize]
    exact ⟨Nat.le_refl _, Nat.le_succ_of_le hle⟩
  · rw [hsize]
    exact Nat.le_succ _
  · rw [hold p hp]
  · rcases Nat.lt_trichotomy p f.ports.size with hlt | rfl | hgt
    · rw [hold p hlt]
    · rw [f.port_of_size_le (Nat.le_refl _)]
      simp [Fabric.addPort, port]
      rfl
    · rw [port_of_size_le _ (by rw [hsize]; exact hgt), port_of_size_le _ hgt.le]

theorem createPair (f : Fabric) (a b : String) (macA macB : Mac) :
    Lasts R f (f.createPair a b macA macB).2 := by
  unfold Fabric.createPair
  dsimp only
  split
  · exact refl f
  · exact (addPort f _ _ _).trans (addPort _ _ _ _)

theorem createLoopback (f : Fabric) (name : String) (mac : Mac) :
    Lasts R f (f.createLoopback name mac).2 := by
  unfold Fabric.createLoopback
  dsimp only
  split
  · exact refl f
  · exact addPort f _ _ _

theorem checked {check : Except Fault Unit} {effect : Fabric → Fabric}
    (heffect : Lasts R f (effect f)) : Lasts R f (f.checked check effect).2 := by
  rcases checked_cases f check effect with ⟨-, heq⟩ | ⟨e, heq⟩
  · rw [heq]
    exact heffect
  · rw [heq]
    exact refl f

theorem of_tables (hfg : SameTables f g)
    (hstats : ∀ i, ¬R i → (g.port i).stats = (f.port i).stats) : Lasts R f g :=
  of_ports hfg.base hfg.size hfg.peer hstats

end Lasts
end Fabric
end Dataplane
