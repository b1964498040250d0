import Dataplane.Proofs.Demo.SetUp
import Dataplane.Proofs.Port.Sole

/-! # Workers and the queues they hold

A demo that is set up hands every queue to a worker, and finds every queue there. The handles of the
workers are all the handles that there are, so nothing is out any more when they are given back.
-/
namespace Dataplane

/-- What taking queues and giving them back leaves alone in a port. -/
structure Port.Standing where
  peer : Nat
  stage : Stage
  rxCount : Nat
  txCount : Nat

def Port.standing (x : Port) : Port.Standing := ⟨x.peer, x.stage, x.rxCount, x.txCount⟩

namespace Fabric

/-- Two ports wired back to back, both started with `n` queues in each direction. -/
structure Running (n : Nat) (f : Fabric) : Prop where
  base : f.base = 0
  size : f.ports.size = 2
  standing : ∀ p < 2, (f.port p).standing = ⟨1 - p, .started, n, n⟩

namespace Running

variable {n p q : Nat} {f g : Fabric} {rxs : Multiset RxQueue} {txs : Multiset TxQueue}

theorem of_up (hbase : f.base = 0) (hsize : f.ports.size = 2) (hup : ∀ p < 2, f.Up p n) :
    f.Running n := by
  refine ⟨hbase, hsize, fun p hp => ?_⟩
  obtain ⟨x, r, hpeer, hport⟩ := hup p hp
  rw [hport, ← hpeer]
  rfl

section

variable (h : f.Running n)
include h

theorem stage (hp : p < 2) : (f.port p).stage = .started :=
  congrArg Port.Standing.stage (h.standing p hp)
theorem peer (hp : p < 2) : (f.port p).peer = 1 - p :=
  congrArg Port.Standing.peer (h.standing p hp)
theorem rxCount (hp : p < 2) : (f.port p).rxCount = n :=
  congrArg Port.Standing.rxCount (h.standing p hp)
theorem txCount (hp : p < 2) : (f.port p).txCount = n :=
  congrArg Port.Standing.txCount (h.standing p hp)

theorem of_standing (hbase : g.base = f.base) (hsize : g.ports.size = f.ports.size)
    (hstanding : ∀ i, (g.port i).standing = (f.port i).standing) : g.Running n :=
  ⟨hbase.trans h.base, hsize.trans h.size, fun p hp => (hstanding p).trans (h.standing p hp)⟩

theorem updatePort (p : Nat) {k : Port → Port} (hk : ∀ x, (k x).standing = x.standing) :
    (f.updatePort p k).Running n :=
  h.of_standing rfl (f.size_updatePort p k) (read_updatePort Port.standing f p k hk)

theorem samePorts (hfg : SamePorts f g) : g.Running n :=
  h.of_standing hfg.base (congrArg Array.size hfg.ports) fun i => congrArg _ (hfg.port i)

theorem putRx (x : RxQueue) : (f.putRx x).Running n := by
  unfold Fabric.putRx
  split
  · exact h.updatePort _ fun _ => rfl
  · exact h.samePorts (f.samePorts_dropConsumer _)

theorem putTx (x : TxQueue) : (f.putTx x).Running n := by
  have hput : (f.putProducer x).Running n := by
    unfold Fabric.putProducer
    split
    · split
      · exact h.updatePort _ fun _ => rfl
      · exact h.samePorts (f.samePorts_dropProducer _)
    · exact h.samePorts (f.samePorts_dropProducer _)
  unfold Fabric.putTx
  dsimp only
  split
  · exact hput.updatePort _ fun _ => rfl
  · exact hput

end
end Running

/-- The queues of two running ports are lent to the handles in `rxs` and `txs`, and no frame is
anywhere. -/
structure Lent (n : Nat) (s : Store) (rxs : Multiset RxQueue) (txs : Multiset TxQueue)
    (f : Fabric) : Prop where
  running : f.Running n
  wired : f.Wired rxs txs
  calm : f.Calm s

namespace Lent

variable {n p q : Nat} {s : Store} {f : Fabric} {rxs : Multiset RxQueue} {txs : Multiset TxQueue}

theorem ready (h : f.Lent n s rxs txs) (hp : p < 2) (hq : q < n) :
    (f.port p).rxAt q ≠ .absent := by
  have hcounted := h.wired.counted p (by simp [h.running.base])
  exact (hcounted.ready (h.running.stage hp)).1 q (by rw [h.running.rxCount hp]; exact hq)

theorem takeRx (h : f.Lent n s rxs txs) (hp : p < 2) (hq : q < n)
    (hfree : ∀ x ∈ rxs, x.port = p → x.queue ≠ q) :
    ∃ x g, f.takeRx p q = (.ok x, g) ∧ x.port = p ∧ x.queue = q ∧ g.Lent n s (x ::ₘ rxs) txs := by
  have hstage := h.running.stage hp
  have hset := h.ready hp hq
  have hentry := Port.rx_of_rxAt hset
  cases hrx : (f.port p).rxAt q with
  | absent => exact absurd hrx hset
  | out =>
    obtain ⟨r, hr⟩ := h.wired.handed.exists_rx hrx
    exact absurd rfl (hfree _ hr rfl)
  | parked r =>
    rw [hrx] at hentry
    refine ⟨⟨p, q, r⟩, f.updatePort p (·.setRx q .out), ?_, rfl, rfl,
      h.running.updatePort p fun _ => rfl, h.wired.takeRx hstage hentry, h.calm.updatePort p _⟩
    have hlt : q < (f.port p).rxCount := by rw [h.running.rxCount hp]; exact hq
    simp only [Fabric.takeRx, takeable_of hstage hlt, hentry]

theorem takeTx (h : f.Lent n s rxs txs) (hp : p < 2) (hq : q < n)
    (hfree : ∀ x ∈ txs, x.port = p → x.queue ≠ q) :
    ∃ x g, f.takeTx p q = (.ok x, g) ∧ x.port = p ∧ x.queue = q ∧ g.Lent n s rxs (x ::ₘ txs) := by
  have hstage := h.running.stage hp
  rcases f.takeTx_cases p q with ⟨e, r, -, hparked, hi, heq⟩ | ⟨e, heq⟩
  · exact ⟨_, _, heq, rfl, rfl,
      (h.running.updatePort p (k := (·.setTx q .out)) fun _ => rfl).updatePort _ fun _ => rfl,
      h.wired.takeTx hstage hparked hi, (h.calm.updatePort p _).updatePort _ _⟩
  · have hfails := (h.wired.takeTx_fails_iff (q := q) (by simp [h.running.base]) hstage
      (by rw [h.running.txCount hp]; exact hq)).mp ⟨e, congrArg Prod.fst heq⟩
    rcases hfails with ⟨x, hx, hport, hqueue⟩ | habsent
    · exact absurd hqueue (hfree x hx hport)
    · rw [h.running.peer hp] at habsent
      exact absurd habsent (h.ready (by omega) hq)

theorem putRx {x : RxQueue} (h : f.Lent n s (x ::ₘ rxs) txs) : (f.putRx x).Lent n s rxs txs where
  running := h.running.putRx x
  wired := by simpa using h.wired.putRx (Multiset.mem_cons_self x rxs)
  calm := h.calm.putRx x

theorem putTx {x : TxQueue} (h : f.Lent n s rxs (x ::ₘ txs)) : (f.putTx x).Lent n s rxs txs where
  running := h.running.putTx x
  wired := by simpa using h.wired.putTx (Multiset.mem_cons_self x txs)
  calm := h.calm.putTx x

end Lent
end Fabric

/-! ## Workers -/

namespace Rig

def alive {α : Type} (ws : Array (Except Fault α)) : List α :=
  ws.toList.filterMap Except.toOption

variable (r : Rig)

def rxs : Multiset RxQueue :=
  ↑((alive r.forwarders).map Forwarder.rx) + ↑(r.sinks.toList.map Sink.rx)

def txs : Multiset TxQueue :=
  ↑((alive r.generators).map Generator.tx) + ↑((alive r.forwarders).map Forwarder.tx)

/-- A demo whose workers hold their queues and nothing else. -/
structure Staffed (n : Nat) (s : Store) : Prop where
  lent : r.fabric.Lent n s r.rxs r.txs
  generators : ∀ g ∈ r.generators, ∃ w : Generator, g = .ok w ∧ w.burst = [] ∧ w.cache.stack = []
  forwarders : ∀ g ∈ r.forwarders, ∃ w, g = .ok w

@[simp] theorem alive_push {α : Type} (ws : Array (Except Fault α)) (w : α) :
    alive (ws.push (.ok w)) = alive ws ++ [w] := by
  simp [alive, Except.toOption]

variable {r}

/-! ## The meter -/

/-- The lanes before lane `q` are staffed. -/
structure Lanes (n : Nat) (s : Store) (q : Nat) (r : Rig) : Prop where
  staffed : r.Staffed n s
  rxs : ∀ x ∈ r.rxs, x.queue < q
  txs : ∀ x ∈ r.txs, x.queue < q

theorem addLane_ok {n q : Nat} {s : Store} (p : Nat) (h : r.Lanes n s q) (hq : q < n) :
    ∃ r', addLane p r q = .ok r' ∧ r'.Lanes n s (q + 1) := by
  obtain ⟨⟨hlent, hgenerators, hforwarders⟩, hrxs, htxs⟩ := h
  obtain ⟨tx, f, htake, -, htx, hf⟩ := hlent.takeTx (p := firstPort) (by decide) hq
    fun x hx _ => Nat.ne_of_lt (htxs x hx)
  obtain ⟨rx, g, htake', -, hrx, hg⟩ := hf.takeRx (p := secondPort) (by decide) hq
    fun x hx _ => Nat.ne_of_lt (hrxs x hx)
  have hadd : addLane p r q = .ok
      { r with
        fabric := g
        generators := r.generators.push (.ok { cache := Cache.create g.store p, tx })
        sinks := r.sinks.push { rx } } := by
    rw [addLane, htake]
    simp only [attempt, bind, Except.bind, htake']
    rfl
  generalize hr' : ({ r with
    fabric := g
    generators := r.generators.push (.ok { cache := Cache.create g.store p, tx })
    sinks := r.sinks.push { rx } } : Rig) = r' at hadd
  have hrxs' : r'.rxs = rx ::ₘ r.rxs := by
    rw [← hr', Rig.rxs, Rig.rxs, Array.toList_push, List.map_append, ← Multiset.coe_add,
      ← Multiset.singleton_add]
    exact (Multiset.add_assoc _ _ _).symm.trans (Multiset.add_comm _ _)
  have htxs' : r'.txs = tx ::ₘ r.txs := by
    rw [← hr', Rig.txs, Rig.txs, alive_push, List.map_append, ← Multiset.coe_add,
      ← Multiset.singleton_add, ← Multiset.add_assoc]
    exact congrArg (· + _) (Multiset.add_comm _ _)
  refine ⟨r', hadd, ⟨?_, fun w hw => ?_, fun w hw => ?_⟩, fun x hx => ?_, fun x hx => ?_⟩
  · rw [hrxs', htxs', ← hr']
    exact hg
  · rw [← hr'] at hw
    rcases Array.mem_push.mp hw with hw | rfl
    · exact hgenerators w hw
    · exact ⟨_, rfl, rfl, rfl⟩
  · rw [← hr'] at hw
    exact hforwarders w hw
  · rw [hrxs'] at hx
    rcases Multiset.mem_cons.mp hx with rfl | hx
    · omega
    · exact Nat.lt_succ_of_lt (hrxs x hx)
  · rw [htxs'] at hx
    rcases Multiset.mem_cons.mp hx with rfl | hx
    · omega
    · exact Nat.lt_succ_of_lt (htxs x hx)

/-- The meter behind the check that there are queues. -/
theorem meter_eq (host : DemoHost) (s : DemoSettings) {queues : Nat} (talkative : Bool)
    (hsome : 1 ≤ queues) :
    meter host s queues talkative = openPool host s >>= fun pool =>
      meterPorts host pool.2 queues s.descriptors >>= fun f => makeFrame f s.payload >>= fun frame =>
        (List.range queues).foldlM (addLane pool.1) { fabric := f, frame, talkative } := by
  rw [meter, if_neg (Nat.ne_of_gt hsome)]
  simp only [meterPorts, bind, Except.bind]
  cases openPool host s with
  | error e => rfl
  | ok pool =>
    dsimp only
    cases ringPair host { store := pool.2 } s.descriptors with
    | error e => rfl
    | ok f =>
      by_cases hmany : queues > 1
      · simp only [hmany, if_true]
      · simp only [hmany, if_false]

theorem lanes_none {n : Nat} {s : Store} {f : Fabric} (hf : f.Twins s) (hup : ∀ p < 2, f.Up p n)
    (frame : List UInt8) (talkative : Bool) :
    ({ fabric := f, frame, talkative } : Rig).Lanes n s 0 where
  staffed := ⟨⟨.of_up hf.base hf.size hup, hf.wired, hf.calm⟩,
    fun _ hg => absurd hg (Array.not_mem_empty _), fun _ hg => absurd hg (Array.not_mem_empty _)⟩
  rxs _ hx := absurd hx (Multiset.notMem_zero _)
  txs _ hx := absurd hx (Multiset.notMem_zero _)

/-! ## The demos -/

/-- What setting up a demo comes to, given what is wrong with it. -/
def Answers (x : Except DemoFault Rig) (n : Nat) (s : Store) : Option DemoFault → Prop
  | some e => x = .error e
  | none => ∃ r, x = .ok r ∧ r.Staffed n s

theorem Answers.of_ite {x : Except DemoFault Rig} {n : Nat} {s : Store} {c : Prop} [Decidable c]
    {e : DemoFault} {rest : Option DemoFault} (hbad : ¬c → x = .error e)
    (hgood : c → Answers x n s rest) : Answers x n s (if ¬c then some e else rest) := by
  by_cases hc : c
  · rw [if_neg (not_not_intro hc)]
    exact hgood hc
  · rw [if_pos hc]
    exact hbad hc

/-- A demo fails on its pool before it does anything else. -/
theorem Answers.of_openPool {host : DemoHost} {s : DemoSettings} {n : Nat} {t : Store}
    {setUp : Nat × Store → Except DemoFault Rig} {rest : Option DemoFault}
    (hgood : Answers (setUp (0, ⟨#[s.freshPool]⟩)) n t rest) :
    Answers (openPool host s >>= setUp) n t
      (if ¬(1 ≤ s.buffers ∧ s.buffers ≤ 2 ^ 32 - 1) then
        some (.library (.config s!"invalid buffer count {s.buffers}"))
      else if ¬s.cacheSize ≤ min 512 s.buffers then
        some (.library (.config s!"invalid cache size {s.cacheSize}"))
      else if ¬host.hasMemory = true then some (.library (.exhausted .pool)) else rest) := by
  refine .of_ite (fun hbuffers => ?_) fun hbuffers => .of_ite (fun hcache => ?_) fun hcache =>
    .of_ite (fun hmemory => ?_) fun hmemory => ?_
  · rw [openPool_of_buffers hbuffers]
    rfl
  · rw [openPool_of_cacheSize hbuffers hcache]
    rfl
  · rw [openPool_of_memory hbuffers hcache hmemory]
    rfl
  · rw [openPool_ok hbuffers hcache hmemory]
    exact hgood

theorem meter_answers (host : DemoHost) (s : DemoSettings) (queues : Nat) (talkative : Bool) :
    Answers (meter host s queues talkative) queues ⟨#[s.freshPool]⟩
      ((Invocation.meter s queues talkative).flaw? host) := by
  dsimp only [Invocation.flaw?, Invocation.queues, Invocation.settings]
  refine .of_ite (fun hnone => ?_) fun hsome => ?_
  · rw [meter, if_pos (Nat.eq_zero_of_not_pos hnone)]
    rfl
  rw [meter_eq host s talkative hsome]
  refine .of_openPool <| .of_ite (fun hdescriptors => ?_) fun hdescriptors =>
    .of_ite (fun hfew => ?_) fun hfew => ?_
  · rw [meterPorts_of_descriptors _ _ _ (checkDescriptors_error hdescriptors)]
    rfl
  · rw [meterPorts_of_counts _ _ (checkQueueCounts_error hfew) (by omega)
      (checkDescriptors_ok hdescriptors)]
    rfl
  obtain ⟨f, hf, htwins, hup⟩ := meterPorts_ok host ⟨#[s.freshPool]⟩
    (checkQueueCounts_ok hsome hfew) (checkDescriptors_ok hdescriptors)
  rw [hf]
  refine .of_ite (fun hpayload => ?_) fun hpayload => ?_
  · simp only [bind, Except.bind, makeFrame_error f hpayload]
  · obtain ⟨frame, hframe, -⟩ := makeFrame_ok f hpayload
    obtain ⟨r, hr, hlanes⟩ := foldlM_range_ok (P := Lanes queues ⟨#[s.freshPool]⟩)
      (fun _ hq _ h => addLane_ok 0 h hq) (lanes_none htwins hup frame talkative)
      (Nat.le_refl queues)
    refine ⟨r, ?_, hlanes.staffed⟩
    simp only [bind, Except.bind, hframe, hr]

theorem isGroup_forwarding (n : Nat) : (Mac.forwarding n).isGroup = false := by
  simp [Mac.forwarding, Mac.isGroup]
  decide

/-- A fabric whose first port receives only frames for the address that a forwarder writes. -/
def selective (f : Fabric) : Fabric :=
  f.updatePort firstPort fun port =>
    { port with promiscuous := false, mac := .forwarding (f.port firstPort).number }

theorem redirect_eq (f : Fabric) : redirect f =
    .ok (⟨(f.port secondPort).mac, .forwarding (f.port firstPort).number⟩, selective f) := by
  have hnumber : ((f.setPromiscuous firstPort false).port firstPort).number =
      (f.port firstPort).number :=
    Fabric.read_updatePort Port.number f firstPort (fun port => { port with promiscuous := false })
      (fun _ => rfl) firstPort
  have hset : ((f.setPromiscuous firstPort false).updatePort firstPort fun port =>
      { port with mac := .forwarding (f.port firstPort).number }) = selective f :=
    Fabric.updatePort_updatePort f firstPort _ _
  have hmac : ((selective f).port secondPort).mac = (f.port secondPort).mac := by
    rw [selective, Fabric.port_updatePort, if_neg fun h => absurd h.1 (by decide)]
  rw [redirect]
  simp only [hnumber, Fabric.setMac, settled_checked, checkStation, isGroup_forwarding,
    Bool.false_eq_true, if_false, bind, Except.bind, hset, hmac]
  rfl

/-- What a forwarder is told to write into frames, and the fabric that it starts from. -/
def routed (updating : Bool) (f : Fabric) : Option Redirection × Fabric :=
  if updating then
    (some ⟨(f.port secondPort).mac, .forwarding (f.port firstPort).number⟩, selective f)
  else (none, f)

theorem lent_routed {n : Nat} {s : Store} {f : Fabric} (h : f.Lent n s 0 0) (updating : Bool) :
    (routed updating f).2.Lent n s 0 0 := by
  cases updating with
  | false => exact h
  | true =>
    exact ⟨h.running.updatePort firstPort fun _ => rfl, h.wired.setPort firstPort _ fun _ => rfl,
      h.calm.updatePort firstPort _⟩

/-- Hands the four queues of two ports to a generator, a forwarder and a sink. -/
def forwardOver (p : Nat) (frame : List UInt8) (way : Option Redirection) (f : Fabric) :
    Except DemoFault Rig := do
  let (tx, f) ← attempt (f.takeTx firstPort 0)
  let (back, f) ← attempt (f.takeRx firstPort 0)
  let (rx, f) ← attempt (f.takeRx secondPort 0)
  let (out, f) ← attempt (f.takeTx secondPort 0)
  return {
    fabric := f
    frame
    generators := #[.ok { cache := Cache.create f.store p, tx }]
    forwarders := #[.ok { rx, tx := out, redirection := way }]
    sinks := #[{ rx := back }] }

theorem forwardOver_ok {n : Nat} {s : Store} {f : Fabric} (h : f.Lent n s 0 0) (hn : 0 < n)
    (p : Nat) (frame : List UInt8) (way : Option Redirection) :
    ∃ r, forwardOver p frame way f = .ok r ∧ r.Staffed n s := by
  obtain ⟨tx, f₁, h₁, htx, -, hf₁⟩ := h.takeTx (p := firstPort) (by decide) hn
    fun x hx => absurd hx (Multiset.notMem_zero x)
  obtain ⟨back, f₂, h₂, hback, -, hf₂⟩ := hf₁.takeRx (p := firstPort) (by decide) hn
    fun x hx => absurd hx (Multiset.notMem_zero x)
  obtain ⟨rx, f₃, h₃, -, -, hf₃⟩ := hf₂.takeRx (p := secondPort) (by decide) hn
    fun x hx hport => by
      rw [Multiset.mem_singleton.mp hx, hback] at hport
      cases hport
  obtain ⟨out, f₄, h₄, -, -, hf₄⟩ := hf₃.takeTx (p := secondPort) (by decide) hn
    fun x hx hport => by
      rw [Multiset.mem_singleton.mp hx, htx] at hport
      cases hport
  have hover : forwardOver p frame way f = .ok {
      fabric := f₄
      frame
      generators := #[.ok { cache := Cache.create f₄.store p, tx }]
      forwarders := #[.ok { rx, tx := out, redirection := way }]
      sinks := #[{ rx := back }] } := by
    simp only [forwardOver, attempt, bind, Except.bind, h₁, h₂, h₃, h₄]
    rfl
  refine ⟨_, hover, ?_, fun g hg => ?_, fun w hw => ?_⟩
  · have hswap : ({tx} + {out} : Multiset TxQueue) = out ::ₘ tx ::ₘ 0 := Multiset.add_comm _ _
    change f₄.Lent n s ({rx} + {back}) ({tx} + {out})
    rw [hswap]
    exact hf₄
  · exact ⟨_, by simpa using hg, rfl, rfl⟩
  · exact ⟨_, by simpa using hw⟩

theorem forward_eq (host : DemoHost) (s : DemoSettings) (updating : Bool) :
    forward host s updating = openPool host s >>= fun pool =>
      ringPair host { store := pool.2 } s.descriptors >>= fun f =>
        makeFrame (routed updating f).2 s.payload >>= fun frame =>
          forwardOver pool.1 frame (routed updating f).1 (routed updating f).2 := by
  rw [forward]
  simp only [bind, Except.bind]
  cases openPool host s with
  | error e => rfl
  | ok pool =>
    dsimp only
    cases ringPair host { store := pool.2 } s.descriptors with
    | error e => rfl
    | ok f =>
      cases updating with
      | false => rfl
      | true =>
        simp only [if_true, redirect_eq]
        rfl

theorem forward_answers (host : DemoHost) (s : DemoSettings) (updating : Bool) :
    Answers (forward host s updating) 1 ⟨#[s.freshPool]⟩
      ((Invocation.forward s updating).flaw? host) := by
  dsimp only [Invocation.flaw?, Invocation.queues, Invocation.settings]
  rw [forward_eq]
  refine .of_ite (fun hnone => absurd (Nat.le_refl 1) hnone) fun _ => .of_openPool <|
    .of_ite (fun hdescriptors => ?_) fun hdescriptors =>
    .of_ite (fun hmany => absurd (by decide : 1 ≤ 64) hmany) fun _ => ?_
  · rw [ringPair_of_descriptors _ _ (checkDescriptors_error hdescriptors)]
    rfl
  obtain ⟨f, hf, hcoupled⟩ := ringPair_ok host ⟨#[s.freshPool]⟩ (checkDescriptors_ok hdescriptors)
  have hlent : f.Lent 1 ⟨#[s.freshPool]⟩ 0 0 :=
    ⟨.of_up hcoupled.twins.base hcoupled.twins.size fun p hp => hcoupled.up hp,
      hcoupled.twins.wired, hcoupled.twins.calm⟩
  have hrouted := lent_routed hlent updating
  rw [hf]
  simp only [bind, Except.bind]
  refine .of_ite (fun hpayload => ?_) fun hpayload => ?_
  · rw [makeFrame_error _ hpayload]
  · obtain ⟨frame, hframe, -⟩ := makeFrame_ok (routed updating f).2 hpayload
    rw [hframe]
    exact forwardOver_ok hrouted Nat.one_pos 0 frame _

theorem create_answers (host : DemoHost) (i : Invocation) :
    Answers (create host i) i.queues ⟨#[i.settings.freshPool]⟩ (i.flaw? host) := by
  cases i with
  | forward s updating => exact forward_answers host s updating
  | meter s queues debug => exact meter_answers host s queues debug

end Rig
end Dataplane
