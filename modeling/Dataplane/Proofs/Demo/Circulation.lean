import Dataplane.Demo.Report
import Dataplane.Proofs.Demo.Circuit
import Dataplane.Proofs.Demo.Staffing

/-! # The accounts of the forwarding demo

Three workers take turns in any order. After every turn the counters of the generator, the forwarder
and the sink agree with those of the ports and with the frames that wait on the two rings: a frame
was forwarded, was refused for its length, or was dropped because it found no room on the way back,
and all that come back are taken. No worker ever fails.
-/
namespace Dataplane
namespace Rig

def Turn.worker : Turn → Nat
  | .generate i | .forward i | .receive i => i

/-- The frames that a turn drops because they find no room on the ring they are sent to. -/
def lostOn (r : Rig) : Turn → Nat
  | .forward i =>
    match r.forwarders[i]? with
    | some (.ok w) =>
      (r.fabric.rxBurst w.rx burstSize).1.length -
        (r.fabric.rxBurst w.rx burstSize).2.freeSlots w.tx
    | _ => 0
  | _ => 0

/-- The frames that a run drops in this way. -/
def overflow (r : Rig) : List Turn → Nat
  | [] => 0
  | t :: rest => r.lostOn t + (r.turn t).overflow rest

/-! ## What a turn keeps -/

/-- A state that the demo has come to from `r₀`. -/
structure Underway (r₀ : Rig) (way : Option Redirection) (lost : Nat) (r : Rig) : Prop where
  frame : r.frame = r₀.frame
  steady : r₀.fabric.Steady r.fabric
  workers : ∃ g w k, r.generators = #[.ok g] ∧ r.forwarders = #[.ok w] ∧ r.sinks = #[k] ∧
    Circuit.Flow r₀.frame way lost g w k r.fabric

namespace Underway

variable {r₀ r : Rig} {way : Option Redirection} {lost : Nat}

/-- There is one worker of each kind, and a turn of any other does nothing. -/
theorem turn_absent (h : r₀.Underway way lost r) {t : Turn} (ht : t.worker ≠ 0) :
    r.turn t = r ∧ r.lostOn t = 0 := by
  obtain ⟨-, -, g, w, k, hgs, hws, hks, -⟩ := h
  cases t with
  | generate i =>
    have hi : i ≠ 0 := ht
    simp only [Rig.turn, lostOn, hgs, Array.getElem?_singleton, if_neg hi, and_self]
  | forward i =>
    have hi : i ≠ 0 := ht
    simp only [Rig.turn, lostOn, hws, Array.getElem?_singleton, if_neg hi, and_self]
  | receive i =>
    have hi : i ≠ 0 := ht
    simp only [Rig.turn, lostOn, hks, Array.getElem?_singleton, if_neg hi, and_self]

theorem generate (h : r₀.Underway way lost r) : r₀.Underway way lost (r.turn (.generate 0)) := by
  obtain ⟨hframe, hsteady, g, w, k, hgs, hws, hks, hflow⟩ := h
  obtain ⟨g', f', hstep, hkeep, hflow'⟩ := hflow.generate
  have hturn : r.turn (.generate 0) = { r with fabric := f', generators := #[.ok g'] } := by
    simp only [Rig.turn, hgs, Array.getElem?_singleton, if_true, Rig.generate, hframe, hstep]
    rfl
  rw [hturn]
  exact ⟨hframe, hsteady.trans hkeep, g', w, k, rfl, hws, hks, hflow'⟩

theorem forward (h : r₀.Underway way lost r) :
    r₀.Underway way (lost + r.lostOn (.forward 0)) (r.turn (.forward 0)) := by
  obtain ⟨hframe, hsteady, g, w, k, hgs, hws, hks, hflow⟩ := h
  obtain ⟨w', f', hstep, hkeep, hflow'⟩ := hflow.forward
  have hturn : r.turn (.forward 0) = { r with fabric := f', forwarders := #[.ok w'] } := by
    simp only [Rig.turn, hws, Array.getElem?_singleton, if_true, forwardOn, hstep]
    rfl
  have hlost : r.lostOn (.forward 0) = (r.fabric.rxBurst w.rx burstSize).1.length -
      (r.fabric.rxBurst w.rx burstSize).2.freeSlots w.tx := by
    simp only [lostOn, hws, Array.getElem?_singleton, if_true]
  rw [hturn, hlost]
  exact ⟨hframe, hsteady.trans hkeep, g, w', k, hgs, rfl, hks, hflow'⟩

theorem receive (h : r₀.Underway way lost r) : r₀.Underway way lost (r.turn (.receive 0)) := by
  obtain ⟨hframe, hsteady, g, w, k, hgs, hws, hks, hflow⟩ := h
  obtain ⟨frames, k', f', hstep, hkeep, -, hflow'⟩ := hflow.receive
  have hturn : r.turn (.receive 0) = { r with
      fabric := f'
      sinks := #[k']
      printed := r.printed ++ if r.talkative then frames.map k'.report else [] } := by
    simp only [Rig.turn, hks, Array.getElem?_singleton, if_true, Rig.receive, hstep]
    rfl
  rw [hturn]
  exact ⟨hframe, hsteady.trans hkeep, g, w, k', hgs, hws, rfl, hflow'⟩

theorem turn (h : r₀.Underway way lost r) (t : Turn) :
    r₀.Underway way (lost + r.lostOn t) (r.turn t) := by
  by_cases ht : t.worker = 0
  · cases t with
    | generate i =>
      cases ht
      exact h.generate
    | forward i =>
      cases ht
      exact h.forward
    | receive i =>
      cases ht
      exact h.receive
  · obtain ⟨hturn, hlost⟩ := h.turn_absent ht
    rwa [hturn, hlost]

theorem run (h : r₀.Underway way lost r) (turns : List Turn) :
    r₀.Underway way (lost + r.overflow turns) (turns.foldl Rig.turn r) := by
  induction turns generalizing r lost with
  | nil => exact h
  | cons t rest ih =>
    have hrest := ih (h.turn t)
    rwa [Nat.add_assoc] at hrest

end Underway

/-! ## The start -/

theorem eq_of_size_two {α : Type} [Inhabited α] {xs : Array α} (h : xs.size = 2) :
    xs = #[xs.getD 0 default, xs.getD 1 default] := by
  obtain ⟨x, y, hxy⟩ : ∃ x y, xs.toList = [x, y] := List.length_eq_two.mp h
  obtain rfl : xs = #[x, y] := Array.ext' hxy
  rfl

/-- A fabric of two ports with empty rings of so many places. -/
def twoPorts (descriptors : Nat) (s : Store) (x y : Port) : Fabric where
  store := s
  ports := #[x, y]
  rings := #[{ capacity := descriptors }, { capacity := descriptors }]

section TwoPorts

variable (descriptors : Nat) (s : Store) (x y : Port)

@[simp] theorem port_first : (twoPorts descriptors s x y).port firstPort = x := rfl
@[simp] theorem port_second : (twoPorts descriptors s x y).port secondPort = y := rfl

@[simp] theorem updatePort_first (k : Port → Port) :
    (twoPorts descriptors s x y).updatePort firstPort k = twoPorts descriptors s (k x) y := rfl

@[simp] theorem updatePort_second (k : Port → Port) :
    (twoPorts descriptors s x y).updatePort secondPort k = twoPorts descriptors s x (k y) := rfl

end TwoPorts

theorem Coupled.eq {host : DemoHost} {descriptors : Nat} {s : Store} {f : Fabric}
    (h : Coupled host descriptors s f) :
    f = twoPorts descriptors s ((firstMade host).launched 1 0) ((secondMade host).launched 1 1) := by
  have hports := eq_of_size_two h.twins.size
  have hrings := eq_of_size_two h.rings
  have hstore := h.twins.calm.store
  have hbase := h.twins.base
  change f.ports = #[f.port firstPort, f.port secondPort] at hports
  change f.rings = #[f.ring 0, f.ring 1] at hrings
  rw [h.first, h.second] at hports
  rw [h.ring 0 (by decide), h.ring 1 (by decide)] at hrings
  obtain ⟨store, ports, base, rings⟩ := f
  subst hstore hbase hports hrings
  rfl

def receiver (host : DemoHost) (updating : Bool) : Port :=
  if updating then
    { (firstMade host).launched 1 0 with promiscuous := false, mac := .forwarding firstPort }
  else (firstMade host).launched 1 0

def wayBack (host : DemoHost) (updating : Bool) : Option Redirection :=
  if updating then some ⟨.drawn host.second, .forwarding firstPort⟩ else none

theorem routed_twoPorts (host : DemoHost) (updating : Bool) (descriptors : Nat) (s : Store) :
    routed updating
        (twoPorts descriptors s ((firstMade host).launched 1 0) ((secondMade host).launched 1 1)) =
      (wayBack host updating,
        twoPorts descriptors s (receiver host updating) ((secondMade host).launched 1 1)) := by
  have hnumber : ((firstMade host).launched 1 0).number = firstPort := rfl
  have hmac : ((secondMade host).launched 1 1).mac = .drawn host.second := rfl
  cases updating with
  | false => rfl
  | true =>
    rw [routed, selective, updatePort_first, port_first, port_second, hnumber, hmac]
    rfl

/-- A started port whose two queues can be taken, with ring `r` behind the one that receives. -/
structure Ready (x : Port) (peer r : Nat) : Prop where
  stage : x.stage = .started
  rxCount : x.rxCount = 1
  txCount : x.txCount = 1
  peer : x.peer = peer
  rx : x.rx[0]? = some (.parked r)
  tx : x.tx[0]? = some (.parked ())
  inbox : x.inbox[0]? = some ⟨1, some r⟩

/-- A port whose only queues are in somebody's hands. -/
def handedOut (x : Port) : Port :=
  ((x.setTx 0 .out).setRx 0 .out).setInbox 0 ⟨1, none⟩

/-- The three workers get the handles of the circuit. -/
theorem forwardOver_twoPorts {x y : Port} (hx : Ready x secondPort 0) (hy : Ready y firstPort 1)
    (descriptors : Nat) (s : Store) (frame : List UInt8) (way : Option Redirection) :
    forwardOver 0 frame way (twoPorts descriptors s x y) = .ok {
      fabric := twoPorts descriptors s (handedOut x) (handedOut y)
      frame
      generators := #[.ok { cache := Cache.create s 0, tx := Circuit.outTx }]
      forwarders := #[.ok { rx := Circuit.outRx, tx := Circuit.backTx, redirection := way }]
      sinks := #[{ rx := Circuit.backRx }] } := by
  have htx := Fabric.takeTx_of_parked (f := twoPorts descriptors s x y) (p := firstPort)
    hx.stage (hx.txCount ▸ Nat.one_pos) hx.tx (by rw [port_first, hx.peer]; exact hy.inbox)
  rw [port_first, hx.peer, updatePort_first, updatePort_second] at htx
  have hback := Fabric.takeRx_of_parked (f := twoPorts descriptors s (x.setTx 0 .out)
    (y.setInbox 0 ⟨1, none⟩)) (p := firstPort) hx.stage (hx.rxCount ▸ Nat.one_pos) hx.rx
  rw [updatePort_first] at hback
  have hrx := Fabric.takeRx_of_parked (f := twoPorts descriptors s
    ((x.setTx 0 .out).setRx 0 .out) (y.setInbox 0 ⟨1, none⟩)) (p := secondPort) hy.stage
    (hy.rxCount ▸ Nat.one_pos) hy.rx
  rw [updatePort_second] at hrx
  have hpeer : ((y.setInbox 0 ⟨1, none⟩).setRx 0 .out).peer = firstPort := hy.peer
  have hout := Fabric.takeTx_of_parked (f := twoPorts descriptors s
    ((x.setTx 0 .out).setRx 0 .out) ((y.setInbox 0 ⟨1, none⟩).setRx 0 .out)) (p := secondPort)
    hy.stage (hy.txCount ▸ Nat.one_pos) hy.tx (by rw [port_second, hpeer]; exact hx.inbox)
  rw [port_second, hpeer, updatePort_second, updatePort_first] at hout
  simp only [forwardOver, attempt, bind, Except.bind, htx, hback, hrx, hout]
  rfl

theorem ready_receiver (host : DemoHost) (updating : Bool) :
    Ready (receiver host updating) secondPort 0 := by
  cases updating <;> exact ⟨rfl, rfl, rfl, rfl, rfl, rfl, rfl⟩

theorem ready_second (host : DemoHost) : Ready ((secondMade host).launched 1 1) firstPort 1 :=
  ⟨rfl, rfl, rfl, rfl, rfl, rfl, rfl⟩

theorem plumbed_start (host : DemoHost) (updating : Bool) (descriptors : Nat) (s : Store)
    {frame : List UInt8} (hframe : 12 ≤ frame.length) :
    Circuit.Plumbed frame (wayBack host updating)
      (twoPorts descriptors s (handedOut (receiver host updating))
        (handedOut ((secondMade host).launched 1 1))) where
  ports := rfl
  rings := rfl
  isOpen p hp := by
    obtain rfl | rfl : p = 0 ∨ p = 1 := by omega
    · cases updating <;> exact ⟨rfl, rfl, rfl⟩
    · exact ⟨rfl, rfl, rfl⟩
  promiscuous := rfl
  maxFrame := by cases updating <;> rfl
  passes := by
    cases updating with
    | false => exact .inl rfl
    | true => exact .inr (Redirection.addressed_apply _ hframe)

theorem counted_start (host : DemoHost) (updating : Bool) (descriptors : Nat) (s : Store)
    (c : Cache) : Circuit.Counted 0 { cache := c, tx := Circuit.outTx }
      { rx := Circuit.outRx, tx := Circuit.backTx, redirection := wayBack host updating }
      { rx := Circuit.backRx }
      (twoPorts descriptors s (handedOut (receiver host updating))
        (handedOut ((secondMade host).launched 1 1))) := by
  cases updating <;> exact ⟨rfl, rfl, rfl, rfl, rfl, rfl, rfl⟩

theorem ledger_openPool {host : DemoHost} {s : DemoSettings} {p : Nat} {t : Store}
    (h : openPool host s = .ok (p, t)) : t.Ledger 0 0 := by
  unfold openPool at h
  split at h
  · rename_i hcreate
    cases h
    exact Store.Ledger.empty.create hcreate
  · cases h

/-- A sound demo starts, and owes nobody a frame. -/
theorem forward_underway {host : DemoHost} {s : DemoSettings} {updating : Bool}
    (hmemory : host.hasMemory = true) (hsound : (Invocation.forward s updating).Sound)
    (hfits : 42 + s.payload ≤ defaultDataRoom) :
    ∃ r₀, forward host s updating = .ok r₀ ∧ r₀.frame.length = 42 + s.payload ∧
      (r₀.fabric.port secondPort).mac = .drawn host.second ∧
      r₀.Underway (wayBack host updating) 0 r₀ := by
  obtain ⟨-, hbuffers, hcache, hdescriptors, -, hpayload⟩ := hsound
  dsimp only [Invocation.settings] at hbuffers hcache hdescriptors hpayload
  have hpool := openPool_ok hbuffers hcache hmemory
  have hledger := ledger_openPool hpool
  obtain ⟨f, hf, hcoupled⟩ := ringPair_ok host ⟨#[s.freshPool]⟩ (checkDescriptors_ok hdescriptors)
  obtain ⟨frame, hframe, hlength⟩ := makeFrame_ok (routed updating f).2 hpayload
  have hstart : forward host s updating =
      forwardOver 0 frame (routed updating f).1 (routed updating f).2 := by
    rw [forward_eq, hpool]
    simp only [bind, Except.bind, hf, hframe]
  rw [hcoupled.eq, routed_twoPorts] at hstart
  dsimp only at hstart
  rw [forwardOver_twoPorts (ready_receiver host updating) (ready_second host)] at hstart
  have hheader : 12 ≤ frame.length := by omega
  refine ⟨_, hstart, hlength, rfl, rfl, .refl _, _, _, _, rfl, rfl, rfl,
    ⟨rfl, ⟨rfl, rfl⟩, rfl, rfl⟩, plumbed_start host updating s.descriptors _ hheader, hledger,
    ⟨.of_ledger hledger, ?_, ?_, ?_, ?_⟩, counted_start host updating s.descriptors _ _⟩
  · rw [← hlength] at hfits
    exact hfits
  · exact fun _ hb => absurd hb List.not_mem_nil
  · exact fun _ hb => absurd hb List.not_mem_nil
  · exact fun _ hb => absurd hb List.not_mem_nil

/-! ## Between two turns -/

/-- What counters and rings say between two turns of a demo that started as `r₀`, after its
forwarder has dropped `lost` frames for want of room. -/
structure Accounts (updating : Bool) (r₀ : Rig) (lost : Nat) (g : Generator) (w : Forwarder)
    (k : Sink) (r : Rig) : Prop where
  workers : r.generators = #[.ok g] ∧ r.forwarders = #[.ok w] ∧ r.sinks = #[k]
  queues : g.tx.port = firstPort ∧ w.rx.port = secondPort ∧ w.tx.port = secondPort ∧
    k.rx.port = firstPort
  generated : g.sent = (r.fabric.port secondPort).stats.receivedFrames +
    (r.fabric.port secondPort).stats.receiveErrors + r.fabric.pending w.rx
  forwarded : w.forwarded = (r.fabric.port secondPort).stats.sentFrames
  returned : w.forwarded = k.received + r.fabric.pending k.rx
  passed : (r.fabric.port secondPort).stats.receivedFrames = w.forwarded + lost
  accepted : (r.fabric.port firstPort).stats.receiveErrors = 0 ∧
    ∀ b ∈ (r.fabric.ring k.rx.ring).frames,
      (r.fabric.port firstPort).judge r.fabric.store b = .deliver
  ordered : k.received ≤ w.forwarded ∧ w.forwarded ≤ g.sent
  outward : ∀ b ∈ (r.fabric.ring w.rx.ring).frames, r.fabric.store.data b = r₀.frame
  /-- Behind new addresses, the frames that the sink receives are as they were generated. -/
  homeward : ∀ frame ∈ (k.step r.fabric).1, frame =
    if updating then
      (Mac.forwarding firstPort).bytes ++ (r.fabric.port secondPort).mac.bytes ++ r₀.frame.drop 12
    else r₀.frame

theorem onward_wayBack (host : DemoHost) (updating : Bool) {frame : List UInt8}
    (h : 12 ≤ frame.length) :
    onward (wayBack host updating) frame =
      if updating then
        (Mac.forwarding firstPort).bytes ++ (Mac.drawn host.second).bytes ++ frame.drop 12
      else frame := by
  cases updating with
  | false => rfl
  | true => exact Redirection.apply_eq _ h

theorem Underway.accounts {host : DemoHost} {updating : Bool} {r₀ r : Rig} {lost : Nat}
    (h : r₀.Underway (wayBack host updating) lost r)
    (hmac : (r₀.fabric.port secondPort).mac = .drawn host.second)
    (hlength : 12 ≤ r₀.frame.length) : ∃ g w k, Accounts updating r₀ lost g w k r := by
  obtain ⟨hframe, hsteady, g, w, k, hgs, hws, hks, hflow⟩ := h
  obtain ⟨hgenerated, hforwarded, hreceived, houtward, hpassed, hhomeward, hclean⟩ := hflow.counted
  obtain ⟨htx, ⟨hrx, hout⟩, hback, -⟩ := hflow.seated
  have hwaiting : r.fabric.pending w.rx = (r.fabric.ring 1).frames.length := by rw [hrx]; rfl
  have hreturning : r.fabric.pending k.rx = (r.fabric.ring 0).frames.length := by rw [hback]; rfl
  refine ⟨g, w, k, ⟨hgs, hws, hks⟩, ?_, ?_, hforwarded, ?_, ?_, ⟨hclean, ?_⟩, ?_, ?_, ?_⟩
  · rw [htx, hrx, hout, hback]
    exact ⟨rfl, rfl, rfl, rfl⟩
  · omega
  · omega
  · omega
  · rw [hback]
    exact hflow.delivered
  · omega
  · rw [hrx]
    exact hflow.stocked.outward
  · intro frame hmem
    obtain ⟨frames, k', f', hstep, -, hframes, -⟩ := hflow.receive
    rw [hstep] at hmem
    rw [hframes frame hmem, onward_wayBack host updating hlength,
      hsteady.read Port.mac (fun _ => rfl), hmac]

/-- However the turns of the workers follow each other, no worker fails and the accounts balance
between any two of them. -/
theorem forward_accounts {host : DemoHost} {s : DemoSettings} {updating : Bool}
    (hmemory : host.hasMemory = true) (hsound : (Invocation.forward s updating).Sound)
    (hfits : 42 + s.payload ≤ defaultDataRoom) :
    ∃ r₀, forward host s updating = .ok r₀ ∧ r₀.frame.length = 42 + s.payload ∧
      (r₀.fabric.port secondPort).mac = .drawn host.second ∧
      ∀ turns : List Turn, ∃ g w k,
        Accounts updating r₀ (r₀.overflow turns) g w k (turns.foldl turn r₀) := by
  obtain ⟨r₀, hstart, hlength, hmac, hunderway⟩ := forward_underway hmemory hsound hfits
  refine ⟨r₀, hstart, hlength, hmac, fun turns => ?_⟩
  have hrun := hunderway.run turns
  rw [Nat.zero_add] at hrun
  exact hrun.accounts hmac (by omega)

/-- On rings of three places the forwarder finds no room for what it receives on its second turn,
because nothing was taken off the ring before. After the sink had its turn there is room again. -/
theorem forward_accounts_short_rings :
    let host : DemoHost := ⟨true, .replicate 6 0, .replicate 6 1⟩
    let s : DemoSettings := { buffers := 8, cacheSize := 0, descriptors := 3 }
    let turns : List Turn :=
      [.generate 0, .forward 0, .generate 0, .forward 0, .receive 0, .generate 0, .forward 0]
    host.hasMemory = true ∧ (Invocation.forward s true).Sound ∧ 42 + s.payload ≤ defaultDataRoom ∧
      ∃ r₀, forward host s true = .ok r₀ ∧ r₀.frame.length = 60 ∧
        (r₀.fabric.port secondPort).mac = ⟨#v[2, 1, 1, 1, 1, 1]⟩ ∧
        ∃ g w k, Accounts true r₀ 3 g w k (turns.foldl turn r₀) ∧
          g.sent = 9 ∧ w.forwarded = 6 ∧ k.received = 3 := by
  intro host s turns
  have hsound : (Invocation.forward s true).Sound :=
    ⟨by decide, by decide, by decide, by decide, by decide, by decide⟩
  have hcounts : (forward host s true).toOption.map
      (fun r₀ => (r₀.overflow turns, Demo.counters (turns.foldl turn r₀))) =
        some (3, [("gen", 9), ("fwd", 6), ("rcv", 3)]) := by decide +kernel
  have hmemory : host.hasMemory = true := rfl
  obtain ⟨r₀, hstart, hlength, hmac, haccounts⟩ := forward_accounts hmemory hsound (by decide)
  rw [hstart] at hcounts
  obtain ⟨hlost, hshown⟩ := Prod.mk.inj (Option.some.inj hcounts)
  obtain ⟨g, w, k, hrun⟩ := haccounts turns
  rw [hlost] at hrun
  obtain ⟨hgs, hws, hks⟩ := hrun.workers
  refine ⟨hmemory, hsound, by decide, r₀, hstart, hlength, ?_, g, w, k, hrun, ?_⟩
  · rw [hmac]
    decide
  · simpa [Demo.counters, hgs, hws, hks, Except.toOption] using hshown

end Rig
end Dataplane
