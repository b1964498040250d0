import Dataplane.Proofs.Client.Wiring
import Dataplane.Proofs.Demo.BringUp
import Dataplane.Proofs.Demo.Settings
import Dataplane.Proofs.Port.Upkeep

/-! # Setting a demo up

Both demos start from two ports with one queue in each direction. The meter goes on and gives both
ports more queues, one port after the other. Then the queues are taken, and every one of them is
there. The ends of rings and the entries of tables stay wired all the way.
-/
namespace Dataplane

/-! ## Wiring -/

namespace Fabric

/-- A wired fabric in which `p` is a registered port. -/
structure Hosts (rxs : Multiset RxQueue) (txs : Multiset TxQueue) (p : Nat) (f : Fabric) :
    Prop where
  wired : f.Wired rxs txs
  base : f.base ≤ p
  lt : p < f.ports.size

end Fabric

namespace Rig

variable {f g : Fabric} {p n descriptors : Nat} {rxs : Multiset RxQueue} {txs : Multiset TxQueue}

theorem settled_eq_ok {r : Except Fault Unit × Fabric} (h : settled r = .ok g) : g = r.2 := by
  obtain ⟨r, f⟩ := r
  cases r with
  | error e => cases h
  | ok _ => exact (Except.ok.inj h).symm

theorem hosts_settled (h : f.Hosts rxs txs p) (c : PortCall) (hc : settled (c.run f p) = .ok g) :
    g.Hosts rxs txs p := by
  have hkeep := Fabric.Upkeep.runPort f p c
  rw [settled_eq_ok hc]
  exact ⟨h.wired.runPort h.base h.lt c, hkeep.base ▸ h.base, hkeep.size ▸ h.lt⟩

theorem hosts_setupQueue (h : f.Hosts rxs txs p) {q : Nat}
    (hg : setupQueue p descriptors f q = .ok g) : g.Hosts rxs txs p := by
  obtain ⟨f', hrx, htx⟩ := bind_eq_ok.mp hg
  exact hosts_settled (hosts_settled h (.setupRx q descriptors) hrx) (.setupTx q descriptors) htx

theorem hosts_bringUp (h : f.Hosts rxs txs p) (hg : bringUp n descriptors f p = .ok g) :
    g.Hosts rxs txs p := by
  obtain ⟨f₁, hconfigure, hg⟩ := bind_eq_ok.mp hg
  obtain ⟨f₂, hqueues, hstart⟩ := bind_eq_ok.mp hg
  have h₁ := hosts_settled h (.configure n n { promiscuous := true }) hconfigure
  exact hosts_settled (foldlM_keeps (fun _ _ _ hb => hosts_setupQueue hb) h₁ hqueues) .start hstart

end Rig

/-! ## Two ports -/

namespace Fabric

/-- A registry of two ports, with nothing out and no frame anywhere. -/
structure Twins (s : Store) (f : Fabric) : Prop where
  base : f.base = 0
  size : f.ports.size = 2
  wired : f.Wired 0 0
  calm : f.Calm s

def Up (f : Fabric) (p n : Nat) : Prop :=
  ∃ (x : Port) (r : Nat), x.peer = 1 - p ∧ f.port p = x.launched n r

theorem Twins.hosts {s : Store} {f : Fabric} (h : f.Twins s) {p : Nat} (hp : p < 2) :
    f.Hosts 0 0 p :=
  ⟨h.wired, by rw [h.base]; exact Nat.zero_le p, by rw [h.size]; exact hp⟩

theorem Twins.renewed {s : Store} {f g : Fabric} {p k descriptors : Nat} {y : Port}
    (h : f.Twins s) (hfg : f.Renewed p k descriptors y g) (hg : g.Wired 0 0) : g.Twins s :=
  ⟨hfg.base.trans h.base, hfg.size.trans h.size, hg, hfg.calm s h.calm⟩

end Fabric

namespace Rig

variable {host : DemoHost} {s : Store} {f g : Fabric} {p n descriptors : Nat} {e : Fault}

def firstMade (host : DemoHost) : Port where
  number := 0
  name := "ring0"
  peer := 1
  mac := .drawn host.first

def secondMade (host : DemoHost) : Port where
  number := 1
  name := "ring1"
  peer := 0
  mac := .drawn host.second

def newPair (host : DemoHost) (s : Store) : Fabric :=
  { store := s, ports := #[firstMade host, secondMade host] }

@[simp] theorem size_newPair (host : DemoHost) (s : Store) : (newPair host s).ports.size = 2 := rfl

@[simp] theorem first_newPair (host : DemoHost) (s : Store) :
    (newPair host s).port firstPort = firstMade host := rfl

theorem newPair_configurable (host : DemoHost) (s : Store) :
    ((newPair host s).port firstPort).stage ∈ [Stage.unconfigured, .configured, .stopped] := by
  simp [firstMade]

theorem createPair_eq (host : DemoHost) (s : Store) :
    Fabric.createPair { store := s } "ring0" "ring1" (.drawn host.first) (.drawn host.second) =
      (.ok (0, 1), newPair host s) := by
  simp [Fabric.createPair, Fabric.checkName, Fabric.find?, Fabric.seek, Fabric.portCount,
    Fabric.checkRoom, maxPorts, Fabric.addPort, newPair, firstMade, secondMade, bind, Except.bind]

theorem newPair_twins (host : DemoHost) (s : Store) : (newPair host s).Twins s where
  base := rfl
  size := rfl
  wired := by
    have hstart : Fabric.Wired { store := s } 0 0 :=
      Client.Wired.start.of_tables (Fabric.sameTables_updateStore {} fun _ => s)
    have hgrow := hstart.grow (.createPair { store := s } "ring0" "ring1" (.drawn host.first)
      (.drawn host.second))
    rwa [createPair_eq] at hgrow
  calm := ⟨rfl, fun _ => rfl⟩

/-- Two ports with one queue in each direction, just started. -/
structure Coupled (host : DemoHost) (descriptors : Nat) (s : Store) (f : Fabric) : Prop where
  twins : f.Twins s
  first : f.port firstPort = (firstMade host).launched 1 0
  second : f.port secondPort = (secondMade host).launched 1 1
  rings : f.rings.size = 2
  ring : ∀ r < 2, f.ring r = { capacity := descriptors }

theorem ringPair_eq (host : DemoHost) (s : Store) (descriptors : Nat) :
    ringPair host { store := s } descriptors =
      bringUp 1 descriptors (newPair host s) firstPort >>= fun f =>
        bringUp 1 descriptors f secondPort := by
  rw [ringPair, createPair_eq]
  simp only [attempt, bind, Except.bind, List.foldlM_cons, List.foldlM_nil]
  cases bringUp 1 descriptors (newPair host s) firstPort with
  | error e => rfl
  | ok f =>
    dsimp only
    cases bringUp 1 descriptors f secondPort <;> rfl

theorem ringPair_of_descriptors (host : DemoHost) (s : Store)
    (hd : checkDescriptors descriptors = .error e) :
    ringPair host { store := s } descriptors = .error (.library e) := by
  rw [ringPair_eq, bringUp_of_descriptors (size_newPair host s ▸ Nat.zero_lt_two)
    (newPair_configurable host s) rfl hd]
  rfl

theorem ringPair_ok (host : DemoHost) (s : Store) (hd : checkDescriptors descriptors = .ok ()) :
    ∃ f, ringPair host { store := s } descriptors = .ok f ∧ Coupled host descriptors s f := by
  have htwins := newPair_twins host s
  obtain ⟨f, hf, hfirst⟩ := bringUp_ok (n := 1) (size_newPair host s ▸ Nat.zero_lt_two)
    (newPair_configurable host s) rfl hd
  have hf' := htwins.renewed hfirst (hosts_bringUp (htwins.hosts (by decide)) hf).wired
  have hsecond : f.port secondPort = secondMade host := by
    rw [hfirst.port, if_neg (by decide)]
    rfl
  obtain ⟨g, hg, hboth⟩ := bringUp_ok (f := f) (p := secondPort) (n := 1)
    (by rw [hf'.size]; decide) (by rw [hsecond]; simp [secondMade]) rfl hd
  refine ⟨g, ?_, hf'.renewed hboth (hosts_bringUp (hf'.hosts (by decide)) hg).wired, ?_, ?_, ?_,
    fun r hr => ?_⟩
  · rw [ringPair_eq, hf]
    exact hg
  · rw [hboth.port, if_neg (by decide), hfirst.port, if_pos rfl]
    rfl
  · rw [hboth.port, if_pos rfl, hsecond, hfirst.rings]
    rfl
  · rw [hboth.rings, hfirst.rings]
    rfl
  · obtain rfl | rfl : r = 0 ∨ r = 1 := by omega
    · rw [hboth.old 0 (by rw [hfirst.rings]; simp) (by rw [hsecond]; simp [secondMade])
        (by rw [hsecond]; simp [secondMade])]
      exact hfirst.new 0 (by decide)
    · have hnew := hboth.new 0 (by decide)
      rw [hfirst.rings] at hnew
      exact hnew

theorem Coupled.up {descriptors : Nat} (h : Coupled host descriptors s f) (hp : p < 2) :
    f.Up p 1 := by
  obtain rfl | rfl : p = 0 ∨ p = 1 := by omega
  · exact ⟨firstMade host, 0, rfl, h.first⟩
  · exact ⟨secondMade host, 1, rfl, h.second⟩

/-! ## More queues -/

/-- A port that has nothing out is stopped, and its peer does not notice. -/
theorem stop_ok (hf : f.Twins s) (hp : p < 2) {m : Nat} (hup : f.Up p m) :
    ∃ g, settled (f.stop p) = .ok g ∧ g.Twins s ∧ (g.port p).stage = .stopped ∧
      (g.port p).peer = 1 - p ∧ ∀ i ≠ p, g.port i = f.port i := by
  obtain ⟨x, r, hpeer, hport⟩ := hup
  have hstop : settled (f.stop p) =
      .ok (f.updatePort p fun port => { port with linkUp := false, stage := .stopped }) := by
    rw [Fabric.stop, settled_checked, hport,
      Port.stoppable_of (by simp [Port.launched]) (Port.launched_anyOut x m r)]
  have hlt := (hf.hosts hp).lt
  have hhosts := hosts_settled (hf.hosts hp) .stop hstop
  refine ⟨_, hstop, ⟨hf.base, ?_, hhosts.wired, hf.calm.updatePort p _⟩, ?_, ?_, fun i hi => ?_⟩
  · rw [Fabric.size_updatePort]
    exact hf.size
  · rw [Fabric.port_updatePort_of_lt hlt, if_pos rfl]
  · rw [Fabric.port_updatePort_of_lt hlt, if_pos rfl, hport]
    exact hpeer
  · rw [Fabric.port_updatePort_of_lt hlt, if_neg hi]

theorem widen_of_counts (hf : f.Twins s) (hp : p < 2) {m : Nat} (hup : f.Up p m)
    (hn : checkQueueCounts n n = .error e) (descriptors : Nat) :
    widen n descriptors f p = .error (.library e) := by
  obtain ⟨g, hstop, -, hstage, -⟩ := stop_ok hf hp hup
  rw [widen, hstop]
  exact bringUp_of_counts (by simp [hstage]) hn descriptors

theorem widen_ok (hf : f.Twins s) (hp : p < 2) {m : Nat} (hup : f.Up p m)
    (hn : checkQueueCounts n n = .ok ()) (hd : checkDescriptors descriptors = .ok ()) :
    ∃ g, widen n descriptors f p = .ok g ∧ g.Twins s ∧ g.Up p n ∧
      ∀ i ≠ p, g.port i = f.port i := by
  obtain ⟨f', hstop, hf', hstage, hpeer, hothers⟩ := stop_ok hf hp hup
  have hhosts := hf'.hosts hp
  obtain ⟨g, hg, hnew⟩ := bringUp_ok hhosts.lt (by simp [hstage]) hn hd
  refine ⟨g, ?_, hf'.renewed hnew (hosts_bringUp hhosts hg).wired,
    ⟨f'.port p, f'.rings.size, hpeer, ?_⟩, fun i hi => ?_⟩
  · rw [widen, hstop]
    exact hg
  · rw [hnew.port, if_pos rfl]
  · rw [hnew.port, if_neg hi, hothers i hi]

def meterPorts (host : DemoHost) (s : Store) (queues descriptors : Nat) :
    Except DemoFault Fabric := do
  let f ← ringPair host { store := s } descriptors
  if queues > 1 then [firstPort, secondPort].foldlM (widen queues descriptors) f else pure f

theorem meterPorts_of_descriptors (host : DemoHost) (s : Store) (queues : Nat)
    (hd : checkDescriptors descriptors = .error e) :
    meterPorts host s queues descriptors = .error (.library e) := by
  rw [meterPorts, ringPair_of_descriptors host s hd]
  rfl

theorem meterPorts_of_counts (host : DemoHost) (s : Store) (hn : checkQueueCounts n n = .error e)
    (hmany : 1 < n) (hd : checkDescriptors descriptors = .ok ()) :
    meterPorts host s n descriptors = .error (.library e) := by
  obtain ⟨f, hf, hcoupled⟩ := ringPair_ok host s hd
  rw [meterPorts, hf]
  simp only [bind, Except.bind, hmany, if_true, List.foldlM_cons,
    widen_of_counts hcoupled.twins (p := firstPort) (by decide) (hcoupled.up (by decide)) hn
      descriptors]

theorem meterPorts_ok (host : DemoHost) (s : Store) (hn : checkQueueCounts n n = .ok ())
    (hd : checkDescriptors descriptors = .ok ()) :
    ∃ f, meterPorts host s n descriptors = .ok f ∧ f.Twins s ∧ ∀ p < 2, f.Up p n := by
  obtain ⟨f, hf, hcoupled⟩ := ringPair_ok host s hd
  rw [meterPorts, hf]
  by_cases hmany : 1 < n
  · obtain ⟨g, hg, hg', hfirst, hothers⟩ := widen_ok hcoupled.twins (p := firstPort) (by decide)
      (hcoupled.up (by decide)) hn hd
    have hsecond : g.Up secondPort 1 := by
      obtain ⟨x, r, hpeer, hport⟩ := hcoupled.up (p := secondPort) (by decide)
      exact ⟨x, r, hpeer, by rw [hothers secondPort (by decide), hport]⟩
    obtain ⟨k, hk, hk', hup, hkeep⟩ := widen_ok hg' (p := secondPort) (by decide) hsecond hn hd
    refine ⟨k, ?_, hk', fun p hp => ?_⟩
    · simp only [bind, Except.bind, hmany, if_true, List.foldlM_cons, List.foldlM_nil, hg, hk]
      rfl
    · obtain rfl | rfl : p = firstPort ∨ p = secondPort := by
        simp only [firstPort, secondPort]
        omega
      · obtain ⟨x, r, hpeer, hport⟩ := hfirst
        exact ⟨x, r, hpeer, by rw [hkeep firstPort (by decide), hport]⟩
      · exact hup
  · have hone : n = 1 := by
      rcases Nat.eq_zero_or_pos n with rfl | hpos
      · cases hn
      · omega
    subst hone
    exact ⟨f, rfl, hcoupled.twins, fun p hp => hcoupled.up hp⟩

end Rig
end Dataplane
