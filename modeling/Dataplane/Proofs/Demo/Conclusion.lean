import Dataplane.Demo.Report
import Dataplane.Proofs.Demo.Staffing
import Dataplane.Proofs.Port.Bursts

/-! # Ending a demo

Workers that were stopped before their first turn give back what they hold: their queues. The ports
are stopped and closed then, one after the other, and nothing stands in the way.
-/
namespace Dataplane

theorem Port.anyOut_eq_false {x : Port} (h : ∀ q, x.rxAt q ≠ .out ∧ x.txAt q ≠ .out) :
    x.anyOut = false := by
  unfold Port.anyOut
  rw [Bool.or_eq_false_iff, List.any_eq_false, List.any_eq_false]
  constructor
  · intro e he hout
    obtain ⟨q, hq⟩ := List.mem_iff_getElem?.mp he
    cases e with
    | out => exact (h q).1 (Port.rxAt_eq hq)
    | absent => cases hout
    | parked r => cases hout
  · intro e he hout
    obtain ⟨q, hq⟩ := List.mem_iff_getElem?.mp he
    cases e with
    | out => exact (h q).2 (Port.txAt_eq hq)
    | absent => cases hout
    | parked r => cases hout

theorem Fabric.Lent.anyOut {n : Nat} {s : Store} {f : Fabric} (h : f.Lent n s 0 0) (p : Nat) :
    (f.port p).anyOut = false := by
  refine Port.anyOut_eq_false fun q => ⟨fun hout => ?_, fun hout => ?_⟩
  · obtain ⟨r, hr⟩ := h.wired.handed.exists_rx hout
    exact Multiset.notMem_zero _ hr
  · obtain ⟨x, hx, -⟩ := h.wired.handed.exists_tx hout
    exact Multiset.notMem_zero _ hx

/-! ## Giving the queues back -/

namespace Rig

variable {n : Nat} {s : Store} {f : Fabric} {rxs : Multiset RxQueue} {txs : Multiset TxQueue}

/-- A generator that holds no buffers gives up its queue only. -/
theorem finish_idle {g : Generator} (hburst : g.burst = []) (hstack : g.cache.stack = [])
    (f : Fabric) : g.finish f = f.putTx g.tx := by
  have hstore : f.store.update g.cache.pool (·.releaseAll []) = f.store := by
    rw [Store.update, modify_eq_self]
    rfl
  rw [Generator.finish, hburst, Cache.flush, hstack]
  simp only [Store.dropAll, List.foldl_nil, List.reverse_nil, hstore]

theorem lent_generators {gs : List Generator}
    (hidle : ∀ g ∈ gs, g.burst = [] ∧ g.cache.stack = [])
    (h : f.Lent n s rxs (↑(gs.map Generator.tx) + txs)) :
    (gs.foldl (fun f g => g.finish f) f).Lent n s rxs txs := by
  induction gs generalizing f with
  | nil => simpa using h
  | cons g rest ih =>
    obtain ⟨hburst, hstack⟩ := hidle g List.mem_cons_self
    rw [List.map_cons, ← Multiset.cons_coe, Multiset.cons_add] at h
    rw [List.foldl_cons, finish_idle hburst hstack]
    exact ih (fun g hg => hidle g (List.mem_cons_of_mem _ hg)) h.putTx

theorem lent_forwarders {ws : List Forwarder}
    (h : f.Lent n s (↑(ws.map Forwarder.rx) + rxs) (↑(ws.map Forwarder.tx) + txs)) :
    (ws.foldl (fun f w => w.finish f) f).Lent n s rxs txs := by
  induction ws generalizing f with
  | nil => simpa using h
  | cons w rest ih =>
    simp only [List.map_cons, ← Multiset.cons_coe, Multiset.cons_add] at h
    rw [List.foldl_cons, Forwarder.finish]
    exact ih h.putTx.putRx

theorem lent_sinks {ws : List Sink} (h : f.Lent n s (↑(ws.map Sink.rx) + rxs) txs) :
    (ws.foldl (fun f w => w.finish f) f).Lent n s rxs txs := by
  induction ws generalizing f with
  | nil => simpa using h
  | cons w rest ih =>
    rw [List.map_cons, ← Multiset.cons_coe, Multiset.cons_add] at h
    exact ih h.putRx

variable {r : Rig}

theorem Staffed.finish (h : r.Staffed n s) : r.finish.Lent n s 0 0 := by
  have hidle : ∀ g ∈ alive r.generators, g.burst = [] ∧ g.cache.stack = [] := by
    intro g hg
    obtain ⟨w, hw, hok⟩ := List.mem_filterMap.mp hg
    obtain ⟨g', rfl, hg'⟩ := h.generators w (Array.mem_toList_iff.mp hw)
    cases hok
    exact hg'
  have hgenerators := lent_generators hidle h.lent
  rw [← Multiset.add_zero (↑((alive r.forwarders).map Forwarder.tx) : Multiset TxQueue)]
    at hgenerators
  have hforwarders := lent_forwarders hgenerators
  rw [← Multiset.add_zero (↑(r.sinks.toList.map Sink.rx) : Multiset RxQueue)] at hforwarders
  exact lent_sinks hforwarders

theorem Staffed.failures (h : r.Staffed n s) : r.failures = [] := by
  have hnone : ∀ {α : Type} {ws : Array (Except Fault α)}, (∀ g ∈ ws, ∃ w, g = .ok w) →
      ws.toList.filterMap Rig.failures.failure? = [] := by
    intro α ws hws
    rw [List.filterMap_eq_nil_iff]
    intro g hg
    obtain ⟨w, rfl⟩ := hws g (Array.mem_toList_iff.mp hg)
    rfl
  unfold Rig.failures
  rw [hnone fun g hg => (h.generators g hg).imp fun _ => And.left, hnone h.forwarders]
  rfl

end Rig

/-! ## Stopping and closing -/

namespace Demo

variable {s : Store} {f : Fabric}

/-- A port that is gone. -/
structure Ended (x : Port) : Prop where
  stage : x.stage = .closed
  rx : x.rx = []
  tx : x.tx = []

theorem close_ok {p : Nat} (hp : p < f.ports.size) (hstage : (f.port p).stage = .started)
    (hout : (f.port p).anyOut = false) (hs : f.Calm s) :
    ∃ g, (Rig.settled (f.stop p) >>= fun f => Rig.settled (f.close p)) = .ok g ∧ g.Calm s ∧
      g.ports.size = f.ports.size ∧ Ended (g.port p) ∧ ∀ i ≠ p, g.port i = f.port i := by
  generalize hk : (fun port : Port => { port with linkUp := false, stage := Stage.stopped }) = k
  have hstop : Rig.settled (f.stop p) = .ok (f.updatePort p k) := by
    rw [Fabric.stop, Rig.settled_checked, Port.stoppable_of hstage hout, hk]
  have hlt : p < (f.updatePort p k).ports.size := by rw [Fabric.size_updatePort]; exact hp
  have hstopped : ((f.updatePort p k).port p).stage = .stopped := by
    rw [Fabric.port_updatePort_of_lt hp, if_pos rfl, ← hk]
  have hsize : ((f.updatePort p k).resetQueues p 0 0).ports.size = f.ports.size := by
    rw [Fabric.resetQueues_eq, (Fabric.samePorts_dropEnds _ _ _).ports, Fabric.size_updatePort,
      Fabric.size_updatePort]
  have hclose : Rig.settled ((f.updatePort p k).close p) =
      .ok (((f.updatePort p k).resetQueues p 0 0).updatePort p fun port =>
        { port with epoch := port.epoch + 1, rxCount := 0, txCount := 0, stage := .closed }) := by
    rw [Fabric.close, Rig.settled_checked, Port.closable_of hstopped]
  refine ⟨_, bind_eq_ok.mpr ⟨_, hstop, hclose⟩,
    ((hs.updatePort p k).resetQueues p 0 0).updatePort p _, ?_, ?_, fun i hi => ?_⟩
  · rw [Fabric.size_updatePort, hsize]
  · rw [Fabric.port_updatePort_of_lt (by rw [hsize]; exact hp), if_pos rfl,
      Fabric.port_resetQueues hlt, if_pos rfl]
    exact ⟨rfl, rfl, rfl⟩
  · rw [Fabric.port_updatePort_of_lt (by rw [hsize]; exact hp), if_neg hi,
      Fabric.port_resetQueues hlt, if_neg hi, Fabric.port_updatePort_of_lt hp, if_neg hi]

theorem shutdown_ok (ps : List Nat) (hdistinct : ps.Nodup)
    (hready : ∀ p ∈ ps, p < f.ports.size ∧ (f.port p).stage = .started ∧ (f.port p).anyOut = false)
    (hs : f.Calm s) :
    ∃ g, (shutdown f ps).2 = .ok g ∧ g.Calm s ∧ (∀ p ∈ ps, Ended (g.port p)) ∧
      ∀ p ∉ ps, g.port p = f.port p := by
  induction ps generalizing f with
  | nil => exact ⟨f, rfl, hs, fun p hp => absurd hp List.not_mem_nil, fun _ _ => rfl⟩
  | cons p rest ih =>
    obtain ⟨hnew, hrest⟩ := List.nodup_cons.mp hdistinct
    obtain ⟨hp, hstage, hout⟩ := hready p List.mem_cons_self
    obtain ⟨g, hclose, hg, hsize, hended, hothers⟩ := close_ok hp hstage hout hs
    obtain ⟨g', hshut, hg', hclosed, hkept⟩ := ih (f := g) hrest (fun q hq => by
      have hne : q ≠ p := fun h => hnew (h ▸ hq)
      rw [hsize, hothers q hne]
      exact hready q (List.mem_cons_of_mem _ hq)) hg
    refine ⟨g', ?_, hg', fun q hq => ?_, fun q hq => ?_⟩
    · rw [shutdown, hclose]
      exact hshut
    · rcases List.mem_cons.mp hq with rfl | hq
      · rw [hkept q hnew]
        exact hended
      · exact hclosed q hq
    · rw [hkept q fun h => hq (List.mem_cons_of_mem _ h),
        hothers q fun h => hq (h ▸ List.mem_cons_self)]

/-- How a demo ended that was told to stop before the first turn. It was set up and shut down, which
ends at the first call that fails, so no call failed. -/
structure Clean (host : DemoHost) (i : Invocation) (f : Fabric) : Prop where
  shut : ∃ r, Rig.create host i = .ok r ∧ r.failures = [] ∧
    (∀ p < 2, (r.finish.port p).anyOut = false) ∧ (shutdown r.finish [0, 1]).2 = .ok f
  ended : ∀ p < 2, Ended (f.port p)
  returned : (f.store.pool 0).free.toList = List.range i.settings.buffers

theorem outcome_of_flaw {host : DemoHost} {i : Invocation} {e : DemoFault}
    (hflaw : i.flaw? host = some e) : (run host 0 i).outcome = .error e := by
  have hanswer := Rig.create_answers host i
  rw [hflaw] at hanswer
  have hcreate : Rig.create host i = .error e := hanswer
  simp only [run, hcreate]

theorem outcome_of_no_flaw {host : DemoHost} {i : Invocation} (hflaw : i.flaw? host = none) :
    ∃ f, (run host 0 i).outcome = .ok f ∧ Clean host i f := by
  have hanswer := Rig.create_answers host i
  rw [hflaw] at hanswer
  obtain ⟨r, hcreate, hr⟩ := hanswer
  have hfinish := hr.finish
  have hregistered : r.finish.registered = [0, 1] := by
    simp [Fabric.registered, Fabric.portCount, hfinish.running.base, hfinish.running.size]
    decide
  have hports : ∀ p, p ∈ [0, 1] ↔ p < 2 := by
    intro p
    simp only [List.mem_cons, List.not_mem_nil, or_false]
    omega
  have hready : ∀ p ∈ [0, 1], p < r.finish.ports.size ∧ (r.finish.port p).stage = .started ∧
      (r.finish.port p).anyOut = false := by
    intro p hp
    have hlt := (hports p).mp hp
    exact ⟨by rw [hfinish.running.size]; exact hlt, hfinish.running.stage hlt, hfinish.anyOut p⟩
  obtain ⟨f, hshut, hf, hended, -⟩ := shutdown_ok [0, 1] (by decide) hready hfinish.calm
  refine ⟨f, ?_, ⟨r, hcreate, hr.failures, fun p _ => hfinish.anyOut p, hshut⟩,
    fun p hp => hended p ((hports p).mpr hp), ?_⟩
  · simp only [run, hcreate, Rig.rounds, conclude, hr.failures, hregistered, hshut]
  · rw [hf.store]
    exact FreeQueue.toList_ofList _

/-- A demo that is told to stop before the first turn ends well exactly when every setting is in its
range and there is memory for the pool, and else for the first of these that is not so. -/
theorem run_stopped (host : DemoHost) (i : Invocation) :
    match (run host 0 i).outcome with
    | .ok f => (i.Sound ∧ host.hasMemory = true) ∧ Clean host i f
    | .error e => ¬(i.Sound ∧ host.hasMemory = true) ∧ i.flaw? host = some e := by
  cases hflaw : i.flaw? host with
  | some e =>
    rw [outcome_of_flaw hflaw, ← Invocation.flaw?_eq_none_iff, hflaw]
    exact ⟨Option.some_ne_none e, rfl⟩
  | none =>
    obtain ⟨f, houtcome, hclean⟩ := outcome_of_no_flaw hflaw
    rw [houtcome]
    exact ⟨(i.flaw?_eq_none_iff host).mp hflaw, hclean⟩

end Demo
end Dataplane
