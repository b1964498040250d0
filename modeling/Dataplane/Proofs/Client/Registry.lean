import Mathlib.Data.List.Induction
import Dataplane.Proofs.Client.Failures
import Dataplane.Proofs.Client.Upkeep
import Dataplane.Proofs.Port.Registry

/-! # The registry of a client

Whatever ports are made and whatever is done with them, a number says which port is meant for as
long as the registry lasts. Ports that were made alone feed themselves, and no others do.
-/
namespace Dataplane

def RegistryCall.numbers (f : Fabric) : RegistryCall → List Nat
  | .createPair a b macA macB =>
    match (f.createPair a b macA macB).1 with
    | .ok (m, n) => [m, n]
    | .error _ => []
  | .createLoopback name mac =>
    match (f.createLoopback name mac).1 with
    | .ok n => [n]
    | .error _ => []
  | .renew => []

namespace Client

open Fabric

variable {w : Client}

/-! ## What a call does to the registry -/

theorem SameWiring.sameLabels {w' : Client} (h : SameWiring w w') :
    SameLabels w.fabric w'.fabric := by
  obtain ⟨⟨s, hfabric⟩, -, -⟩ := h
  rw [hfabric]
  exact ⟨rfl, rfl, fun _ => rfl⟩

theorem registry_cases (w : Client) (c : Call) :
    (c ≠ .registry .renew ∧ SameLabels w.fabric (w.call c).fabric) ∨
    (∃ name mac, c = .registry (.createLoopback name mac) ∧
      w.fabric.find? name = none ∧ w.fabric.portCount < maxPorts ∧
      w.fabric.createLoopback name mac = (.ok w.fabric.portCount, (w.call c).fabric) ∧
      (w.call c).fabric = w.fabric.addPort name w.fabric.ports.size mac) ∨
    (∃ a b macA macB, c = .registry (.createPair a b macA macB) ∧
      (w.fabric.find? a = none ∧ w.fabric.find? b = none ∧ a ≠ b) ∧
      w.fabric.portCount + 2 ≤ maxPorts ∧
      w.fabric.createPair a b macA macB =
        (.ok (w.fabric.portCount, w.fabric.portCount + 1), (w.call c).fabric) ∧
      (w.call c).fabric = (w.fabric.addPort a (w.fabric.ports.size + 1) macA).addPort b
        w.fabric.ports.size macB) ∨
    (c = .registry .renew ∧ (w.call c).fabric.base = (w.call c).fabric.ports.size) := by
  cases c with
  | pool c => exact .inl ⟨nofun, (SameWiring.callPool w c).sameLabels⟩
  | cache c => exact .inl ⟨nofun, (SameWiring.callCache w c).sameLabels⟩
  | buffer b e => exact .inl ⟨nofun, (SameWiring.callBuffer w b e).sameLabels⟩
  | port p c => exact .inl ⟨nofun, (w.upkeep_callPort p c).toSameLabels⟩
  | queue c => exact .inl ⟨nofun, (w.upkeep_callQueue c).toSameLabels⟩
  | registry c =>
    cases c with
    | createLoopback name mac =>
      rcases w.fabric.createLoopback_cases name mac with ⟨e, heq⟩ | ⟨hname, hroom, heq⟩
      · have hsame : (w.call (.registry (.createLoopback name mac))).fabric = w.fabric :=
          congrArg Prod.snd heq
        rw [hsame]
        exact .inl ⟨nofun, .refl _⟩
      · have hmade : (w.call (.registry (.createLoopback name mac))).fabric =
            w.fabric.addPort name w.fabric.ports.size mac := congrArg Prod.snd heq
        exact .inr (.inl ⟨name, mac, rfl, hname, hroom, by rw [hmade, heq], hmade⟩)
    | createPair a b macA macB =>
      rcases w.fabric.createPair_cases a b macA macB with ⟨e, heq⟩ | ⟨hnames, hroom, heq⟩
      · have hsame : (w.call (.registry (.createPair a b macA macB))).fabric = w.fabric :=
          congrArg Prod.snd heq
        rw [hsame]
        exact .inl ⟨nofun, .refl _⟩
      · have hmade : (w.call (.registry (.createPair a b macA macB))).fabric =
            (w.fabric.addPort a (w.fabric.ports.size + 1) macA).addPort b w.fabric.ports.size
              macB := congrArg Prod.snd heq
        exact .inr (.inr (.inl ⟨a, b, macA, macB, rfl, hnames, hroom, by rw [hmade, heq], hmade⟩))
    | renew =>
      exact .inr (.inr (.inr ⟨rfl, base_renew w.fabric _⟩))

theorem enrolled_call (h : w.fabric.Enrolled) (c : Call) : (w.call c).fabric.Enrolled := by
  rcases w.registry_cases c with ⟨-, hsame⟩ | ⟨name, mac, -, hname, hroom, -, heq⟩ |
    ⟨a, b, macA, macB, -, ⟨ha, hb, hab⟩, hroom, -, heq⟩ | ⟨-, hempty⟩
  · exact h.of_sameLabels hsame
  · rw [heq]
    exact h.addLoopback hname hroom mac
  · rw [heq]
    exact h.addPair ha hb hab hroom macA macB
  · exact .of_empty hempty

theorem enrolled_run (calls : List Call) : (run calls).fabric.Enrolled :=
  run_induction (P := fun w => w.fabric.Enrolled) (.of_empty rfl)
    (fun _ c h => enrolled_call h c) calls

theorem retains_call (w : Client) {c : Call} (hc : c ≠ .registry .renew) :
    Retains w.fabric (w.call c).fabric := by
  rcases w.registry_cases c with ⟨-, hsame⟩ | ⟨name, mac, -, -, -, -, heq⟩ |
    ⟨a, b, macA, macB, -, -, -, -, heq⟩ | ⟨hrenew, -⟩
  · exact .of_sameLabels hsame
  · rw [heq]
    exact .addPort _ _ _ _
  · rw [heq]
    exact (Retains.addPort _ _ _ _).trans (.addPort _ _ _ _)
  · exact absurd hrenew hc

theorem retains_callAll {calls : List Call} (hcalls : ∀ c ∈ calls, c ≠ .registry .renew)
    (w : Client) : Retains w.fabric (w.callAll calls).fabric := by
  induction calls generalizing w with
  | nil => exact .refl _
  | cons c rest ih =>
    exact (retains_call w (hcalls c List.mem_cons_self)).trans
      (ih (fun d hd => hcalls d (List.mem_cons_of_mem c hd)) (w.call c))

/-! ## Where ports come from -/

/-- Whether call `c`, made in the course of `calls`, made port `n` of the registry there is in the
end. -/
def Made (calls : List Call) (n : Nat) (c : RegistryCall) : Prop :=
  ∃ before after, calls = before ++ .registry c :: after ∧
    (∀ d ∈ after, d ≠ .registry .renew) ∧ n ∈ c.numbers (run before).fabric

variable {calls : List Call} {n : Nat}

theorem Made.append {c : RegistryCall} (h : Made calls n c) {d : Call}
    (hd : d ≠ .registry .renew) : Made (calls ++ [d]) n c := by
  obtain ⟨before, after, rfl, hafter, hn⟩ := h
  refine ⟨before, after ++ [d], by simp, fun x hx => ?_, hn⟩
  rcases List.mem_append.mp hx with hx | hx
  · exact hafter x hx
  · rw [List.mem_singleton.mp hx]
    exact hd

theorem Made.last {c : RegistryCall} (hn : n ∈ c.numbers (run calls).fabric) :
    Made (calls ++ [.registry c]) n c :=
  ⟨calls, [], rfl, nofun, hn⟩

theorem exists_made (calls : List Call) :
    ∀ n < (run calls).fabric.portCount, ∃ c, Made calls n c := by
  induction calls using List.reverseRecOn with
  | nil => exact fun n hn => absurd hn (Nat.not_lt_zero n)
  | append_singleton calls c ih =>
    have hbase := (enrolled_run calls).base_le
    have hold : ∀ {n}, n < (run calls).fabric.portCount → c ≠ .registry .renew →
        ∃ d, Made (calls ++ [c]) n d := fun hn hc => by
      obtain ⟨d, hd⟩ := ih _ hn
      exact ⟨d, hd.append hc⟩
    rw [run_append]
    change ∀ n < ((run calls).call c).fabric.portCount, _
    intro n hn
    rcases (run calls).registry_cases c with ⟨hc, hsame⟩ | ⟨name, mac, rfl, -, -, hmade, heq⟩ |
      ⟨a, b, macA, macB, rfl, -, -, hmade, heq⟩ | ⟨-, hempty⟩
    · rw [hsame.portCount] at hn
      exact hold hn hc
    · rw [heq, portCount_addPort hbase] at hn
      rcases Nat.lt_succ_iff_lt_or_eq.mp hn with hn | rfl
      · exact hold hn nofun
      · exact ⟨_, .last (by simp [RegistryCall.numbers, hmade])⟩
    · rw [heq, portCount_addPair hbase] at hn
      by_cases hlt : n < (run calls).fabric.portCount
      · exact hold hlt nofun
      · refine ⟨_, .last ?_⟩
        simp only [RegistryCall.numbers, hmade, List.mem_cons, List.not_mem_nil, or_false]
        omega
    · rw [portCount, hempty, Nat.sub_self] at hn
      exact absurd hn (Nat.not_lt_zero n)

theorem peer_call (hbase : w.fabric.base ≤ w.fabric.ports.size) {c : RegistryCall}
    (hn : n ∈ c.numbers w.fabric) :
    n < (w.call (.registry c)).fabric.portCount ∧
      (((w.call (.registry c)).fabric.device n).peer = (w.call (.registry c)).fabric.base + n ↔
        ∃ name mac, c = .createLoopback name mac) := by
  have hself := size_eq hbase
  cases c with
  | createLoopback name mac =>
    rcases w.fabric.createLoopback_cases name mac with ⟨e, heq⟩ | ⟨-, -, heq⟩
    · simp [RegistryCall.numbers, heq] at hn
    · obtain rfl : n = w.fabric.portCount := by simpa [RegistryCall.numbers, heq] using hn
      have hfabric : (w.call (.registry (.createLoopback name mac))).fabric = _ :=
        congrArg Prod.snd heq
      rw [hfabric, portCount_addPort hbase, device_addPort hbase, if_pos rfl]
      exact ⟨Nat.lt_succ_self _, fun _ => ⟨name, mac, rfl⟩, fun _ => hself⟩
  | createPair a b macA macB =>
    rcases w.fabric.createPair_cases a b macA macB with ⟨e, heq⟩ | ⟨-, -, heq⟩
    · simp [RegistryCall.numbers, heq] at hn
    · have hn : n = w.fabric.portCount ∨ n = w.fabric.portCount + 1 := by
        simpa [RegistryCall.numbers, heq] using hn
      have hfabric : (w.call (.registry (.createPair a b macA macB))).fabric = _ :=
        congrArg Prod.snd heq
      rw [hfabric, portCount_addPair hbase, device_addPair hbase]
      refine ⟨by omega, fun hpeer => ?_, nofun⟩
      simp only [base_addPort] at hpeer
      rcases hn with rfl | rfl
      · rw [if_neg (by omega), if_pos rfl] at hpeer
        simp only at hpeer
        omega
      · rw [if_pos rfl] at hpeer
        simp only at hpeer
        omega
  | renew => simp [RegistryCall.numbers] at hn

theorem Made.peer {c : RegistryCall} (h : Made calls n c) :
    n < (run calls).fabric.portCount ∧
      (((run calls).fabric.device n).peer = (run calls).fabric.base + n ↔
        ∃ name mac, c = .createLoopback name mac) := by
  obtain ⟨before, after, rfl, hafter, hn⟩ := h
  have hmade := peer_call (enrolled_run before).base_le hn
  have hrun : run (before ++ .registry c :: after) =
      ((run before).call (.registry c)).callAll after := by
    rw [run_append]
    rfl
  have hkeep := retains_callAll hafter ((run before).call (.registry c))
  rw [← hrun] at hkeep
  have hpeer := congrArg Label.peer (hkeep.device hmade.1)
  change (Fabric.device _ n).peer = (Fabric.device _ n).peer at hpeer
  rw [hpeer, hkeep.base]
  exact ⟨hmade.1.trans_le hkeep.portCount_le, hmade.2⟩

/-! ## What is so in every reachable state -/

/-- What is so of the registry `f` after `calls`, and of what may be done next. -/
structure Roster (calls : List Call) (f : Fabric) : Prop where
  number : ∀ (n : Nat) (d : Port), f.devices[n]? = some d → d.number = n
  distinct : (f.devices.map Port.name).Nodup
  peer : ∀ n < f.portCount, f.peerNumber (f.base + n) < f.portCount ∧
    f.peerNumber (f.base + f.peerNumber (f.base + n)) = n
  alone : ∀ n < f.portCount, f.peerNumber (f.base + n) = n ↔
    ∃ name mac, Made calls n (.createLoopback name mac)
  portOf : ∀ raw,
    (raw < f.portCount ∧ f.portOf raw = .ok (f.base + raw) ∧
      f.devices[raw]? = some (f.port (f.base + raw))) ∨
    (f.portCount ≤ raw ∧ f.portOf raw = .error (.badHandle (portText raw)) ∧
      f.devices[raw]? = none)
  find : ∀ name n, f.find? name = some n ↔ ∃ d ∈ f.devices, d.name = name ∧ d.number = n
  lasting : ∀ more, (∀ c ∈ more, c ≠ .registry .renew) → ∀ n < f.portCount,
    let g := (run (calls ++ more)).fabric
    n < g.portCount ∧ (g.device n).number = (f.device n).number ∧
      (g.device n).name = (f.device n).name ∧
      g.peerNumber (g.base + n) = f.peerNumber (f.base + n)
  loopbackMade : ∀ name mac, (∃ n, (f.createLoopback name mac).1 = .ok n) ↔
    (∀ d ∈ f.devices, d.name ≠ name) ∧ f.portCount < maxPorts
  pairMade : ∀ a b macA macB, (∃ r, (f.createPair a b macA macB).1 = .ok r) ↔
    (∀ d ∈ f.devices, d.name ≠ a ∧ d.name ≠ b) ∧ a ≠ b ∧ f.portCount + 2 ≤ maxPorts
  loopback : ∀ name mac n, (f.createLoopback name mac).1 = .ok n →
    let g := (f.createLoopback name mac).2
    n = f.portCount ∧ g.peerNumber (g.base + n) = n ∧
      ∃ d, g.devices = f.devices ++ [d] ∧ d.name = name
  pair : ∀ a b macA macB m n, (f.createPair a b macA macB).1 = .ok (m, n) →
    let g := (f.createPair a b macA macB).2
    m = f.portCount ∧ n = f.portCount + 1 ∧ g.peerNumber (g.base + m) = n ∧
      g.peerNumber (g.base + n) = m ∧
      ∃ d e, g.devices = f.devices ++ [d, e] ∧ d.name = a ∧ e.name = b
  noLoopback : ∀ name mac e, (f.createLoopback name mac).1 = .error e →
    (f.createLoopback name mac).2 = f
  noPair : ∀ a b macA macB e, (f.createPair a b macA macB).1 = .error e →
    (f.createPair a b macA macB).2 = f

theorem alone_iff_made (hn : n < (run calls).fabric.portCount) :
    (run calls).fabric.peerNumber ((run calls).fabric.base + n) = n ↔
      ∃ name mac, Made calls n (.createLoopback name mac) := by
  rw [(enrolled_run calls).peerNumber_eq_self_iff hn]
  constructor
  · intro hpeer
    obtain ⟨c, hc⟩ := exists_made calls n hn
    obtain ⟨name, mac, rfl⟩ := hc.peer.2.mp hpeer
    exact ⟨name, mac, hc⟩
  · rintro ⟨name, mac, hc⟩
    exact hc.peer.2.mpr ⟨name, mac, rfl⟩

/-- A port stays under its number, with its name and its peer. -/
theorem lasting_callAll {more : List Call} (hmore : ∀ c ∈ more, c ≠ .registry .renew)
    (hn : n < (run calls).fabric.portCount) :
    let f := (run calls).fabric
    let g := (run (calls ++ more)).fabric
    n < g.portCount ∧ (g.device n).number = (f.device n).number ∧
      (g.device n).name = (f.device n).name ∧
      g.peerNumber (g.base + n) = f.peerNumber (f.base + n) := by
  intro f g
  have hf : f.Enrolled := enrolled_run calls
  have hg : g.Enrolled := enrolled_run (calls ++ more)
  have hkeep : Retains f g := by
    have hafter := retains_callAll hmore (run calls)
    rwa [← run_append] at hafter
  have hlt : n < g.portCount := hn.trans_le hkeep.portCount_le
  have hlabel := hkeep.device hn
  refine ⟨hlt, congrArg Label.number hlabel, congrArg Label.name hlabel, ?_⟩
  -- The peers are at the same place, and places say the numbers.
  have hpeer : (g.device n).peer = (f.device n).peer := congrArg Label.peer hlabel
  rw [(hg.peerNumber hlt).2.1, (hf.peerNumber hn).2.1, hkeep.base] at hpeer
  rw [hkeep.base]
  exact Nat.add_left_cancel hpeer

/-- Whatever was called, numbers, names and peers of the ports in the registry are as they should
be. -/
theorem roster_run (calls : List Call) : Roster calls (run calls).fabric where
  number _ _ hd := (enrolled_run calls).number_of_getElem? hd
  distinct := (enrolled_run calls).nodup_names
  peer n hn := by
    obtain ⟨hlt, -, hback⟩ := (enrolled_run calls).peerNumber hn
    exact ⟨hlt, hback⟩
  alone _ hn := alone_iff_made hn
  portOf := (run calls).fabric.portOf_cases
  find _ _ := (enrolled_run calls).find?_iff_mem
  lasting _ hmore _ hn := lasting_callAll hmore hn
  loopbackMade := (run calls).fabric.createLoopback_isOk_iff
  pairMade := (run calls).fabric.createPair_isOk_iff
  loopback _ _ _ hok := (enrolled_run calls).loopback_of_ok hok
  pair _ _ _ _ _ _ hok := (enrolled_run calls).pair_of_ok hok
  noLoopback _ _ _ he := createLoopback_eq_error he
  noPair _ _ _ _ _ he := createPair_eq_error he

end Client
end Dataplane
