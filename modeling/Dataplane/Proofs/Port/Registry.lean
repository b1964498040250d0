import Dataplane.Proofs.Port.Upkeep

/-! # The ports of a registry

A registry numbers its ports in the order of making and never makes a name twice. Ports that are
made alone are their own peers, and those made in pairs are each other's. Nothing that is done to a
port later changes its number, its name or its peer.
-/
namespace Dataplane
namespace Fabric

/-- The port with a number, of those registered. -/
def device (f : Fabric) (n : Nat) : Port := f.port (f.base + n)

/-- All registered ports, closed ones included, the first made first. -/
def devices (f : Fabric) : List Port := f.registered.map f.port

variable {f g : Fabric} {name : String} {n : Nat}

theorem devices_eq (f : Fabric) : f.devices = (List.range f.portCount).map f.device := by
  rw [devices, registered, List.map_map]
  rfl

@[simp] theorem length_devices (f : Fabric) : f.devices.length = f.portCount := by
  simp [devices_eq]

theorem getElem?_devices (f : Fabric) (n : Nat) :
    f.devices[n]? = if n < f.portCount then some (f.device n) else none := by
  rw [devices_eq, List.getElem?_map]
  split
  · rename_i hn
    rw [List.getElem?_range hn]
    rfl
  · rename_i hn
    rw [List.getElem?_eq_none (by simpa using hn)]
    rfl

theorem mem_devices {d : Port} : d ∈ f.devices ↔ ∃ n < f.portCount, f.device n = d := by
  simp [devices_eq]

/-! ## Names -/

theorem seek_eq (ports : Array Port) (name : String) (n p : Nat) :
    seek ports name n p =
      (((ports.toList.drop p).take n).find? (·.name = name)).map Port.number := by
  induction n generalizing p with
  | zero => rfl
  | succ n ih =>
    rw [seek]
    by_cases hp : p < ports.size
    · rw [dif_pos hp, List.drop_eq_getElem_cons (by simpa using hp), List.take_succ_cons,
        List.find?_cons, Array.getElem_toList, ih]
      by_cases hname : ports[p].name = name
      · simp [hname]
      · simp [hname]
    · rw [dif_neg hp, List.drop_eq_nil_of_le (by simpa using hp)]
      rfl

theorem take_drop_ports (f : Fabric) :
    (f.ports.toList.drop f.base).take f.portCount = f.devices := by
  apply List.ext_getElem?
  intro n
  rw [getElem?_devices, List.getElem?_take, List.getElem?_drop, Array.getElem?_toList]
  split
  · rename_i hn
    have hlt : f.base + n < f.ports.size := by
      unfold portCount at hn
      omega
    simp [device, port, hlt]
  · rfl

theorem find?_eq (f : Fabric) (name : String) :
    f.find? name = (f.devices.find? (·.name = name)).map Port.number := by
  rw [find?, seek_eq, take_drop_ports]

theorem find?_eq_none_iff :
    f.find? name = none ↔ ∀ n < f.portCount, (f.device n).name ≠ name := by
  simp [find?_eq, devices_eq]

theorem find?_eq_none_iff_mem : f.find? name = none ↔ ∀ d ∈ f.devices, d.name ≠ name := by
  simp [find?_eq]

theorem exists_of_find? {k : Nat} (h : f.find? name = some k) :
    ∃ n < f.portCount, (f.device n).name = name ∧ (f.device n).number = k := by
  rw [find?_eq] at h
  obtain ⟨d, hd, hk⟩ := Option.map_eq_some_iff.mp h
  obtain ⟨n, hn, rfl⟩ := mem_devices.mp (List.mem_of_find?_eq_some hd)
  exact ⟨n, hn, by simpa using List.find?_some hd, hk⟩

theorem find?_of_checkName (h : f.checkName name = .ok ()) : f.find? name = none := by
  unfold checkName at h
  split at h
  · cases h
  · rename_i hnone
    simpa using hnone

theorem room_of_ok {k : Nat} (h : f.checkRoom k = .ok ()) : f.portCount + k ≤ maxPorts := by
  unfold checkRoom at h
  split at h
  · cases h
  · rename_i hroom
    exact Nat.le_of_not_lt hroom

theorem portOf_cases (f : Fabric) (raw : Nat) :
    (raw < f.portCount ∧ f.portOf raw = .ok (f.base + raw) ∧
      f.devices[raw]? = some (f.port (f.base + raw))) ∨
    (f.portCount ≤ raw ∧ f.portOf raw = .error (.badHandle (portText raw)) ∧
      f.devices[raw]? = none) := by
  unfold portOf
  rw [getElem?_devices]
  by_cases hraw : raw < f.portCount
  · rw [if_pos hraw, if_pos hraw]
    exact .inl ⟨hraw, rfl, rfl⟩
  · rw [if_neg hraw, if_neg hraw]
    exact .inr ⟨Nat.le_of_not_lt hraw, rfl, rfl⟩

/-! ## Making ports -/

theorem createLoopback_cases (f : Fabric) (name : String) (mac : Mac) :
    (∃ e, f.createLoopback name mac = (.error e, f)) ∨
    (f.find? name = none ∧ f.portCount < maxPorts ∧
      f.createLoopback name mac = (.ok f.portCount, f.addPort name f.ports.size mac)) := by
  unfold createLoopback
  dsimp only
  split
  · exact .inl ⟨_, rfl⟩
  · rename_i hok
    cases hname : f.checkName name with
    | error e => simp [hname, bind, Except.bind] at hok
    | ok _ =>
      have hroom : f.checkRoom 1 = .ok () := by simpa [hname, bind, Except.bind] using hok
      exact .inr ⟨find?_of_checkName hname, room_of_ok hroom, rfl⟩

theorem createPair_cases (f : Fabric) (a b : String) (macA macB : Mac) :
    (∃ e, f.createPair a b macA macB = (.error e, f)) ∨
    ((f.find? a = none ∧ f.find? b = none ∧ a ≠ b) ∧ f.portCount + 2 ≤ maxPorts ∧
      f.createPair a b macA macB = (.ok (f.portCount, f.portCount + 1),
        (f.addPort a (f.ports.size + 1) macA).addPort b f.ports.size macB)) := by
  unfold createPair
  dsimp only
  split
  · exact .inl ⟨_, rfl⟩
  · rename_i hok
    cases ha : f.checkName a with
    | error e => simp [ha, bind, Except.bind] at hok
    | ok _ =>
      cases hb : f.checkName b with
      | error e => simp [ha, hb, bind, Except.bind] at hok
      | ok _ =>
        by_cases hab : a = b
        · simp [hb, hab, bind, Except.bind, throw, throwThe, MonadExceptOf.throw] at hok
        · have hroom : f.checkRoom 2 = .ok () := by
            simpa [ha, hb, hab, bind, Except.bind] using hok
          exact .inr ⟨⟨find?_of_checkName ha, find?_of_checkName hb, hab⟩, room_of_ok hroom, rfl⟩

theorem createPair_eq_ok {a b : String} (ha : f.find? a = none) (hb : f.find? b = none)
    (hab : a ≠ b) (hroom : f.portCount + 2 ≤ maxPorts) (macA macB : Mac) :
    f.createPair a b macA macB = (.ok (f.portCount, f.portCount + 1),
      (f.addPort a (f.ports.size + 1) macA).addPort b f.ports.size macB) := by
  have hfirst : f.checkName a = .ok () := if_neg (by simp [ha])
  have hsecond : f.checkName b = .ok () := if_neg (by simp [hb])
  have hfree : f.checkRoom 2 = .ok () := if_neg (Nat.not_lt.mpr hroom)
  simp [createPair, hfirst, hsecond, hab, hfree, bind, Except.bind]

theorem createLoopback_eq_ok (hname : f.find? name = none) (hroom : f.portCount < maxPorts)
    (mac : Mac) :
    f.createLoopback name mac = (.ok f.portCount, f.addPort name f.ports.size mac) := by
  have hnew : f.checkName name = .ok () := if_neg (by simp [hname])
  have hfree : f.checkRoom 1 = .ok () := if_neg (Nat.not_lt.mpr hroom)
  simp [createLoopback, hnew, hfree, bind, Except.bind]

/-- A port that feeds itself is made exactly if its name is new and there is room. -/
theorem createLoopback_isOk_iff (f : Fabric) (name : String) (mac : Mac) :
    (∃ n, (f.createLoopback name mac).1 = .ok n) ↔
      (∀ d ∈ f.devices, d.name ≠ name) ∧ f.portCount < maxPorts := by
  constructor
  · rintro ⟨n, hok⟩
    rcases f.createLoopback_cases name mac with ⟨e, heq⟩ | ⟨hname, hroom, -⟩
    · simp [heq] at hok
    · exact ⟨find?_eq_none_iff_mem.mp hname, hroom⟩
  · rintro ⟨hname, hroom⟩
    rw [createLoopback_eq_ok (find?_eq_none_iff_mem.mpr hname) hroom]
    exact ⟨_, rfl⟩

/-- A pair is made exactly if both names are new and different, and there is room for two. -/
theorem createPair_isOk_iff (f : Fabric) (a b : String) (macA macB : Mac) :
    (∃ r, (f.createPair a b macA macB).1 = .ok r) ↔
      (∀ d ∈ f.devices, d.name ≠ a ∧ d.name ≠ b) ∧ a ≠ b ∧ f.portCount + 2 ≤ maxPorts := by
  rw [forall₂_and]
  constructor
  · rintro ⟨r, hok⟩
    rcases f.createPair_cases a b macA macB with ⟨e, heq⟩ | ⟨⟨ha, hb, hab⟩, hroom, -⟩
    · simp [heq] at hok
    · exact ⟨⟨find?_eq_none_iff_mem.mp ha, find?_eq_none_iff_mem.mp hb⟩, hab, hroom⟩
  · rintro ⟨⟨ha, hb⟩, hab, hroom⟩
    rw [createPair_eq_ok (find?_eq_none_iff_mem.mpr ha) (find?_eq_none_iff_mem.mpr hb) hab hroom]
    exact ⟨_, rfl⟩

theorem port_addPort (f : Fabric) (name : String) (peer : Nat) (mac : Mac) (p : Nat) :
    (f.addPort name peer mac).port p =
      if p = f.ports.size then { number := f.portCount, name, peer, mac } else f.port p := by
  unfold addPort port
  rw [Array.getD_eq_getD_getElem?, Array.getD_eq_getD_getElem?, Array.getElem?_push]
  split <;> rfl

@[simp] theorem size_addPort (f : Fabric) (name : String) (peer : Nat) (mac : Mac) :
    (f.addPort name peer mac).ports.size = f.ports.size + 1 :=
  Array.size_push _

@[simp] theorem base_addPort (f : Fabric) (name : String) (peer : Nat) (mac : Mac) :
    (f.addPort name peer mac).base = f.base := rfl

theorem portCount_addPort (h : f.base ≤ f.ports.size) (name : String) (peer : Nat) (mac : Mac) :
    (f.addPort name peer mac).portCount = f.portCount + 1 := by
  simp only [portCount, size_addPort, base_addPort]
  omega

theorem size_eq (h : f.base ≤ f.ports.size) : f.ports.size = f.base + f.portCount := by
  unfold portCount
  omega

theorem device_addPort (h : f.base ≤ f.ports.size) (name : String) (peer : Nat) (mac : Mac)
    (n : Nat) : (f.addPort name peer mac).device n =
      if n = f.portCount then { number := f.portCount, name, peer, mac } else f.device n := by
  have hn : f.base + n = f.ports.size ↔ n = f.portCount := by
    unfold portCount
    omega
  simp only [device, base_addPort, port_addPort, hn]

theorem devices_addPort (h : f.base ≤ f.ports.size) (name : String) (peer : Nat) (mac : Mac) :
    (f.addPort name peer mac).devices =
      f.devices ++ [{ number := f.portCount, name, peer, mac }] := by
  rw [devices_eq, devices_eq, portCount_addPort h, List.range_succ, List.map_append]
  congr 1
  · refine List.map_congr_left fun n hn => ?_
    rw [device_addPort h, if_neg (Nat.ne_of_lt (List.mem_range.mp hn))]
  · rw [List.map_singleton, device_addPort h, if_pos rfl]

section

variable (h : f.base ≤ f.ports.size) (a b : String) (macA macB : Mac)
include h

theorem base_le_addPort (peer : Nat) :
    (f.addPort a peer macA).base ≤ (f.addPort a peer macA).ports.size := by
  rw [base_addPort, size_addPort]
  exact h.trans (Nat.le_succ _)

theorem portCount_addPair :
    ((f.addPort a (f.ports.size + 1) macA).addPort b f.ports.size macB).portCount =
      f.portCount + 2 := by
  rw [portCount_addPort (base_le_addPort h _ _ _), portCount_addPort h]

theorem device_addPair (n : Nat) :
    ((f.addPort a (f.ports.size + 1) macA).addPort b f.ports.size macB).device n =
      if n = f.portCount + 1 then
        { number := f.portCount + 1, name := b, peer := f.ports.size, mac := macB }
      else if n = f.portCount then
        { number := f.portCount, name := a, peer := f.ports.size + 1, mac := macA }
      else f.device n := by
  rw [device_addPort (base_le_addPort h _ _ _), portCount_addPort h, device_addPort h]

theorem devices_addPair :
    ((f.addPort a (f.ports.size + 1) macA).addPort b f.ports.size macB).devices =
      f.devices ++ [{ number := f.portCount, name := a, peer := f.ports.size + 1, mac := macA },
        { number := f.portCount + 1, name := b, peer := f.ports.size, mac := macB }] := by
  rw [devices_addPort (base_le_addPort h _ _ _), devices_addPort h, portCount_addPort h,
    List.append_assoc]
  rfl

end

/-! ## What is so of every registry -/

structure Enrolled (f : Fabric) : Prop where
  base_le : f.base ≤ f.ports.size
  number : ∀ n < f.portCount, (f.device n).number = n
  distinct : ∀ m < f.portCount, ∀ n < f.portCount, (f.device m).name = (f.device n).name → m = n
  peer : ∀ m < f.portCount, ∃ n < f.portCount,
    (f.device m).peer = f.base + n ∧ (f.device n).peer = f.base + m
  room : f.portCount ≤ maxPorts

/-- The ports of `f` are in the registry of `g` too, with their numbers, names and peers. -/
structure Retains (f g : Fabric) : Prop where
  base : g.base = f.base
  size_le : f.ports.size ≤ g.ports.size
  label : ∀ p < f.ports.size, (g.port p).label = (f.port p).label

theorem SameLabels.portCount (h : SameLabels f g) : g.portCount = f.portCount := by
  unfold Fabric.portCount
  rw [h.size, h.base]

theorem SameLabels.device (h : SameLabels f g) (n : Nat) :
    (g.device n).label = (f.device n).label := by
  unfold Fabric.device
  rw [h.base, h.label]

namespace Retains

variable {h : Fabric}

theorem of_sameLabels (hfg : SameLabels f g) : Retains f g :=
  ⟨hfg.base, hfg.size.ge, fun p _ => hfg.label p⟩

theorem refl (f : Fabric) : Retains f f := of_sameLabels (.refl f)

theorem trans (hfg : Retains f g) (hgh : Retains g h) : Retains f h where
  base := hgh.base.trans hfg.base
  size_le := hfg.size_le.trans hgh.size_le
  label p hp := (hgh.label p (hp.trans_le hfg.size_le)).trans (hfg.label p hp)

theorem addPort (f : Fabric) (name : String) (peer : Nat) (mac : Mac) :
    Retains f (f.addPort name peer mac) where
  base := rfl
  size_le := by
    rw [size_addPort]
    exact Nat.le_succ _
  label p hp := by rw [port_addPort, if_neg (Nat.ne_of_lt hp)]

theorem portCount_le (hfg : Retains f g) : f.portCount ≤ g.portCount := by
  unfold portCount
  rw [hfg.base]
  exact Nat.sub_le_sub_right hfg.size_le _

theorem device (hfg : Retains f g) (hn : n < f.portCount) :
    (g.device n).label = (f.device n).label := by
  unfold portCount at hn
  unfold Fabric.device
  rw [hfg.base]
  exact hfg.label _ (by omega)

end Retains

namespace Enrolled

theorem of_empty (h : f.base = f.ports.size) : f.Enrolled := by
  have hnone : f.portCount = 0 := by rw [portCount, h, Nat.sub_self]
  refine ⟨h.le, ?_, ?_, ?_, ?_⟩
  all_goals simp [hnone]

theorem of_sameLabels (h : f.Enrolled) (hfg : SameLabels f g) : g.Enrolled := by
  have hcount := hfg.portCount
  have hnumber : ∀ n, (g.device n).number = (f.device n).number := fun n =>
    congrArg Label.number (hfg.device n)
  have hname : ∀ n, (g.device n).name = (f.device n).name := fun n =>
    congrArg Label.name (hfg.device n)
  have hpeer : ∀ n, (g.device n).peer = (f.device n).peer := fun n =>
    congrArg Label.peer (hfg.device n)
  refine ⟨?_, ?_, ?_, ?_, ?_⟩
  · rw [hfg.base, hfg.size]
    exact h.base_le
  · simpa only [hcount, hnumber] using h.number
  · simpa only [hcount, hname] using h.distinct
  · simpa only [hcount, hpeer, hfg.base] using h.peer
  · rw [hcount]
    exact h.room

variable (h : f.Enrolled)
include h

theorem find?_eq_some_iff : f.find? name = some n ↔ n < f.portCount ∧ (f.device n).name = name := by
  constructor
  · intro hfound
    obtain ⟨k, hk, hname, rfl⟩ := exists_of_find? hfound
    rw [h.number k hk]
    exact ⟨hk, hname⟩
  · rintro ⟨hn, hname⟩
    cases hfound : f.find? name with
    | none => exact absurd hname (find?_eq_none_iff.mp hfound n hn)
    | some m =>
      obtain ⟨k, hk, hother, rfl⟩ := exists_of_find? hfound
      rw [h.number k hk, h.distinct k hk n hn (hother.trans hname.symm)]

theorem find?_iff_mem : f.find? name = some n ↔ ∃ d ∈ f.devices, d.name = name ∧ d.number = n := by
  rw [h.find?_eq_some_iff]
  constructor
  · rintro ⟨hn, hname⟩
    exact ⟨f.device n, mem_devices.mpr ⟨n, hn, rfl⟩, hname, h.number n hn⟩
  · rintro ⟨d, hd, hname, hnumber⟩
    obtain ⟨m, hm, rfl⟩ := mem_devices.mp hd
    rw [h.number m hm] at hnumber
    rw [← hnumber]
    exact ⟨hm, hname⟩

theorem number_of_getElem? {d : Port} (hd : f.devices[n]? = some d) : d.number = n := by
  rw [getElem?_devices] at hd
  split at hd
  · rename_i hn
    cases hd
    exact h.number n hn
  · cases hd

theorem nodup_names : (f.devices.map Port.name).Nodup := by
  rw [devices_eq, List.map_map]
  refine List.Nodup.map_on (fun m hm n hn hname => ?_) List.nodup_range
  exact h.distinct m (List.mem_range.mp hm) n (List.mem_range.mp hn) hname

theorem peerNumber (hn : n < f.portCount) :
    f.peerNumber (f.base + n) < f.portCount ∧
      (f.device n).peer = f.base + f.peerNumber (f.base + n) ∧
      f.peerNumber (f.base + f.peerNumber (f.base + n)) = n := by
  obtain ⟨m, hm, hpeer, hback⟩ := h.peer n hn
  have hnumber : ∀ {i j : Nat}, j < f.portCount → (f.device i).peer = f.base + j →
      f.peerNumber (f.base + i) = j := by
    intro i j hj hij
    change (f.port (f.device i).peer).number = j
    rw [hij]
    exact h.number j hj
  rw [hnumber hm hpeer]
  exact ⟨hm, hpeer, hnumber hn hback⟩

/-- New ports with names of their own and peers among themselves. -/
theorem grow (hbase : g.base = f.base) (hle : g.base ≤ g.ports.size)
    (hold : ∀ n < f.portCount, g.device n = f.device n)
    (hnumber : ∀ n < g.portCount, f.portCount ≤ n → (g.device n).number = n)
    (hfresh : ∀ n < g.portCount, f.portCount ≤ n → f.find? (g.device n).name = none)
    (hdistinct : ∀ m < g.portCount, f.portCount ≤ m → ∀ n < g.portCount, f.portCount ≤ n →
      (g.device m).name = (g.device n).name → m = n)
    (hpeer : ∀ m < g.portCount, f.portCount ≤ m → ∃ n < g.portCount,
      (g.device m).peer = f.base + n ∧ (g.device n).peer = f.base + m)
    (hcount : f.portCount ≤ g.portCount) (hroom : g.portCount ≤ maxPorts) : g.Enrolled where
  base_le := hle
  number n hn := by
    rcases Nat.lt_or_ge n f.portCount with hlt | hge
    · rw [hold n hlt]
      exact h.number n hlt
    · exact hnumber n hn hge
  distinct m hm n hn := by
    rcases Nat.lt_or_ge m f.portCount with hm' | hm' <;>
      rcases Nat.lt_or_ge n f.portCount with hn' | hn'
    · rw [hold m hm', hold n hn']
      exact h.distinct m hm' n hn'
    · rw [hold m hm']
      exact fun heq => absurd heq (find?_eq_none_iff.mp (hfresh n hn hn') m hm')
    · rw [hold n hn']
      exact fun heq => absurd heq.symm (find?_eq_none_iff.mp (hfresh m hm hm') n hn')
    · exact hdistinct m hm hm' n hn hn'
  peer m hm := by
    rw [hbase]
    rcases Nat.lt_or_ge m f.portCount with hlt | hge
    · obtain ⟨n, hn, hpeer, hback⟩ := h.peer m hlt
      exact ⟨n, hn.trans_le hcount, by rw [hold m hlt, hpeer], by rw [hold n hn, hback]⟩
    · exact hpeer m hm hge
  room := hroom

theorem peerNumber_eq_self_iff (hn : n < f.portCount) :
    f.peerNumber (f.base + n) = n ↔ (f.device n).peer = f.base + n := by
  obtain ⟨-, hpeer, -⟩ := h.peerNumber hn
  rw [hpeer]
  omega

theorem addLoopback (hname : f.find? name = none) (hroom : f.portCount < maxPorts) (mac : Mac) :
    (f.addPort name f.ports.size mac).Enrolled := by
  have hbase := h.base_le
  have hcount := portCount_addPort hbase name f.ports.size mac
  have hself := size_eq hbase
  have hlast : (f.addPort name f.ports.size mac).device f.portCount =
      { number := f.portCount, name, peer := f.ports.size, mac } := by
    rw [device_addPort hbase, if_pos rfl]
  have honly : ∀ n < (f.addPort name f.ports.size mac).portCount, f.portCount ≤ n →
      n = f.portCount := by
    omega
  refine h.grow rfl (base_le_addPort hbase _ _ _) (fun n hn => ?_) (fun n hn hn' => ?_)
    (fun n hn hn' => ?_) (fun m hm hm' n hn hn' _ => ?_) (fun n hn hn' => ?_) (by omega) (by omega)
  · rw [device_addPort hbase, if_neg (Nat.ne_of_lt hn)]
  · rw [honly n hn hn', hlast]
  · rw [honly n hn hn', hlast]
    exact hname
  · rw [honly m hm hm', honly n hn hn']
  · rw [honly n hn hn']
    refine ⟨f.portCount, by omega, ?_, ?_⟩ <;> rw [hlast, ← hself]

theorem addPair {a b : String} (ha : f.find? a = none) (hb : f.find? b = none) (hab : a ≠ b)
    (hroom : f.portCount + 2 ≤ maxPorts) (macA macB : Mac) :
    ((f.addPort a (f.ports.size + 1) macA).addPort b f.ports.size macB).Enrolled := by
  have hbase := h.base_le
  have hcount := portCount_addPair hbase a b macA macB
  have hdevice := device_addPair hbase a b macA macB
  have hle := base_le_addPort (base_le_addPort hbase a macA (f.ports.size + 1)) b macB f.ports.size
  generalize hg : (f.addPort a (f.ports.size + 1) macA).addPort b f.ports.size macB = g
    at hcount hdevice hle
  have hself := size_eq hbase
  have hfirst : g.device f.portCount =
      { number := f.portCount, name := a, peer := f.ports.size + 1, mac := macA } := by
    rw [hdevice, if_neg (by omega), if_pos rfl]
  have hsecond : g.device (f.portCount + 1) =
      { number := f.portCount + 1, name := b, peer := f.ports.size, mac := macB } := by
    rw [hdevice, if_pos rfl]
  have honly : ∀ n < g.portCount, f.portCount ≤ n → n = f.portCount ∨ n = f.portCount + 1 := by
    omega
  refine h.grow (by rw [← hg]; rfl) hle (fun n hn => ?_) (fun n hn hn' => ?_)
    (fun n hn hn' => ?_) (fun m hm hm' n hn hn' => ?_) (fun n hn hn' => ?_)
    (by omega) (by omega)
  · rw [hdevice, if_neg (by omega), if_neg (by omega)]
  · rcases honly n hn hn' with rfl | rfl
    · rw [hfirst]
    · rw [hsecond]
  · rcases honly n hn hn' with rfl | rfl
    · rw [hfirst]
      exact ha
    · rw [hsecond]
      exact hb
  · rcases honly m hm hm' with rfl | rfl <;> rcases honly n hn hn' with rfl | rfl
    · exact fun _ => rfl
    · rw [hfirst, hsecond]
      exact fun heq => absurd heq hab
    · rw [hfirst, hsecond]
      exact fun heq => absurd heq.symm hab
    · exact fun _ => rfl
  · rcases honly n hn hn' with rfl | rfl
    · refine ⟨f.portCount + 1, by omega, ?_, ?_⟩
      · rw [hfirst, hself]
        rfl
      · rw [hsecond, ← hself]
    · refine ⟨f.portCount, by omega, ?_, ?_⟩
      · rw [hsecond, ← hself]
      · rw [hfirst, hself]
        rfl

theorem loopback_of_ok {name : String} {mac : Mac} (hok : (f.createLoopback name mac).1 = .ok n) :
    let g := (f.createLoopback name mac).2
    n = f.portCount ∧ g.peerNumber (g.base + n) = n ∧
      ∃ d, g.devices = f.devices ++ [d] ∧ d.name = name := by
  have hbase := h.base_le
  rcases f.createLoopback_cases name mac with ⟨e, heq⟩ | ⟨hname, hroom, heq⟩
  · rw [heq] at hok
    cases hok
  · rw [heq] at hok ⊢
    cases hok
    have hself := size_eq hbase
    refine ⟨rfl, ?_, _, devices_addPort hbase _ _ _, rfl⟩
    have hlast : f.portCount < (f.addPort name f.ports.size mac).portCount := by
      rw [portCount_addPort hbase]
      exact Nat.lt_succ_self _
    rw [(h.addLoopback hname hroom mac).peerNumber_eq_self_iff hlast, device_addPort hbase,
      if_pos rfl]
    exact hself

theorem pair_of_ok {a b : String} {macA macB : Mac} {m : Nat}
    (hok : (f.createPair a b macA macB).1 = .ok (m, n)) :
    let g := (f.createPair a b macA macB).2
    m = f.portCount ∧ n = f.portCount + 1 ∧ g.peerNumber (g.base + m) = n ∧
      g.peerNumber (g.base + n) = m ∧
      ∃ d e, g.devices = f.devices ++ [d, e] ∧ d.name = a ∧ e.name = b := by
  have hbase := h.base_le
  rcases f.createPair_cases a b macA macB with ⟨e, heq⟩ | ⟨⟨ha, hb, hab⟩, hroom, heq⟩
  · rw [heq] at hok
    cases hok
  · rw [heq] at hok ⊢
    cases hok
    have hself := size_eq hbase
    have hcount := portCount_addPair hbase a b macA macB
    have hnew := h.addPair ha hb hab hroom macA macB
    obtain ⟨-, hpeer, hback⟩ := hnew.peerNumber (n := f.portCount) (by omega)
    rw [device_addPair hbase, if_neg (by omega), if_pos rfl] at hpeer
    simp only [base_addPort] at hpeer
    have hsecond : ((f.addPort a (f.ports.size + 1) macA).addPort b f.ports.size macB).peerNumber
        (f.base + f.portCount) = f.portCount + 1 := by
      omega
    refine ⟨rfl, rfl, hsecond, ?_, _, _, devices_addPair hbase a b macA macB, rfl, rfl⟩
    rw [base_addPort, base_addPort, hsecond] at hback
    exact hback

end Enrolled
end Fabric
end Dataplane
