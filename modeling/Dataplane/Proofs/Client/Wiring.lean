import Dataplane.Proofs.Client.Basic
import Dataplane.Proofs.Port.Wiring

/-! # The wiring of a client

Every call keeps ports, rings and queue handles wired. Calls on pools, caches and buffers do not
touch the wiring at all.
-/
namespace Dataplane

namespace Fabric.Wired

variable {f : Fabric} {p : Nat} {rxs : Multiset RxQueue} {txs : Multiset TxQueue}

theorem idle_of_unused (h : f.Wired rxs txs) (hp : refersTo rxs txs p = false) : f.Idle p := by
  unfold refersTo at hp
  rw [Bool.or_eq_false_iff, decide_eq_false_iff_not, decide_eq_false_iff_not] at hp
  refine fun q => ⟨fun hout => hp.1 ?_, fun hout => hp.2 ?_⟩
  · obtain ⟨r, hr⟩ := h.handed.exists_rx hout
    exact Multiset.countP_pos.mpr ⟨_, hr, rfl⟩
  · obtain ⟨x, hx, hport, -⟩ := h.handed.exists_tx hout
    exact Multiset.countP_pos.mpr ⟨x, hx, .inl hport⟩

theorem abandonUnused (h : f.Wired rxs txs) (p : Nat) :
    (f.abandon (refersTo rxs txs) p).Wired rxs txs :=
  h.abandon h.idle_of_unused

theorem renew (h : f.Wired rxs txs) : (f.renew (refersTo rxs txs)).Wired rxs txs :=
  renew_of f (P := (·.Wired rxs txs)) h.rebase fun _ p hg => hg.abandonUnused p

theorem checked (h : f.Wired rxs txs) {check : Except Fault Unit} {effect : Fabric → Fabric}
    (heffect : check = .ok () → (effect f).Wired rxs txs) :
    (f.checked check effect).2.Wired rxs txs := by
  rcases checked_cases f check effect with ⟨hok, heq⟩ | ⟨e, heq⟩
  · rw [heq]
    exact heffect hok
  · rw [heq]
    exact h

theorem runPort (h : f.Wired rxs txs) (hbase : f.base ≤ p) (hp : p < f.ports.size)
    (c : PortCall) : (c.run f p).2.Wired rxs txs := by
  cases c with
  | configure rx tx config =>
    refine h.checked fun hok => ?_
    exact h.renewTables hp (h.handed.idle (Port.configurable_eq_ok hok)) rx tx
      (fun _ => ⟨rfl, Nat.le_refl _, rfl, rfl, rfl⟩) fun _ => ⟨rfl, rfl, by simp⟩
  | setupRx q descriptors =>
    refine h.checked fun hok => ?_
    obtain ⟨hstage, hq⟩ := Port.settable_eq_ok hok
    exact h.installRing hbase hstage hq descriptors
  | setupTx q descriptors =>
    refine h.checked fun hok => ?_
    obtain ⟨hstage, hq⟩ := Port.settable_eq_ok hok
    exact h.setupTx hp (h.handed.idle hstage)
  | start =>
    refine h.checked fun hok => ?_
    obtain ⟨hstage, hparked⟩ := Port.startable_eq_ok hok
    exact h.restage (h.handed.idle hstage) (fun _ => ⟨rfl, rfl, rfl, rfl, rfl⟩)
      fun hc => ⟨hc.rx, hc.inbox, hc.tx, fun _ => hc.start hparked⟩
  | stop =>
    refine h.checked fun hok => ?_
    exact h.restage (Port.not_anyOut (Port.stoppable_eq_ok hok))
      (fun _ => ⟨rfl, rfl, rfl, rfl, rfl⟩) fun hc => .of_lengths hc.rx hc.inbox hc.tx (by simp)
  | close =>
    refine h.checked fun hok => ?_
    exact h.renewTables hp (h.handed.idle (Port.closable_eq_ok hok)) 0 0
      (fun _ => ⟨rfl, Nat.le_succ _, rfl, rfl, rfl⟩) fun _ => ⟨rfl, rfl, by simp⟩
  | setLink up => exact h.checked fun _ => h.setPort p _ fun _ => rfl
  | pauseRx q paused => exact h.checked fun _ => h.setPort p _ fun _ => rfl
  | pauseTx q paused => exact h.checked fun _ => h.setPort p _ fun _ => rfl
  | setMac mac => exact h.checked fun _ => h.setPort p _ fun _ => rfl
  | setMtu mtu => exact h.checked fun _ => h.setPort p _ fun _ => rfl
  | setPromiscuous on => exact h.setPort p _ fun _ => rfl
  | resetStats => exact h.setPort p _ fun _ => rfl

theorem rxBurst (h : f.Wired rxs txs) (x : RxQueue) (max : Nat) :
    (f.rxBurst x max).2.Wired rxs txs := h.of_tables (f.sameTables_rxBurst x max)

theorem txBurst (h : f.Wired rxs txs) (x : TxQueue) (bufs : List Buffer) :
    (f.txBurst x bufs).2.2.Wired rxs txs := h.of_tables (f.sameTables_txBurst x bufs)

end Fabric.Wired

namespace Client

variable {w : Client}

/-! ## Calls that leave the wiring alone -/

/-- Only pools, buffers and caches differ. -/
structure SameWiring (w w' : Client) : Prop where
  fabric : ∃ s, w'.fabric = w.fabric.updateStore fun _ => s
  rxs : w'.rxs = w.rxs
  txs : w'.txs = w.txs

namespace SameWiring

theorem refl (w : Client) : SameWiring w w := ⟨⟨w.store, rfl⟩, rfl, rfl⟩

theorem hold (w : Client) (s : Store) (buffers : Multiset Buffer) :
    SameWiring w (w.hold s buffers) := ⟨⟨s, rfl⟩, rfl, rfl⟩

theorem callPool (w : Client) (c : PoolCall) : SameWiring w (w.callPool c) := by
  cases c with
  | create name config =>
    simp only [Client.callPool]
    split
    · exact hold w _ _
    · exact refl w
  | alloc p =>
    simp only [Client.callPool]
    split
    · exact hold w _ _
    · exact refl w
  | allocInto p n => exact hold w _ _
  | allocBulk p n =>
    simp only [Client.callPool]
    split
    · exact hold w _ _
    · exact refl w
  | allocExact p n =>
    simp only [Client.callPool]
    split
    · exact hold w _ _
    · exact hold w _ _
    · exact refl w
  | free bs =>
    simp only [Client.callPool]
    split
    · exact hold w _ _
    · exact refl w

theorem recache (w : Client) (s : Store) (buffers : Multiset Buffer) (c d : Cache) :
    SameWiring w ((w.hold s buffers).recache c d) := ⟨⟨s, rfl⟩, rfl, rfl⟩

theorem callCache (w : Client) (c : CacheCall) : SameWiring w (w.callCache c) := by
  cases c with
  | create p => exact ⟨⟨w.store, rfl⟩, rfl, rfl⟩
  | alloc c =>
    simp only [Client.callCache]
    split
    · split
      · exact recache w _ _ _ _
      · exact refl w
    · exact refl w
  | allocInto c n =>
    simp only [Client.callCache]
    split
    · exact recache w _ _ _ _
    · exact refl w
  | free c b =>
    simp only [Client.callCache]
    split
    · exact recache w _ _ _ _
    · exact refl w
  | flush c =>
    simp only [Client.callCache]
    split
    · exact recache w _ _ _ _
    · exact refl w
  | drop c =>
    simp only [Client.callCache]
    split
    · exact ⟨⟨_, rfl⟩, rfl, rfl⟩
    · exact refl w

theorem callBuffer (w : Client) (b : Buffer) (e : Edit) : SameWiring w (w.callBuffer b e) := by
  unfold Client.callBuffer
  split
  · exact hold w _ _
  · exact refl w

end SameWiring

/-! ## Taking handles -/

theorem takeRx_cases (w : Client) (p q : Nat) :
    (∃ r, (w.fabric.port p).stage = .started ∧ (w.fabric.port p).rx[q]? = some (.parked r) ∧
      w.takeRx p q =
        { w with fabric := w.fabric.updatePort p (·.setRx q .out), rxs := ⟨p, q, r⟩ ::ₘ w.rxs }) ∨
    w.takeRx p q = w := by
  unfold Client.takeRx
  rcases w.fabric.takeRx_cases p q with ⟨r, hstage, hr, heq⟩ | ⟨e, heq⟩
  · rw [heq]
    exact .inl ⟨r, hstage, hr, rfl⟩
  · rw [heq]
    exact .inr rfl

theorem takeTx_cases (w : Client) (p q : Nat) :
    (∃ e r, (w.fabric.port p).stage = .started ∧ (w.fabric.port p).tx[q]? = some (.parked ()) ∧
      (w.fabric.port (w.fabric.port p).peer).inbox[q]? = some ⟨e, some r⟩ ∧
      w.takeTx p q =
        { w with
          fabric := (w.fabric.updatePort p (·.setTx q .out)).updatePort (w.fabric.port p).peer
            (·.setInbox q ⟨e, none⟩)
          txs := ⟨p, (w.fabric.port p).peer, q, r, e⟩ ::ₘ w.txs }) ∨
    w.takeTx p q = w := by
  unfold Client.takeTx
  rcases w.fabric.takeTx_cases p q with ⟨e, r, hstage, ht, hi, heq⟩ | ⟨e, heq⟩
  · rw [heq]
    exact .inl ⟨e, r, hstage, ht, hi, rfl⟩
  · rw [heq]
    exact .inr rfl

/-! ## All calls -/

def Wired (w : Client) : Prop := w.fabric.Wired w.rxs w.txs

namespace Wired

theorem of_sameWiring {w' : Client} (h : w.Wired) (hw : SameWiring w w') : w'.Wired := by
  obtain ⟨⟨s, hfabric⟩, hrxs, htxs⟩ := hw
  unfold Wired
  rw [hfabric, hrxs, htxs]
  exact Fabric.Wired.of_tables h (Fabric.sameTables_updateStore _ _)

theorem callRegistry (h : w.Wired) (c : RegistryCall) : (w.callRegistry c).Wired := by
  cases c with
  | createPair a b macA macB => exact Fabric.Wired.grow h (.createPair _ a b macA macB)
  | createLoopback name mac => exact Fabric.Wired.grow h (.createLoopback _ name mac)
  | renew => exact Fabric.Wired.renew h

theorem callPort (h : w.Wired) (p : Nat) (c : PortCall) : (w.callPort p c).Wired := by
  unfold Client.callPort
  split
  · rename_i hport
    exact Fabric.Wired.runPort h hport.1 hport.2 c
  · exact h

theorem takeRx (h : w.Wired) (p q : Nat) : (w.takeRx p q).Wired := by
  rcases w.takeRx_cases p q with ⟨r, hstage, hr, heq⟩ | heq
  · rw [heq]
    exact Fabric.Wired.takeRx h hstage hr
  · rw [heq]
    exact h

theorem takeTx (h : w.Wired) (p q : Nat) : (w.takeTx p q).Wired := by
  rcases w.takeTx_cases p q with ⟨e, r, hstage, ht, hi, heq⟩ | heq
  · rw [heq]
    exact Fabric.Wired.takeTx h hstage ht hi
  · rw [heq]
    exact h

theorem putRx (h : w.Wired) {x : RxQueue} (hx : x ∈ w.rxs) : (w.putRx x).Wired :=
  (Fabric.Wired.putRx h hx).abandonUnused x.port

theorem putTx (h : w.Wired) {x : TxQueue} (hx : x ∈ w.txs) : (w.putTx x).Wired := by
  have hput := (Fabric.Wired.putTx h hx).abandonUnused x.port
  rw [Wired, putTx_fabric, putTx_rxs, putTx_txs]
  exact hput.abandonUnused x.peer

theorem callQueue (h : w.Wired) (c : QueueCall) : (w.callQueue c).Wired :=
  w.callQueue_of h (fun p q _ => h.takeRx p q) (fun p q _ => h.takeTx p q)
    (fun _ hx => h.putRx hx) (fun _ hx => h.putTx hx)
    (fun x _ max => Fabric.Wired.rxBurst h x max) (fun x _ bs _ => Fabric.Wired.txBurst h x bs) c

theorem call (h : w.Wired) (c : Call) : (w.call c).Wired := by
  cases c with
  | pool c => exact h.of_sameWiring (.callPool w c)
  | cache c => exact h.of_sameWiring (.callCache w c)
  | buffer b e => exact h.of_sameWiring (.callBuffer w b e)
  | registry c => exact h.callRegistry c
  | port p c => exact h.callPort p c
  | queue c => exact h.callQueue c

theorem callAll (h : w.Wired) (calls : List Call) : (w.callAll calls).Wired :=
  callAll_induction (fun _ c hw => hw.call c) calls w h

theorem start : Wired {} where
  handed := by
    refine ⟨fun p hp => absurd hp (Nat.not_lt_zero p), fun p q hout => ?_, fun p q => rfl,
      fun p q => rfl, fun x hx => absurd hx (Multiset.notMem_zero x)⟩
    rcases hout with hout | hout <;> cases hout
  fed := by
    have hnone : ∀ x ∈ (0 : Multiset TxQueue), 0 < x.epoch :=
      fun x hx => absurd hx (Multiset.notMem_zero x)
    exact ⟨fun x hx => absurd hx (Multiset.notMem_zero x), fun p q => .empty rfl rfl hnone⟩
  owned := ⟨fun _ => rfl, fun _ => rfl⟩
  counted p _ := .of_lengths rfl rfl rfl nofun

end Wired

theorem wired_run (calls : List Call) : (run calls).Wired :=
  run_induction Wired.start (fun _ c h => h.call c) calls

end Client
end Dataplane
