import Mathlib.Data.Multiset.Count
import Dataplane.Proofs.Port.Tables

/-! # Handles and table entries

A queue handle is in somebody's hands exactly when the entry of its queue says that it is out, and
only ports that are started have entries that are out. A send handle remembers the peer of its port,
and peers are each other's peers for good.
-/
namespace Dataplane
namespace Fabric

def rxHandles (rxs : Multiset RxQueue) (p q : Nat) : Nat :=
  rxs.countP fun x => x.port = p ∧ x.queue = q

def txHandles (txs : Multiset TxQueue) (p q : Nat) : Nat :=
  txs.countP fun x => x.port = p ∧ x.queue = q

theorem rxHandles_cons (x : RxQueue) (rxs : Multiset RxQueue) (p q : Nat) :
    rxHandles (x ::ₘ rxs) p q = rxHandles rxs p q + if p = x.port ∧ q = x.queue then 1 else 0 := by
  simp only [rxHandles, Multiset.countP_cons, eq_comm]

theorem txHandles_cons (x : TxQueue) (txs : Multiset TxQueue) (p q : Nat) :
    txHandles (x ::ₘ txs) p q = txHandles txs p q + if p = x.port ∧ q = x.queue then 1 else 0 := by
  simp only [txHandles, Multiset.countP_cons, eq_comm]

theorem rxHandles_pos_iff {rxs : Multiset RxQueue} {p q : Nat} :
    0 < rxHandles rxs p q ↔ ∃ x ∈ rxs, x.port = p ∧ x.queue = q := Multiset.countP_pos

theorem txHandles_pos_iff {txs : Multiset TxQueue} {p q : Nat} :
    0 < txHandles txs p q ↔ ∃ x ∈ txs, x.port = p ∧ x.queue = q := Multiset.countP_pos

structure Handed (f : Fabric) (rxs : Multiset RxQueue) (txs : Multiset TxQueue) : Prop where
  peer : ∀ p < f.ports.size,
    (f.port p).peer < f.ports.size ∧ (f.port (f.port p).peer).peer = p
  busy : ∀ p q, (f.port p).rxAt q = .out ∨ (f.port p).txAt q = .out →
    (f.port p).stage = .started
  rx_out : ∀ p q, rxHandles rxs p q = if (f.port p).rxAt q = .out then 1 else 0
  tx_out : ∀ p q, txHandles txs p q = if (f.port p).txAt q = .out then 1 else 0
  tx_peer : ∀ x ∈ txs, x.peer = (f.port x.port).peer

/-- No entry of a port is out. -/
def Idle (f : Fabric) (p : Nat) : Prop :=
  ∀ q, (f.port p).rxAt q ≠ .out ∧ (f.port p).txAt q ≠ .out

namespace Handed

variable {f g : Fabric} {p q r : Nat} {rxs rxs' : Multiset RxQueue} {txs txs' : Multiset TxQueue}

theorem idle (h : f.Handed rxs txs) (hp : (f.port p).stage ≠ .started) : f.Idle p :=
  fun q => ⟨fun hq => hp (h.busy p q (.inl hq)), fun hq => hp (h.busy p q (.inr hq))⟩

theorem rx_of_mem (h : f.Handed rxs txs) {x : RxQueue} (hx : x ∈ rxs) :
    (f.port x.port).rxAt x.queue = .out := by
  have hcount := h.rx_out x.port x.queue
  have hpos := rxHandles_pos_iff.mpr ⟨x, hx, rfl, rfl⟩
  by_contra hout
  rw [if_neg hout] at hcount
  omega

theorem tx_of_mem (h : f.Handed rxs txs) {x : TxQueue} (hx : x ∈ txs) :
    (f.port x.port).txAt x.queue = .out := by
  have hcount := h.tx_out x.port x.queue
  have hpos := txHandles_pos_iff.mpr ⟨x, hx, rfl, rfl⟩
  by_contra hout
  rw [if_neg hout] at hcount
  omega

theorem exists_rx (h : f.Handed rxs txs) (hout : (f.port p).rxAt q = .out) :
    ∃ r, ⟨p, q, r⟩ ∈ rxs := by
  have hcount := h.rx_out p q
  rw [if_pos hout] at hcount
  obtain ⟨x, hx, rfl, rfl⟩ := rxHandles_pos_iff.mp (hcount ▸ Nat.one_pos)
  exact ⟨x.ring, hx⟩

theorem exists_tx (h : f.Handed rxs txs) (hout : (f.port p).txAt q = .out) :
    ∃ x ∈ txs, x.port = p ∧ x.queue = q := by
  have hcount := h.tx_out p q
  rw [if_pos hout] at hcount
  exact txHandles_pos_iff.mp (hcount ▸ Nat.one_pos)

theorem rx_erase (h : f.Handed rxs txs) {x : RxQueue} (hx : x ∈ rxs) :
    rxHandles (rxs.erase x) x.port x.queue = 0 := by
  have hcount := h.rx_out x.port x.queue
  rw [if_pos (h.rx_of_mem hx), ← Multiset.cons_erase hx, rxHandles_cons,
    if_pos ⟨rfl, rfl⟩] at hcount
  omega

theorem tx_erase (h : f.Handed rxs txs) {x : TxQueue} (hx : x ∈ txs) :
    txHandles (txs.erase x) x.port x.queue = 0 := by
  have hcount := h.tx_out x.port x.queue
  rw [if_pos (h.tx_of_mem hx), ← Multiset.cons_erase hx, txHandles_cons,
    if_pos ⟨rfl, rfl⟩] at hcount
  omega

theorem port_lt (h : f.Handed rxs txs) {x : TxQueue} (hx : x ∈ txs) :
    x.port < f.ports.size := by
  by_contra hport
  have hout := h.tx_of_mem hx
  rw [f.port_of_size_le (Nat.le_of_not_lt hport)] at hout
  cases hout

theorem tx_port (h : f.Handed rxs txs) {x : TxQueue} (hx : x ∈ txs) :
    x.port = (f.port x.peer).peer := by
  rw [h.tx_peer x hx]
  exact (h.peer x.port (h.port_lt hx)).2.symm

theorem tx_erase_of_peer (h : f.Handed rxs txs) {x y : TxQueue} (hx : x ∈ txs)
    (hy : y ∈ txs.erase x) : ¬(y.peer = x.peer ∧ y.queue = x.queue) := by
  rintro ⟨hpeer, hqueue⟩
  have hport : y.port = x.port := by
    rw [h.tx_port hx, h.tx_port (Multiset.mem_of_mem_erase hy), hpeer]
  have hpos := txHandles_pos_iff.mpr ⟨y, hy, hport, hqueue⟩
  rw [h.tx_erase hx] at hpos
  exact Nat.lt_irrefl 0 hpos

/-! ## Steps -/

/-- Changes that leave entries and peers alone. -/
theorem of_reads (h : f.Handed rxs txs) (hsize : g.ports.size = f.ports.size)
    (hpeer : ∀ p, (g.port p).peer = (f.port p).peer)
    (hrx : ∀ p q, (g.port p).rxAt q = (f.port p).rxAt q)
    (htx : ∀ p q, (g.port p).txAt q = (f.port p).txAt q)
    (hstage : ∀ p, (g.port p).stage = (f.port p).stage ∨ f.Idle p) : g.Handed rxs txs where
  peer p hp := by
    rw [hsize] at hp ⊢
    rw [hpeer, hpeer]
    exact h.peer p hp
  busy p q hout := by
    rw [hrx, htx] at hout
    rcases hstage p with hp | hp
    · rw [hp]
      exact h.busy p q hout
    · exact absurd hout (not_or.mpr (hp q))
  rx_out p q := by rw [h.rx_out, hrx]
  tx_out p q := by rw [h.tx_out, htx]
  tx_peer x hx := by rw [h.tx_peer x hx, hpeer]

theorem of_tables (h : f.Handed rxs txs) (hfg : SameTables f g) : g.Handed rxs txs :=
  h.of_reads hfg.size hfg.peer hfg.rxAt hfg.txAt fun p => .inl (hfg.stage p)

/-- A new life stage for a port that has nothing out. -/
theorem restage (h : f.Handed rxs txs) (hidle : f.Idle p) {g : Port → Port}
    (hg : ∀ x, (g x).peer = x.peer ∧ (g x).rx = x.rx ∧ (g x).tx = x.tx) :
    (f.updatePort p g).Handed rxs txs := by
  refine h.of_reads (f.size_updatePort p g) (read_updatePort _ f p g fun x => (hg x).1)
    (fun i j => read_updatePort (·.rxAt j) f p g (fun x => ?_) i)
    (fun i j => read_updatePort (·.txAt j) f p g (fun x => ?_) i) fun i => ?_
  · simp only [Port.rxAt, (hg x).2.1]
  · simp only [Port.txAt, (hg x).2.2]
  · by_cases hi : i = p
    · exact .inr (hi ▸ hidle)
    · rw [port_updatePort, if_neg fun h => hi h.1]
      exact .inl rfl

theorem setInbox (h : f.Handed rxs txs) (p q : Nat) (i : Inbox) :
    (f.updatePort p (·.setInbox q i)).Handed rxs txs :=
  h.of_reads (f.size_updatePort p _)
    (read_updatePort (·.peer) f p (·.setInbox q i) fun _ => rfl)
    (fun k j => read_updatePort (·.rxAt j) f p (·.setInbox q i) (fun _ => rfl) k)
    (fun k j => read_updatePort (·.txAt j) f p (·.setInbox q i) (fun _ => rfl) k)
    fun k => .inl (read_updatePort (·.stage) f p (·.setInbox q i) (fun _ => rfl) k)

/-- Entries of a port that has nothing out may become anything that is not out. -/
theorem reset (h : f.Handed rxs txs) (hidle : f.Idle p) {x : Port}
    (hpeer : x.peer = (f.port p).peer)
    (hx : ∀ q, x.rxAt q ≠ .out ∧ x.txAt q ≠ .out)
    (hsize : g.ports.size = f.ports.size)
    (hg : ∀ i, g.port i = if i = p then x else f.port i) : g.Handed rxs txs := by
  have hpeers : ∀ i, (g.port i).peer = (f.port i).peer := by
    intro i
    rw [hg]
    split
    · rename_i hi
      rw [hpeer, hi]
    · rfl
  have hrx : ∀ i j, (g.port i).rxAt j = .out ↔ (f.port i).rxAt j = .out := by
    intro i j
    rw [hg]
    split
    · rename_i hi
      subst i
      simp [(hx j).1, (hidle j).1]
    · rfl
  have htx : ∀ i j, (g.port i).txAt j = .out ↔ (f.port i).txAt j = .out := by
    intro i j
    rw [hg]
    split
    · rename_i hi
      subst i
      simp [(hx j).2, (hidle j).2]
    · rfl
  refine ⟨fun i hi => ?_, fun i j hout => ?_, fun i j => ?_, fun i j => ?_, fun y hy => ?_⟩
  · rw [hsize] at hi ⊢
    rw [hpeers, hpeers]
    exact h.peer i hi
  · rw [hrx, htx] at hout
    rw [hg]
    split
    · rename_i hi
      subst i
      exact absurd hout (not_or.mpr (hidle j))
    · exact h.busy i j hout
  · simp only [h.rx_out, hrx]
  · simp only [h.tx_out, htx]
  · rw [h.tx_peer y hy, hpeers]

theorem resetQueues (h : f.Handed rxs txs) (hp : p < f.ports.size) (hidle : f.Idle p)
    (rx tx : Nat) : (f.resetQueues p rx tx).Handed rxs txs := by
  refine h.reset hidle (x := (f.port p).cleared rx tx) rfl (by simp) ?_ fun i => ?_
  · rw [resetQueues_eq, (samePorts_dropEnds _ _ _).ports, size_updatePort]
  · rw [port_resetQueues hp]
    split
    · rename_i hi
      rw [hi]
    · rfl

theorem installRing (h : f.Handed rxs txs) (hp : p < f.ports.size) (hidle : f.Idle p)
    (q capacity : Nat) : (f.installRing p q capacity).Handed rxs txs := by
  refine h.reset hidle (x := (f.port p).withRing q f.rings.size) rfl (fun j => ?_) ?_
    fun i => ?_
  · rw [Port.rxAt_withRing]
    refine ⟨?_, (hidle j).2⟩
    split
    · simp
    · exact (hidle j).1
  · rw [installRing_eq, (samePorts_dropEnds _ _ _).ports, size_updatePort]
    rfl
  · rw [port_installRing hp]
    split
    · rename_i hi
      rw [hi]
    · rfl

theorem setupTx (h : f.Handed rxs txs) (hp : p < f.ports.size) (hidle : f.Idle p) (q : Nat) :
    (f.updatePort p (·.setTx q (.parked ()))).Handed rxs txs := by
  refine h.reset hidle (x := (f.port p).setTx q (.parked ())) rfl (fun j => ?_)
    (f.size_updatePort p _) fun i => ?_
  · rw [Port.txAt_setTx]
    refine ⟨(hidle j).1, ?_⟩
    split
    · simp
    · exact (hidle j).2
  · rw [port_updatePort_of_lt hp]
    split
    · rename_i hi
      rw [hi]
    · rfl

/-- Handles come and go with the entries of their queues. -/
theorem exchange (h : f.Handed rxs txs) (hsize : g.ports.size = f.ports.size)
    (hpeer : ∀ i, (g.port i).peer = (f.port i).peer)
    (hstage : ∀ i, (g.port i).stage = (f.port i).stage)
    (hbusy : ∀ i j, (g.port i).rxAt j = .out ∨ (g.port i).txAt j = .out →
      (f.port i).rxAt j = .out ∨ (f.port i).txAt j = .out ∨ (f.port i).stage = .started)
    (hrx : ∀ i j, rxHandles rxs' i j = if (g.port i).rxAt j = .out then 1 else 0)
    (htx : ∀ i j, txHandles txs' i j = if (g.port i).txAt j = .out then 1 else 0)
    (htxs : ∀ x ∈ txs', x ∈ txs ∨ x.peer = (f.port x.port).peer) : g.Handed rxs' txs' where
  peer i hi := by
    rw [hsize] at hi ⊢
    rw [hpeer, hpeer]
    exact h.peer i hi
  busy i j hout := by
    rw [hstage]
    rcases hbusy i j hout with hrx | htx | hstarted
    · exact h.busy i j (.inl hrx)
    · exact h.busy i j (.inr htx)
    · exact hstarted
  rx_out := hrx
  tx_out := htx
  tx_peer x hx := by
    rw [hpeer]
    rcases htxs x hx with hx | hx
    · exact h.tx_peer x hx
    · exact hx

theorem takeRx (h : f.Handed rxs txs) (hstage : (f.port p).stage = .started)
    (hr : (f.port p).rx[q]? = some (.parked r)) :
    (f.updatePort p (·.setRx q .out)).Handed (⟨p, q, r⟩ ::ₘ rxs) txs := by
  have hrx := rxAt_updatePort hr .out
  have htx : ∀ i j, ((f.updatePort p (·.setRx q .out)).port i).txAt j = (f.port i).txAt j :=
    fun i j => read_updatePort (·.txAt j) f p (·.setRx q .out) (fun _ => rfl) i
  refine h.exchange (f.size_updatePort p _)
    (read_updatePort (·.peer) f p (·.setRx q .out) fun _ => rfl)
    (read_updatePort (·.stage) f p (·.setRx q .out) fun _ => rfl) (fun i j hout => ?_)
    (fun i j => ?_) (fun i j => ?_) fun x hx => .inl hx
  · rw [hrx, htx] at hout
    by_cases hij : i = p ∧ j = q
    · exact .inr (.inr (hij.1 ▸ hstage))
    · rw [if_neg hij] at hout
      rcases hout with hout | hout
      · exact .inl hout
      · exact .inr (.inl hout)
  · rw [rxHandles_cons, h.rx_out, hrx]
    by_cases hij : i = p ∧ j = q
    · obtain ⟨rfl, rfl⟩ := hij
      simp [Port.rxAt_eq hr]
    · simp [hij]
  · rw [h.tx_out, htx]

theorem putRx_eq (h : f.Handed rxs txs) {x : RxQueue} (hx : x ∈ rxs) :
    (f.port x.port).rx[x.queue]? = some .out ∧
      f.putRx x = f.updatePort x.port (·.setRx x.queue (.parked x.ring)) := by
  have hout := h.rx_of_mem hx
  have hentry := Port.rx_of_rxAt (by rw [hout]; simp)
  rw [hout] at hentry
  exact ⟨hentry, by rw [putRx, hentry]⟩

theorem putRx (h : f.Handed rxs txs) {x : RxQueue} (hx : x ∈ rxs) :
    (f.putRx x).Handed (rxs.erase x) txs := by
  obtain ⟨hentry, heq⟩ := h.putRx_eq hx
  have hrx := rxAt_updatePort hentry (.parked x.ring)
  let park (y : Port) : Port := y.setRx x.queue (.parked x.ring)
  have htx : ∀ i j, ((f.updatePort x.port park).port i).txAt j = (f.port i).txAt j :=
    fun i j => read_updatePort (·.txAt j) f x.port park (fun _ => rfl) i
  rw [heq]
  refine h.exchange (f.size_updatePort _ _)
    (read_updatePort (·.peer) f x.port park fun _ => rfl)
    (read_updatePort (·.stage) f x.port park fun _ => rfl) (fun i j hout => ?_)
    (fun i j => ?_) (fun i j => ?_) fun x hx => .inl hx
  · rw [hrx, htx] at hout
    by_cases hij : i = x.port ∧ j = x.queue
    · rw [if_pos hij] at hout
      rcases hout with hout | hout
      · cases hout
      · exact .inr (.inl hout)
    · rw [if_neg hij] at hout
      rcases hout with hout | hout
      · exact .inl hout
      · exact .inr (.inl hout)
  · rw [hrx]
    have hcount := h.rx_out i j
    rw [← Multiset.cons_erase hx, rxHandles_cons] at hcount
    by_cases hij : i = x.port ∧ j = x.queue
    · obtain ⟨rfl, rfl⟩ := hij
      simpa using h.rx_erase hx
    · simpa [hij] using hcount
  · rw [h.tx_out, htx]

theorem takeTx (h : f.Handed rxs txs) (hstage : (f.port p).stage = .started)
    (ht : (f.port p).tx[q]? = some (.parked ())) (e : Nat) :
    ((f.updatePort p (·.setTx q .out)).updatePort (f.port p).peer
      (·.setInbox q ⟨e, none⟩)).Handed rxs (⟨p, (f.port p).peer, q, r, e⟩ ::ₘ txs) := by
  have htaken : (f.updatePort p (·.setTx q .out)).Handed rxs
      (⟨p, (f.port p).peer, q, r, e⟩ ::ₘ txs) := by
    have htx := txAt_updatePort ht .out
    have hrx : ∀ i j, ((f.updatePort p (·.setTx q .out)).port i).rxAt j = (f.port i).rxAt j :=
      fun i j => read_updatePort (·.rxAt j) f p (·.setTx q .out) (fun _ => rfl) i
    refine h.exchange (f.size_updatePort p _)
      (read_updatePort (·.peer) f p (·.setTx q .out) fun _ => rfl)
      (read_updatePort (·.stage) f p (·.setTx q .out) fun _ => rfl) (fun i j hout => ?_)
      (fun i j => ?_) (fun i j => ?_) fun x hx => ?_
    · rw [hrx, htx] at hout
      by_cases hij : i = p ∧ j = q
      · exact .inr (.inr (hij.1 ▸ hstage))
      · rw [if_neg hij] at hout
        rcases hout with hout | hout
        · exact .inl hout
        · exact .inr (.inl hout)
    · rw [h.rx_out, hrx]
    · rw [txHandles_cons, h.tx_out, htx]
      by_cases hij : i = p ∧ j = q
      · obtain ⟨rfl, rfl⟩ := hij
        simp [Port.txAt_eq ht]
      · simp [hij]
    · rcases Multiset.mem_cons.mp hx with rfl | hx
      · exact .inr rfl
      · exact .inl hx
  exact htaken.setInbox _ q ⟨e, none⟩

end Handed

theorem read_putProducer {β : Type} (φ : Port → β) (f : Fabric) (x : TxQueue)
    (hφ : ∀ y q i, φ (y.setInbox q i) = φ y) (i : Nat) :
    φ ((f.putProducer x).port i) = φ (f.port i) := by
  unfold putProducer
  split
  · split
    · exact read_updatePort φ f _ _ (fun y => hφ y _ _) i
    · rw [(samePorts_dropProducer f _).port]
  · rw [(samePorts_dropProducer f _).port]

theorem size_putProducer (f : Fabric) (x : TxQueue) :
    (f.putProducer x).ports.size = f.ports.size := by
  unfold putProducer
  split
  · split
    · exact size_updatePort _ _ _
    · rw [(samePorts_dropProducer f _).ports]
  · rw [(samePorts_dropProducer f _).ports]

namespace Handed

variable {f g : Fabric} {p q r : Nat} {rxs : Multiset RxQueue} {txs : Multiset TxQueue}

theorem putTx_eq (h : f.Handed rxs txs) {x : TxQueue} (hx : x ∈ txs) :
    ((f.putProducer x).port x.port).tx[x.queue]? = some .out ∧
      f.putTx x = (f.putProducer x).updatePort x.port (·.setTx x.queue (.parked ())) := by
  have hout := h.tx_of_mem hx
  have hentry := Port.tx_of_txAt (by rw [hout]; simp)
  rw [hout, ← read_putProducer (·.tx) f x (fun _ _ _ => rfl)] at hentry
  refine ⟨hentry, ?_⟩
  rw [putTx, hentry]

theorem putTx (h : f.Handed rxs txs) {x : TxQueue} (hx : x ∈ txs) :
    (f.putTx x).Handed rxs (txs.erase x) := by
  obtain ⟨hentry, heq⟩ := h.putTx_eq hx
  have htx : ∀ i j, ((f.putTx x).port i).txAt j =
      if i = x.port ∧ j = x.queue then .parked () else (f.port i).txAt j := by
    intro i j
    rw [heq, txAt_updatePort hentry, read_putProducer (·.txAt j) f x fun _ _ _ => rfl]
  have hread : ∀ {β : Type} (φ : Port → β), (∀ y q i, φ (y.setInbox q i) = φ y) →
      (∀ y q e, φ (y.setTx q e) = φ y) → ∀ i, φ ((f.putTx x).port i) = φ (f.port i) := by
    intro β φ hinbox htx i
    rw [heq, read_updatePort φ _ _ _ fun y => htx y _ _, read_putProducer φ f x hinbox]
  have hrx : ∀ i j, ((f.putTx x).port i).rxAt j = (f.port i).rxAt j :=
    fun i j => hread (·.rxAt j) (fun _ _ _ => rfl) (fun _ _ _ => rfl) i
  have hsize : (f.putTx x).ports.size = f.ports.size := by
    rw [heq, size_updatePort, size_putProducer]
  refine h.exchange hsize (hread (·.peer) (fun _ _ _ => rfl) fun _ _ _ => rfl)
    (hread (·.stage) (fun _ _ _ => rfl) fun _ _ _ => rfl) (fun i j hout => ?_) (fun i j => ?_)
    (fun i j => ?_) fun y hy => .inl (Multiset.mem_of_mem_erase hy)
  · rw [hrx, htx] at hout
    by_cases hij : i = x.port ∧ j = x.queue
    · rw [if_pos hij] at hout
      rcases hout with hout | hout
      · exact .inl hout
      · cases hout
    · rw [if_neg hij] at hout
      rcases hout with hout | hout
      · exact .inl hout
      · exact .inr (.inl hout)
  · rw [h.rx_out, hrx]
  · rw [htx]
    have hcount := h.tx_out i j
    rw [← Multiset.cons_erase hx, txHandles_cons] at hcount
    by_cases hij : i = x.port ∧ j = x.queue
    · obtain ⟨rfl, rfl⟩ := hij
      simpa using h.tx_erase hx
    · simpa [hij] using hcount

end Handed
end Fabric
end Dataplane
