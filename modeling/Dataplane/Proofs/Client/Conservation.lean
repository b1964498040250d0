import Dataplane.Proofs.Client.Delivery
import Dataplane.Proofs.Port.Behind
import Dataplane.Proofs.Port.Upkeep

/-! # What becomes of sent frames

A burst counts the frames that it puts on the ring of its handle. That ring is the one that the peer
reads from as long as the epoch of the handle is that of the queue; a handle from before the queue
was set up anew sends to a ring that nobody will ever read. The frames that a port has sent are
therefore those that its peer has received, has counted as errors or has refused, those that wait on
the rings of the peer or were lost with rings that the peer gave up, and those that went astray.
-/
namespace Dataplane

namespace Fabric

variable {f g : Fabric} {p q r s : Nat} {rxs : Multiset RxQueue} {txs : Multiset TxQueue}

/-- Ports `p` and `s` feed each other, or will when there are such ports. -/
structure Mates (f : Fabric) (p s : Nat) : Prop where
  peer : p < f.ports.size → (f.port p).peer = s
  back : s < f.ports.size → (f.port s).peer = p

theorem Lasts.mates {R : Nat → Prop} (h : Lasts R f g) (hm : g.Mates p s) : f.Mates p s where
  peer hp := (h.peer p hp).symm.trans (hm.peer (hp.trans_le h.size))
  back hs := (h.peer s hs).symm.trans (hm.back (hs.trans_le h.size))

theorem Handed.mates (h : f.Handed rxs txs) (hp : p < f.ports.size) :
    f.Mates p (f.port p).peer :=
  ⟨fun _ => rfl, fun _ => (h.peer p hp).2⟩

theorem Mates.port_eq_iff (hm : f.Mates p s) (h : f.Handed rxs txs) {x : TxQueue} (hx : x ∈ txs) :
    s = x.port ↔ x.peer = p := by
  have hport := h.port_lt hx
  have hpeer := h.tx_peer x hx
  constructor
  · rintro rfl
    exact hpeer.trans (hm.back hport)
  · rintro rfl
    have hlt := (h.peer x.port hport).1
    rw [← hpeer] at hlt
    exact ((h.tx_port hx).trans (hm.peer hlt)).symm

theorem Wired.not_reads_of_size_le (h : f.Wired rxs txs) (hp : f.ports.size ≤ p) :
    ¬f.Reads rxs p q r := by
  intro hr
  have hepoch := h.epoch_ne_zero hr
  rw [f.port_of_size_le hp] at hepoch
  exact hepoch rfl

theorem epoch_resetQueues (hp : p < f.ports.size) {k : Port → Port}
    (hk : ∀ x, (k x).inbox = x.inbox) (rx tx q : Nat) :
    ((((f.resetQueues p rx tx).updatePort p k).port p).inboxAt q).epoch = 0 := by
  have hinbox := read_updatePort (·.inbox) (f.resetQueues p rx tx) p k hk p
  have hcleared := Port.inboxAt_cleared (x := f.port p) (q := q) rx tx
  rw [port_resetQueues hp, if_pos rfl] at hinbox
  rw [Port.inboxAt, hinbox]
  exact congrArg Inbox.epoch hcleared

end Fabric

namespace Client

open Fabric

variable {w : Client} {p q r s : Nat} {c : Call}

/-! ## One burst -/

/-- What a burst does with the frames that it counts. -/
structure Sends (w : Client) (x : TxQueue) (bs : List Buffer) : Prop where
  counted : ((w.call (.queue (.send x bs))).fabric.port x.port).stats.sentFrames =
    (w.fabric.port x.port).stats.sentFrames + (w.fabric.carried x bs).length
  returned : (w.fabric.port x.port).linkUp = true → (w.fabric.port x.peer).linkUp = true →
    (w.fabric.txBurst x bs).1 = (w.fabric.carried x bs).length
  frames : ((w.call (.queue (.send x bs))).fabric.ring x.ring).frames =
    (w.fabric.ring x.ring).frames ++ w.fabric.carried x bs
  /-- A handle of the epoch of the queue sends to the ring that the queue reads from. -/
  fresh : x.epoch = ((w.fabric.port x.peer).inboxAt x.queue).epoch → ∀ r,
    (w.call (.queue (.send x bs))).fabric.Reads (w.call (.queue (.send x bs))).rxs
      x.peer x.queue r ↔ r = x.ring
  /-- A handle of an older epoch sends to a ring that is never read. -/
  stale : x.epoch ≠ ((w.fabric.port x.peer).inboxAt x.queue).epoch → ∀ calls i j,
    ¬((w.call (.queue (.send x bs))).callAll calls).fabric.Reads
      ((w.call (.queue (.send x bs))).callAll calls).rxs i j x.ring

theorem Wired.sends (h : w.Wired) {x : TxQueue} (hx : x ∈ w.txs) {bs : List Buffer}
    (hbs : ↑bs ≤ w.buffers) : w.Sends x bs := by
  have hcall : w.call (.queue (.send x bs)) = w.send x bs := if_pos ⟨hx, hbs⟩
  have hlt := Fabric.Wired.tx_ring_lt h hx
  have hafter := h.call (.queue (.send x bs))
  refine ⟨?_, w.fabric.txBurst_count x bs, ?_, fun hepoch r => ?_, fun hepoch calls i j hr => ?_⟩
  · have hstats := (w.fabric.stats_txBurst (h.handed.port_lt hx) bs x.port).1
    rw [if_pos rfl] at hstats
    rw [hcall]
    exact hstats
  · have hring := w.fabric.ring_txBurst x bs hlt x.ring
    rw [if_pos rfl] at hring
    rw [hcall]
    exact congrArg Ring.frames hring
  · have hreads := ((h.fed.queue x.peer x.queue).feeds x hx rfl rfl hepoch).2
    have hsame : (w.call (.queue (.send x bs))).fabric.Reads
        (w.call (.queue (.send x bs))).rxs x.peer x.queue x.ring := by
      rw [hcall]
      exact hreads.of_rxAt ((w.fabric.sameTables_txBurst x bs).rxAt x.peer x.queue)
    constructor
    · exact fun hr => (hr.unique hsame hafter.handed).symm
    · rintro rfl
      exact hsame
  · have hconsumer : (w.fabric.ring x.ring).hasConsumer = false := by
      rw [Bool.eq_false_iff, ne_eq, Fabric.Wired.hasConsumer_iff h]
      rintro ⟨p, q, hq⟩
      obtain ⟨rfl, rfl, hcurrent⟩ := Fabric.Wired.tx_of_ring h hq hx rfl
      exact hepoch hcurrent
    -- A ring never gets a second receiving end, so whatever is called later, nobody reads it.
    have hlost : (((w.call (.queue (.send x bs))).callAll calls).fabric.ring x.ring).hasConsumer =
        false := hasConsumer_callAll (.queue (.send x bs) :: calls) hlt hconsumer
    rw [(hafter.callAll calls).hasConsumer hr] at hlost
    cases hlost

/-! ## Accounts -/

/-- How many frames the calls of a run count, each in the state that it finds. -/
def tally (count : Client → Call → Nat) (w : Client) : List Call → Nat
  | [] => 0
  | c :: rest => count w c + tally count (w.call c) rest

/-- The frames that wait on the rings from which port `p` reads. -/
def waiting (p : Nat) (w : Client) : Nat := (w.fabric.framesOn (w.fabric.behind w.rxs p)).card

/-- The frames that a call fetches for port `p` although they are for another station. -/
def refused (p : Nat) (w : Client) : Call → Nat
  | .queue (.receive x max) =>
    if x ∈ w.rxs ∧ x.port = p then
      (w.fabric.fetched x max).countP ((w.fabric.port p).judge w.store · = .foreign)
    else 0
  | _ => 0

/-- The frames on rings that port `p` gives up by one of its own calls. -/
def scrapped (p : Nat) (w : Client) : Call → Nat
  | .port i c =>
    if i = p then
      (w.fabric.framesOn ((w.fabric.behind w.rxs p).filter
        (· ∉ (w.call (.port i c)).fabric.behind (w.call (.port i c)).rxs p))).card
    else 0
  | _ => 0

/-- The frames that a call sends to port `p` through a handle of an older epoch. -/
def strayed (p : Nat) (w : Client) : Call → Nat
  | .queue (.send x bs) =>
    if (x ∈ w.txs ∧ ↑bs ≤ w.buffers) ∧ x.peer = p ∧
        x.epoch ≠ ((w.fabric.port p).inboxAt x.queue).epoch then
      (w.fabric.carried x bs).length
    else 0
  | _ => 0

def sent (s : Nat) (w : Client) : Nat := (w.fabric.port s).stats.sentFrames

/-- The frames that port `p` has counted as received or as errors, and those that it may fetch. -/
def arrived (p : Nat) (w : Client) : Nat :=
  (w.fabric.port p).stats.receivedFrames + (w.fabric.port p).stats.receiveErrors + w.waiting p

/-! ## Rings that come and go -/

theorem call_port_eq (hport : w.IsPort p) (k : PortCall) :
    (w.call (.port p k)).fabric = (k.run w.fabric p).2 := by
  simp only [Client.call, Client.callPort, if_pos hport]

theorem Wired.frames_of_renews (h : w.Wired) {k : PortCall} (hk : k.Renews q)
    (hport : w.IsPort p) (hok : (k.run w.fabric p).1 = .ok ())
    (hr : (w.call (.port p k)).fabric.Reads (w.call (.port p k)).rxs p q r) :
    ((w.call (.port p k)).fabric.ring r).frames = [] := by
  have hrun := call_port_eq hport k
  have hepoch := (h.call (.port p k)).epoch_ne_zero hr
  cases k with
  | configure rx tx config =>
    rw [hrun.trans (checked_eq_ok hok).2] at hepoch
    refine (hepoch (epoch_resetQueues hport.2 ?_ rx tx q)).elim
    exact fun _ => rfl
  | setupRx j n =>
    obtain rfl : j = q := hk
    obtain ⟨hinstalled, hempty⟩ := Installed.start h hport hok
    rwa [hr.unique hinstalled.reads (h.call _).handed] at hempty
  | close =>
    rw [hrun.trans (checked_eq_ok hok).2] at hepoch
    refine (hepoch (epoch_resetQueues hport.2 ?_ 0 0 q)).elim
    exact fun _ => rfl
  | _ => exact absurd hk id

theorem base_call_renew (w : Client) : (w.call (.registry .renew)).fabric.base =
    (w.call (.registry .renew)).fabric.ports.size := base_renew w.fabric _

theorem call_port_cases (w : Client) (p : Nat) (k : PortCall) :
    w.IsPort p ∧ (k.run w.fabric p).1 = .ok () ∨ w.call (.port p k) = w := by
  have hcheck : ∀ {check : Except Fault Unit} {effect : Fabric → Fabric},
      (w.fabric.checked check effect).1 = .ok () ∨
        (w.fabric.checked check effect).2 = w.fabric := by
    intro check effect
    rcases checked_cases w.fabric check effect with ⟨-, heq⟩ | ⟨e, heq⟩
    · exact .inl (congrArg Prod.fst heq)
    · exact .inr (congrArg Prod.snd heq)
  have hrun : (k.run w.fabric p).1 = .ok () ∨ (k.run w.fabric p).2 = w.fabric := by
    cases k with
    | setPromiscuous on => exact .inl rfl
    | resetStats => exact .inl rfl
    | _ => exact hcheck
  by_cases hport : w.IsPort p
  · have hcall : w.call (.port p k) = { w with fabric := (k.run w.fabric p).2 } := if_pos hport
    rw [hcall]
    rcases hrun with hok | hsame
    · exact .inl ⟨hport, hok⟩
    · right
      rw [hsame]
  · exact .inr (if_neg hport)

theorem Wired.frames_of_new (h : w.Wired) (hbase : (w.call c).fabric.base ≤ p)
    (hbefore : w.fabric.base ≤ p) (hr : r ∈ (w.call c).fabric.behind (w.call c).rxs p)
    (hnew : r ∉ w.fabric.behind w.rxs p) : ((w.call c).fabric.ring r).frames = [] := by
  obtain ⟨q, hq⟩ := mem_behind.mp hr
  by_cases hrenews : c.Renews p q
  · cases c with
    | port i k =>
      obtain ⟨rfl, hk⟩ := hrenews
      rcases w.call_port_cases i k with ⟨hport, hok⟩ | hsame
      · exact h.frames_of_renews hk hport hok hq
      · rw [hsame] at hr
        exact absurd hr hnew
    | registry k =>
      cases k with
      | renew =>
        rw [base_call_renew] at hbase
        exact absurd hq ((h.call (.registry .renew)).not_reads_of_size_le hbase)
      | _ => exact absurd hrenews id
    | _ => exact absurd hrenews id
  · -- A queue that keeps its epoch keeps its ring, so the ring is not new after all.
    have hevolves := evolves_call h c
    have hfree : ¬w.Renewed c p q := not_or.mpr ⟨Nat.not_lt.mpr hbefore, hrenews⟩
    have hepoch := (h.call c).epoch_ne_zero hq
    rw [hevolves.inbox p q hfree] at hepoch
    obtain ⟨t, ht⟩ := exists_reads h.handed ((h.fed.queue p q).blank.not.mpr hepoch)
    rw [hq.unique (hevolves.reads p q t hfree ht) (h.call c).handed] at ht
    exact absurd (mem_behind.mpr ⟨q, ht⟩) hnew

theorem Wired.behind_call (h : w.Wired) (hbase : (w.call c).fabric.base ≤ p)
    (hbefore : w.fabric.base ≤ p) (hsize : w.fabric.ports.size ≤ (w.call c).fabric.ports.size)
    (hother : ∀ k, c ≠ .port p k) (hr : r ∈ w.fabric.behind w.rxs p) :
    r ∈ (w.call c).fabric.behind (w.call c).rxs p := by
  obtain ⟨q, hq⟩ := mem_behind.mp hr
  by_cases hrenews : c.Renews p q
  · cases c with
    | port i k => exact absurd (congrArg (Call.port · k) hrenews.1) (hother k)
    | registry k =>
      cases k with
      | renew =>
        rw [base_call_renew] at hbase
        exact absurd hq (Fabric.Wired.not_reads_of_size_le h (hsize.trans hbase))
      | _ => exact absurd hrenews id
    | _ => exact absurd hrenews id
  · have hfree : ¬w.Renewed c p q := not_or.mpr ⟨Nat.not_lt.mpr hbefore, hrenews⟩
    exact mem_behind.mpr ⟨q, (evolves_call h c).reads p q r hfree hq⟩

/-- Without a burst, what waits for a port goes on waiting or is lost with a ring. -/
theorem Wired.waiting_quiet (h : w.Wired) (hquiet : w.Quiet c)
    (hbase : (w.call c).fabric.base ≤ p) (hbefore : w.fabric.base ≤ p) :
    w.waiting p = (w.call c).waiting p + w.scrapped p c := by
  have hafter := h.call c
  -- `scrapped` looks at calls on the port alone: no other call takes a ring from behind it.
  have hlost : w.scrapped p c = (w.fabric.framesOn ((w.fabric.behind w.rxs p).filter
      (· ∉ (w.call c).fabric.behind (w.call c).rxs p))).card := by
    have hnone (hother : ∀ k, c ≠ .port p k) : (w.fabric.behind w.rxs p).filter
        (· ∉ (w.call c).fabric.behind (w.call c).rxs p) = 0 := by
      refine Multiset.filter_eq_nil.mpr fun r hr => not_not.mpr ?_
      exact h.behind_call hbase hbefore hquiet.lasts.size hother hr
    cases c with
    | port i k =>
      rw [scrapped]
      split
      · rfl
      · rename_i hi
        rw [hnone fun k' heq => hi (Call.port.inj heq).1]
        rfl
    | _ =>
      rw [hnone nofun]
      rfl
  rw [hlost, waiting, waiting, ← Multiset.card_add]
  refine congrArg Multiset.card (framesOn_exchange (Fabric.Wired.behind_nodup h p)
    (Fabric.Wired.behind_nodup hafter p) (fun r hr hr' => ?_) fun r hr' hr => ?_)
  · obtain ⟨q, hq⟩ := mem_behind.mp hr
    obtain ⟨q', hq'⟩ := mem_behind.mp hr'
    exact hquiet.keeps.frames r (Fabric.Wired.ring_lt h hq) (.inr (hafter.hasConsumer hq'))
  · exact h.frames_of_new hbase hbefore hr' hr

/-! ## One call -/

/-- What a call sends to port `p` more has arrived at it more, or is lost. -/
def Settles (w : Client) (c : Call) (p s : Nat) : Prop :=
  (w.call c).sent s + w.arrived p =
    w.sent s + (w.call c).arrived p + (w.refused p c + w.scrapped p c + w.strayed p c)

theorem Quiet.counts_nothing (h : w.Quiet c) : w.refused p c = 0 ∧ w.strayed p c = 0 := by
  cases c with
  | queue k =>
    have hidle := h.idle k rfl
    cases k with
    | receive x max => exact ⟨if_neg fun hx => hidle hx.1, rfl⟩
    | send x bs => exact ⟨rfl, if_neg fun hx => hidle hx.1⟩
    | _ => exact ⟨rfl, rfl⟩
  | _ => exact ⟨rfl, rfl⟩

theorem Wired.settles_quiet (h : w.Wired) (hquiet : w.Quiet c)
    (hbase : (w.call c).fabric.base ≤ p) (hbefore : w.fabric.base ≤ p)
    (hp : c ≠ .port p .resetStats) (hs : c ≠ .port s .resetStats) : w.Settles c p s := by
  have hwaiting := h.waiting_quiet hquiet hbase hbefore
  obtain ⟨hrefused, hstrayed⟩ := hquiet.counts_nothing (p := p)
  unfold Settles sent arrived
  rw [hquiet.lasts.stats p hp, hquiet.lasts.stats s hs, hwaiting, hrefused, hstrayed]
  omega

/-- What is sent to a port waits there or goes astray. -/
theorem Wired.waiting_send (h : w.Wired) {x : TxQueue} (hx : x ∈ w.txs) {bs : List Buffer}
    (hbs : ↑bs ≤ w.buffers) :
    (w.send x bs).waiting p + w.strayed p (.queue (.send x bs)) =
      w.waiting p + if x.peer = p then (w.fabric.carried x bs).length else 0 := by
  have hring : ∀ r, (w.send x bs).fabric.ring r = _ :=
    w.fabric.ring_txBurst x bs (Fabric.Wired.tx_ring_lt h hx)
  have hbehind : (w.send x bs).fabric.behind (w.send x bs).rxs p = w.fabric.behind w.rxs p :=
    behind_of_tables (w.fabric.sameTables_txBurst x bs) p
  have hmem := Fabric.Wired.mem_behind_iff_of_tx (p := p) h hx
  have hothers : ∀ r ≠ x.ring, (w.send x bs).fabric.ring r = w.fabric.ring r :=
    fun r hr => (hring r).trans (if_neg hr)
  rw [waiting, waiting, hbehind, strayed]
  by_cases hread : x.ring ∈ w.fabric.behind w.rxs p
  · obtain ⟨hpeer, hepoch⟩ := hmem.mp hread
    obtain ⟨rest, hold, hnew⟩ :=
      framesOn_split (f := w.fabric) (Fabric.Wired.behind_nodup h p) hread
    rw [hold, hnew _ hothers, hring, if_pos rfl, if_pos hpeer,
      if_neg fun hstale => hstale.2.2 hepoch]
    simp only [Multiset.card_add, Multiset.coe_card, List.length_append]
    omega
  · rw [framesOn_congr fun r hr => congrArg Ring.frames (hothers r ?_)]
    · by_cases hpeer : x.peer = p
      · rw [if_pos hpeer, if_pos ⟨⟨hx, hbs⟩, hpeer, fun hepoch => hread (hmem.mpr ⟨hpeer, hepoch⟩)⟩]
      · rw [if_neg hpeer, if_neg fun hstale => hpeer hstale.2.1]
    · rintro rfl
      exact hread hr

theorem Wired.settles_send (h : w.Wired) (hm : w.fabric.Mates p s) {x : TxQueue} (hx : x ∈ w.txs)
    {bs : List Buffer} (hbs : ↑bs ≤ w.buffers) : w.Settles (.queue (.send x bs)) p s := by
  have hcall : w.call (.queue (.send x bs)) = w.send x bs := if_pos ⟨hx, hbs⟩
  have hfabric : (w.send x bs).fabric = (w.fabric.txBurst x bs).2.2 := rfl
  obtain ⟨hsent, -, -⟩ := w.fabric.stats_txBurst (h.handed.port_lt hx) bs s
  obtain ⟨-, hreceived, herrors⟩ := w.fabric.stats_txBurst (h.handed.port_lt hx) bs p
  have hwaiting := h.waiting_send (p := p) hx hbs
  have hrefused : w.refused p (.queue (.send x bs)) = 0 := rfl
  have hscrapped : w.scrapped p (.queue (.send x bs)) = 0 := rfl
  simp only [hm.port_eq_iff h.handed hx] at hsent
  unfold Settles sent arrived
  rw [hcall, hfabric, hsent, hreceived, herrors]
  omega

theorem Wired.waiting_receive (h : w.Wired) {x : RxQueue} (hx : x ∈ w.rxs) (max : Nat) :
    w.waiting p = (w.receive x max).waiting p +
      if p = x.port then (w.fabric.fetched x max).length else 0 := by
  obtain ⟨rest, hrest, hall⟩ :=
    w.fabric.ring_rxBurst x max (Fabric.Wired.ring_lt h (.inr hx))
  have hring : ∀ r, (w.receive x max).fabric.ring r = _ := hall
  have hbehind : (w.receive x max).fabric.behind (w.receive x max).rxs p =
      w.fabric.behind w.rxs p := behind_of_tables (w.fabric.sameTables_rxBurst x max) p
  have hmem := Fabric.Wired.mem_behind_iff_of_rx (p := p) h hx
  have hothers : ∀ r ≠ x.ring, (w.receive x max).fabric.ring r = w.fabric.ring r :=
    fun r hr => (hring r).trans (if_neg hr)
  rw [waiting, waiting, hbehind]
  by_cases hport : x.port = p
  · obtain ⟨others, hold, hnew⟩ :=
      framesOn_split (f := w.fabric) (Fabric.Wired.behind_nodup h p) (hmem.mpr hport)
    rw [hold, hnew _ hothers, hring, if_pos rfl, if_pos hport.symm, hrest]
    simp only [Multiset.card_add, Multiset.coe_card, List.length_append]
    omega
  · rw [framesOn_congr fun r hr => congrArg Ring.frames (hothers r ?_), if_neg (Ne.symm hport)]
    · rfl
    · rintro rfl
      exact hport (hmem.mp hr)

theorem Wired.settles_receive (h : w.Wired) {x : RxQueue} (hx : x ∈ w.rxs) (max : Nat) :
    w.Settles (.queue (.receive x max)) p s := by
  have hcall : w.call (.queue (.receive x max)) = w.receive x max := if_pos hx
  have hfabric : (w.receive x max).fabric = (w.fabric.rxBurst x max).2 := rfl
  have hport := lt_size_of_rx (h.handed.putRx_eq hx).1
  obtain ⟨hsent, -, -⟩ := w.fabric.stats_rxBurst hport max s
  obtain ⟨-, hreceived, herrors⟩ := w.fabric.stats_rxBurst hport max p
  have hwaiting := h.waiting_receive (p := p) hx max
  have hscrapped : w.scrapped p (.queue (.receive x max)) = 0 := rfl
  have hstrayed : w.strayed p (.queue (.receive x max)) = 0 := rfl
  have hverdicts := length_eq_verdicts ((w.fabric.port x.port).judge w.fabric.store)
    (w.fabric.fetched x max)
  unfold Settles sent arrived
  rw [hcall, hfabric, hsent, hreceived, herrors]
  by_cases hp : p = x.port
  · have hrefused : w.refused p (.queue (.receive x max)) = (w.fabric.fetched x max).countP
        ((w.fabric.port x.port).judge w.fabric.store · = .foreign) := by
      rw [refused, if_pos ⟨hx, hp.symm⟩, hp, store]
    rw [if_pos hp] at hwaiting
    rw [if_pos hp, if_pos hp, hrefused]
    dsimp only
    omega
  · have hrefused : w.refused p (.queue (.receive x max)) = 0 :=
      if_neg fun hmine => hp hmine.2.symm
    rw [if_neg hp] at hwaiting
    rw [if_neg hp, if_neg hp]
    omega

theorem Wired.settles (h : w.Wired) (hm : w.fabric.Mates p s)
    (hbase : (w.call c).fabric.base ≤ p) (hbefore : w.fabric.base ≤ p)
    (hp : c ≠ .port p .resetStats) (hs : c ≠ .port s .resetStats) : w.Settles c p s := by
  rcases w.quiet_or_burst c with hquiet | ⟨x, hx, max, rfl, -⟩ | ⟨x, hx, bs, hbs, rfl, -⟩
  · exact h.settles_quiet hquiet hbase hbefore hp hs
  · exact h.settles_receive hx max
  · exact h.settles_send hm hx hbs

/-! ## Runs -/

theorem lasts_call (w : Client) (c : Call) :
    Lasts (fun _ => True) w.fabric (w.call c).fabric := by
  rcases w.quiet_or_burst c with hquiet | ⟨x, -, max, -, heq⟩ | ⟨x, -, bs, -, -, heq⟩
  · exact hquiet.lasts.mono fun _ _ => trivial
  · rw [heq]
    exact .of_tables (sameTables_rxBurst _ x max) fun _ hi => absurd trivial hi
  · rw [heq]
    exact .of_tables (sameTables_txBurst _ x bs) fun _ hi => absurd trivial hi

theorem lasts_callAll (calls : List Call) (w : Client) :
    Lasts (fun _ => True) w.fabric (w.callAll calls).fabric := by
  induction calls generalizing w with
  | nil => exact .refl _
  | cons c rest ih => exact (w.lasts_call c).trans (ih (w.call c))

theorem Wired.settles_callAll (calls : List Call) (h : w.Wired)
    (hsize : w.fabric.base ≤ w.fabric.ports.size) (hbase : (w.callAll calls).fabric.base ≤ p)
    (hm : (w.callAll calls).fabric.Mates p s)
    (hp : .port p .resetStats ∉ calls) (hs : .port s .resetStats ∉ calls) :
    (w.callAll calls).sent s + w.arrived p = w.sent s + (w.callAll calls).arrived p +
      (tally (refused p) w calls + tally (scrapped p) w calls + tally (strayed p) w calls) := by
  induction calls generalizing w with
  | nil => rfl
  | cons c rest ih =>
    rw [List.mem_cons, not_or] at hp hs
    -- The ports may be added on the way. That they feed each other and belong to the registry of
    -- the last call is known at the end of the run, and carried back to this call.
    have hfirst := w.lasts_call c
    have hrest := lasts_callAll rest (w.call c)
    obtain ⟨hle, hsize'⟩ := hfirst.base hsize
    have hmiddle := (hrest.base hsize').1.trans hbase
    have hcall := h.settles (hfirst.mates (hrest.mates hm)) hmiddle (hle.trans hmiddle)
      (Ne.symm hp.1) (Ne.symm hs.1)
    have hlater := ih (h.call c) hsize' hbase hm hp.2 hs.2
    rw [Settles] at hcall
    have hcons : w.callAll (c :: rest) = (w.call c).callAll rest := rfl
    rw [tally, tally, tally, hcons]
    omega

/-- What has become of the frames that are sent in a run. -/
structure Conserves (calls : List Call) : Prop where
  burst : ∀ x ∈ (run calls).txs, ∀ bs : List Buffer, ↑bs ≤ (run calls).buffers →
    (run calls).Sends x bs
  /-- As long as nobody resets them, the counters of a port and of its peer add up. -/
  total : ∀ p, (run calls).IsPort p → .port p .resetStats ∉ calls →
    .port ((run calls).fabric.port p).peer .resetStats ∉ calls →
    ((run calls).fabric.port ((run calls).fabric.port p).peer).stats.sentFrames =
      ((run calls).fabric.port p).stats.receivedFrames +
      ((run calls).fabric.port p).stats.receiveErrors + tally (refused p) {} calls +
      (run calls).waiting p + tally (scrapped p) {} calls + tally (strayed p) {} calls

/-- Every frame that a port counts as sent was received by its peer, counted as an error or
refused, waits for the peer or was lost with a ring of the peer, or went astray: it was sent through
a handle from before the peer set its queue up anew, and nobody can ever receive it. -/
theorem conserves_run (calls : List Call) : Conserves calls where
  burst x hx bs hbs := (wired_run calls).sends hx hbs
  total p hport hp hs := by
    have hwired := wired_run calls
    have hsettled := Wired.start.settles_callAll calls (Nat.le_refl 0) hport.1
      (hwired.handed.mates hport.2) hp hs
    have hstart : arrived p {} = 0 ∧ sent ((run calls).fabric.port p).peer {} = 0 := ⟨rfl, rfl⟩
    have hrun : callAll {} calls = run calls := rfl
    rw [hrun, hstart.1, hstart.2] at hsettled
    unfold arrived sent at hsettled
    omega

/-- A port sends a frame after its peer was stopped, got a new ring and was started again. -/
def astray : List Call :=
  [.registry (.createPair "a" "b" (.forwarding 1) (.forwarding 2)),
    .port 0 (.configure 1 1 {}), .port 0 (.setupRx 0 4), .port 0 (.setupTx 0 4), .port 0 .start,
    .port 1 (.configure 1 1 {}), .port 1 (.setupRx 0 4), .port 1 (.setupTx 0 4), .port 1 .start,
    .queue (.takeTx 0 0), .port 1 .stop, .port 1 (.setupRx 0 4), .port 1 .start,
    .pool (.create "pool" { buffers := 1, cacheSize := 0, dataRoom := 8, headroom := 0 } true),
    .pool (.alloc 0), .queue (.send ⟨0, 1, 0, 1, 1⟩ [⟨0, 0, ⟨0, 0⟩⟩])]

/-- Without the frames that went astray the accounts do not balance. -/
theorem not_conserved_astray :
    (run astray).IsPort 1 ∧ .port 1 .resetStats ∉ astray ∧ .port 0 .resetStats ∉ astray ∧
      ((run astray).fabric.port 1).peer = 0 ∧
      ((run astray).fabric.port 0).stats.sentFrames ≠
        ((run astray).fabric.port 1).stats.receivedFrames +
        ((run astray).fabric.port 1).stats.receiveErrors + tally (refused 1) {} astray +
        (run astray).waiting 1 + tally (scrapped 1) {} astray := by
  refine ⟨by decide +kernel, by simp [astray], by simp [astray], ?_⟩
  decide +kernel

end Client
end Dataplane
