import Dataplane.Proofs.Buffer.Copies
import Dataplane.Proofs.Buffer.Fillings
import Dataplane.Proofs.Buffer.Placement
import Dataplane.Proofs.Buffer.Reversal
import Dataplane.Proofs.Client.Accounting

/-! # What a client does through one handle

In every reachable state each live handle lies in its slot, its window can be moved exactly as far
as there is room and back again, and it can be copied and made private exactly while its pool has a
free slot. A call that is refused changes nothing.
-/
namespace Dataplane

open Store

/-! ## Edits that are one operation -/

def Shift.edit (n : Nat) : Shift → Edit
  | prepend => .prepend n
  | append => .append n
  | adj => .adj n
  | trim => .trim n

def Filling.edit (bytes : List UInt8) : Filling → Edit
  | extend => .extend bytes
  | prependBytes => .prependBytes bytes

theorem Shift.run_edit (m : Shift) (s : Store) (b : Buffer) (n : Nat) :
    (m.edit n).run s b = Edit.moved s b (m.move s b n) := by
  cases m <;> rfl

theorem Filling.run_edit (m : Filling) (s : Store) (b : Buffer) (bytes : List UInt8) :
    (m.edit bytes).run s b = Edit.replaced s b (m.apply s b bytes) := by
  cases m <;> rfl

namespace Client

variable {w : Client} {b : Buffer}

theorem call_buffer (hb : b ∈ w.buffers) (e : Edit) :
    w.call (.buffer b e) = w.hold (e.run w.store b).2 (↑(e.run w.store b).1 + w.buffers.erase b) :=
  if_pos hb

theorem hold_self (w : Client) : w.hold w.store w.buffers = w := rfl

theorem call_buffer_of_stay {e : Edit} (h : e.run w.store b = ([b], w.store)) :
    w.call (.buffer b e) = w := by
  by_cases hb : b ∈ w.buffers
  · rw [call_buffer hb, h]
    change w.hold w.store (b ::ₘ w.buffers.erase b) = w
    rw [Multiset.cons_erase hb, hold_self]
  · exact if_neg hb

/-- A granted move trades the handle for the moved one, and that is all. -/
theorem call_shift (hb : b ∈ w.buffers) {m : Shift} {n : Nat} {c : Buffer}
    (hc : m.move w.store b n = .ok c) :
    w.call (.buffer b (m.edit n)) = w.hold w.store (c ::ₘ w.buffers.erase b) := by
  rw [call_buffer hb, m.run_edit, hc]
  rfl

/-- After two granted moves nothing is left of the handle in between. -/
theorem call_shift_twice (hb : b ∈ w.buffers) {m k : Shift} {i j : Nat} {c d : Buffer}
    (hc : m.move w.store b i = .ok c) (hd : k.move w.store c j = .ok d) :
    (w.call (.buffer b (m.edit i))).call (.buffer c (k.edit j)) =
      w.hold w.store (d ::ₘ w.buffers.erase b) := by
  have hmem : c ∈ (w.hold w.store (c ::ₘ w.buffers.erase b)).buffers := Multiset.mem_cons_self c _
  have herase : (c ::ₘ w.buffers.erase b).erase c = w.buffers.erase b :=
    Multiset.erase_cons_head c _
  rw [call_shift hb hc, call_shift hmem hd]
  change w.hold w.store (d ::ₘ (c ::ₘ w.buffers.erase b).erase c) = _
  rw [herase]

theorem Balanced.ledger_of_live (h : w.Balanced) (hb : b ∈ w.live) :
    w.store.Ledger (b ::ₘ w.live.erase b) w.cached := by
  rw [Multiset.cons_erase hb]
  exact h.ledger

/-! ## Windows -/

/-- Pools are made for all configurations that pass the check, as far as there is memory for them.
Every live handle then lies in its slot, and the ends of its window move as they are told to, or not
at all. -/
structure Windowed (w : Client) : Prop where
  created : ∀ name c hasMemory,
    (∃ r, w.store.create name c hasMemory = .ok r) ↔ c.validate = .ok () ∧ hasMemory = true
  seated : ∀ b ∈ w.live, w.store.Seated b
  movable : ∀ b ∈ w.live, w.store.Movable b
  moved : ∀ b ∈ w.buffers, ∀ (m : Shift) n c, m.move w.store b n = .ok c →
    w.call (.buffer b (m.edit n)) = w.hold w.store (c ::ₘ w.buffers.erase b)
  unmoved : ∀ b (m : Shift) n, m.roomOf w.store b < n → w.call (.buffer b (m.edit n)) = w
  filled : ∀ b ∈ w.buffers, ∀ (m : Filling) bytes c t, m.apply w.store b bytes = .ok (c, t) →
    w.call (.buffer b (m.edit bytes)) = w.hold t (c ::ₘ w.buffers.erase b)
  unfilled : ∀ b (m : Filling) bytes e, m.apply w.store b bytes = .error e →
    w.call (.buffer b (m.edit bytes)) = w

theorem Balanced.windowed (h : w.Balanced) : w.Windowed where
  created name c hasMemory :=
    (w.store.create_isOk_iff name c hasMemory).trans (and_congr_left' c.validate_eq_ok_iff.symm)
  seated _ hb := h.ledger.seated hb
  movable _ hb := h.ledger.movable hb
  moved _ hb _ _ _ hc := call_shift hb hc
  unmoved b m n hn := by
    apply call_buffer_of_stay
    rw [m.run_edit, m.move_eq_error hn]
    rfl
  filled b hb m bytes c t hc := by
    rw [call_buffer hb, m.run_edit, hc]
    rfl
  unfilled b m bytes e he := by
    apply call_buffer_of_stay
    rw [m.run_edit, he]
    rfl

/-- Whatever was called, no window leaves its slot: every operation on one is granted exactly when
there is room for it, reckons without wrapping around, and is else refused without a trace. -/
theorem windowed_run (calls : List Call) : (run calls).Windowed := (balanced_run calls).windowed

/-! ## Moves there and back -/

/-- What was granted to a live handle is taken back when that is asked for, which restores the
handle, and what is granted in two steps is what is granted in one. A client sees just that, and
finds the store and its other handles as they were. -/
structure Reversible (w : Client) : Prop where
  undone : ∀ b ∈ w.live, ∀ (m : Shift) n c, m.move w.store b n = .ok c →
    m.inverse.move w.store c n = .ok b
  shown : ∀ b ∈ w.live, ∀ (m : Shift) n c, m.move w.store b n = .ok c →
    m.Shows n (w.store.data b) (w.store.data c)
  joined : ∀ b ∈ w.live, ∀ (m : Shift) i j d,
    (∃ c, m.move w.store b i = .ok c ∧ m.move w.store c j = .ok d) ↔
      m.move w.store b (i + j) = .ok d
  replaced : ∀ b ∈ w.buffers, ∀ (m : Shift) n c, m.move w.store b n = .ok c →
    w.call (.buffer b (m.edit n)) = w.hold w.store (c ::ₘ w.buffers.erase b)
  restored : ∀ b ∈ w.buffers, ∀ (m : Shift) n c, m.move w.store b n = .ok c →
    (w.call (.buffer b (m.edit n))).call (.buffer c (m.inverse.edit n)) = w
  merged : ∀ b ∈ w.buffers, ∀ (m : Shift) i j c d, m.move w.store b i = .ok c →
    m.move w.store c j = .ok d →
      (w.call (.buffer b (m.edit i))).call (.buffer c (m.edit j)) =
        w.call (.buffer b (m.edit (i + j)))

theorem Balanced.reversible (h : w.Balanced) : w.Reversible := by
  have hlive {b : Buffer} (hb : b ∈ w.buffers) : b ∈ w.live := Multiset.mem_add.mpr (.inl hb)
  refine
    { undone := fun _ hb m _ _ hc => h.ledger.move_inverse hb m hc
      shown := fun _ hb m _ _ hc => h.ledger.shows hb m hc
      joined := fun _ hb m i j _ => h.ledger.move_add hb m i j
      replaced := fun _ hb _ _ _ hc => call_shift hb hc
      restored := ?_
      merged := ?_ }
  · intro b hb m n c hc
    have hback := h.ledger.move_inverse (hlive hb) m hc
    rw [call_shift_twice hb hc hback, Multiset.cons_erase hb, hold_self]
  · intro b hb m i j c d hc hd
    have hsum := (h.ledger.move_add (hlive hb) m i j).mp ⟨c, hc, hd⟩
    rw [call_shift_twice hb hc hd, call_shift hb hsum]

/-- Whatever was called, moving one end of a window and moving it back restores the handle with all
that it shows, and two moves of one kind are as good as one by their sum. -/
theorem reversible_run (calls : List Call) : (run calls).Reversible :=
  (balanced_run calls).reversible

/-! ## Fillings -/

/-- What filling through a live handle does, and that a client sees just that: a filled handle takes
the place of the old one, and a refusal leaves all as it was. -/
structure Fills (w : Client) : Prop where
  fills : ∀ b ∈ w.live, w.store.Fills (w.live.erase b) b
  replaced : ∀ b ∈ w.buffers, ∀ (m : Filling) bytes c t, m.apply w.store b bytes = .ok (c, t) →
    w.call (.buffer b (m.edit bytes)) = w.hold t (c ::ₘ w.buffers.erase b)
  refused : ∀ b (m : Filling) bytes e, m.apply w.store b bytes = .error e →
    w.call (.buffer b (m.edit bytes)) = w

theorem Balanced.fills (h : w.Balanced) : w.Fills where
  fills _ hb := (h.ledger_of_live hb).fills
  replaced := h.windowed.filled
  refused := h.windowed.unfilled

/-- Whatever was called, bytes can be added in front of a window or behind it exactly when no other
handle names the slot and there is room for all of them. They then stand next to what was shown, and
no refusal leaves a window behind that has grown. -/
theorem fills_run (calls : List Call) : (run calls).Fills := (balanced_run calls).fills

/-! ## Copies -/

/-- What making a live handle private and copying it do, and that a client sees just that: the new
handle takes the place of the old one or stands beside it, and a fault leaves all as it was. -/
structure Copying (w : Client) : Prop where
  unshares : ∀ b ∈ w.live, w.store.Unshares (w.live.erase b) b
  duplicates : ∀ b ∈ w.live, w.store.Duplicates (w.live.erase b) b
  unshared : ∀ b ∈ w.buffers, ∀ c t, w.store.unshare b = .ok (c, t) → ∀ start bytes,
    w.call (.buffer b (.writeCopy start bytes)) =
      w.hold (Edit.fill t c start bytes) (c ::ₘ w.buffers.erase b)
  refused : ∀ b e, w.store.unshare b = .error e → ∀ start bytes,
    w.call (.buffer b (.writeCopy start bytes)) = w
  doubled : ∀ b ∈ w.buffers, ∀ c t, w.store.duplicate b = .ok (c, t) →
    w.call (.buffer b .duplicate) = w.hold t (c ::ₘ w.buffers)
  undoubled : ∀ b e, w.store.duplicate b = .error e → w.call (.buffer b .duplicate) = w

theorem Balanced.copying (h : w.Balanced) : w.Copying where
  unshares _ hb := (h.ledger_of_live hb).unshares
  duplicates _ hb := (h.ledger_of_live hb).duplicates
  unshared b hb c t hc start bytes := by
    rw [call_buffer hb, Edit.run, hc]
    rfl
  refused b e he start bytes := by
    apply call_buffer_of_stay
    rw [Edit.run, he]
  doubled b hb c t hc := by
    have hpair : (↑[b, c] : Multiset Buffer) + w.buffers.erase b = c ::ₘ w.buffers := by
      rw [← Multiset.cons_coe, Multiset.coe_singleton, Multiset.cons_add, Multiset.singleton_add,
        Multiset.cons_swap, Multiset.cons_erase hb]
    rw [call_buffer hb, Edit.run, hc, ← hpair]
  undoubled b e he := by
    apply call_buffer_of_stay
    rw [Edit.run, he]

/-- Whatever was called, a handle can be made private exactly when it is alone on its slot or there
is a free slot for a copy, and it can be copied exactly when there is a free slot. -/
theorem copying_run (calls : List Call) : (run calls).Copying := (balanced_run calls).copying

end Client
end Dataplane
