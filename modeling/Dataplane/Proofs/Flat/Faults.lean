import Dataplane.Flat.Exec
import Dataplane.Proofs.Buffer.Sharing
import Dataplane.Proofs.Client.Failures

/-! # Faults and their codes

The code of a fault is its number with the sign turned, in 32 bits. Every fault that an operation of
the library returns has a positive number and so a negative code, and no caller takes it for a
result. Faults of the operating system bring numbers of their own and are not among them.
-/
namespace Dataplane
namespace Fault

def of? {α : Type} : Except Fault α → Option Fault
  | .ok _ => none
  | .error e => some e

/-- A fault of the library itself. -/
def isOwn : Fault → Bool
  | system _ => false
  | _ => true

variable {e : Fault}

/-! ## Numbers and their opposites -/

theorem number_pos (h : e.isOwn = true) : 0 < e.number := by
  cases e with
  | system number => cases h
  | _ => exact of_decide_eq_true rfl

/-- What holds of all positive numbers can only fail for a number of the operating system. -/
theorem number_iff {P : Int32 → Prop} (hpos : ∀ n, 0 < n → P n) :
    P e.number ↔ ∀ n, e = .system n → P n := by
  constructor
  · rintro h n rfl
    exact h
  · intro h
    cases hown : e.isOwn with
    | true => exact hpos _ (number_pos hown)
    | false =>
      cases e with
      | system n => exact h n rfl
      | _ => cases hown

theorem number_eq_iff {k : Int32} (hk : ¬ 0 < k) : e.number = k ↔ e = .system k := by
  constructor
  · intro h
    cases e with
    | system n => exact congrArg system h
    | _ => exact absurd (h ▸ number_pos rfl) hk
  · rintro rfl
    rfl

/-- Turning the sign is exact but for the least number, which stays what it is. -/
theorem toInt_code_eq_iff : e.code.toInt = -e.number.toInt ↔ e.number ≠ Int32.minValue := by
  have hleast := Int32.le_toInt e.number
  have hgreatest := Int32.toInt_lt e.number
  rw [code, Int32.toInt_neg, ne_eq, ← Int32.toInt_inj, Int32.toInt_minValue]
  constructor
  · intro h hmin
    rw [hmin] at h
    exact absurd h (by decide)
  · intro hmin
    exact Int.bmod_eq_of_le (by omega) (by omega)

theorem code_eq_zero_iff : e.code = 0 ↔ e.number = 0 := by
  rw [code, ← Int32.neg_inj, Int32.neg_neg, Int32.neg_zero]

/-- The least number is its own code, and so the only other one with a negative code. -/
theorem code_neg_iff : e.code < 0 ↔ 0 < e.number ∨ e.number = Int32.minValue := by
  rw [Int32.lt_iff_le_and_ne, ne_eq, code_eq_zero_iff, code, Int32.neg_nonpos_iff,
    Int32.lt_iff_le_and_ne]
  constructor
  · rintro ⟨hmin | hle, hne⟩
    · exact .inr hmin
    · exact .inl ⟨hle, Ne.symm hne⟩
  · rintro (⟨hle, hne⟩ | hmin)
    · exact ⟨.inr hle, Ne.symm hne⟩
    · refine ⟨.inl hmin, fun hzero => ?_⟩
      exact absurd (hmin.symm.trans hzero) (by decide)

theorem code_neg (h : e.isOwn = true) : e.code < 0 := code_neg_iff.mpr (.inl (number_pos h))

/-! ## Results -/

/-- If there is no result, a fault of the library says why. -/
def Own {α : Type} (r : Except Fault α) : Prop := ∀ e, r = .error e → e.isOwn = true

namespace Own

variable {α β : Type}

theorem ok (a : α) : Own (.ok a) := fun _ h => nomatch h

theorem error {e : Fault} (h : e.isOwn = true) : Own (.error e : Except Fault α) := by
  rintro _ ⟨⟩
  exact h

theorem bind {x : Except Fault α} {k : α → Except Fault β} (hx : Own x)
    (hk : ∀ a, Own (k a)) : Own (x >>= k) := by
  cases x with
  | error e => exact error (hx e rfl)
  | ok a => exact hk a

theorem map {x : Except Fault α} (hx : Own x) (k : α → β) : Own (x.map k) := by
  cases x with
  | error e => exact error (hx e rfl)
  | ok a => exact ok _

theorem ite {c : Prop} [Decidable c] {x y : Except Fault α} (hx : Own x) (hy : Own y) :
    Own (if c then x else y) := by
  split
  · exact hx
  · exact hy

/-! ## Pools and buffers -/

variable {s : Store} {b : Buffer} {p n : Nat}

theorem createPool (s : Store) (name : String) (c : PoolConfig) (hasMemory : Bool) :
    Own (s.create name c hasMemory) := by
  have hvalid : Own c.validate := by
    unfold PoolConfig.validate
    exact ite (error rfl) (ite (error rfl) (ite (error rfl)
      (ite (error rfl) (ok _))))
  have hpool : Own (Pool.create name c hasMemory) := by
    cases hc : c.validate with
    | error e =>
      rw [Pool.create, hc]
      exact error (hvalid e hc)
    | ok _ =>
      rw [Pool.create_of_valid name (c.validate_eq_ok_iff.mp hc)]
      exact ite (ok _) (error rfl)
  exact hpool.bind fun _ => ok _

theorem alloc (s : Store) (p : Nat) : Own (s.alloc p) := by
  intro e h
  rw [(Store.alloc_eq_error h).1]
  rfl

theorem duplicate (s : Store) (b : Buffer) : Own (s.duplicate b) :=
  (alloc s b.pool).bind fun _ => ok _

theorem unshare (s : Store) (b : Buffer) : Own (s.unshare b) :=
  ite ((duplicate s b).bind fun _ => ok _) (ok _)

theorem allocExact {r : Except Fault (List Buffer) × Store} (h : s.allocExact? p n = some r) :
    Own r.1 := by
  rcases Store.allocExact?_eq_some h with rfl | rfl
  · exact error rfl
  · exact ok _

theorem moved (b : Buffer) (n room : Nat) (w : Window) :
    Own (b.withWindow (Window.limited n room w)) :=
  map (ite (error rfl) (ok _)) _

/-! ## Ports and queues -/

variable {f : Fabric}

theorem portOf (f : Fabric) (number : Nat) : Own (f.portOf number) :=
  ite (ok _) (error rfl)

theorem requireStage (x : Port) (allowed : List Stage) (what : String) :
    Own (x.requireStage allowed what) :=
  ite (ok _) (error rfl)

theorem checkQueue (x : Port) (q count : Nat) : Own (x.checkQueue q count) :=
  ite (error rfl) (ok _)

theorem checked {check : Except Fault Unit} (h : Own check) (effect : Fabric → Fabric) :
    Own (f.checked check effect).1 := by
  unfold Fabric.checked
  split
  · exact h
  · exact ok _

theorem checkMtu (mtu : Nat) : Own (Dataplane.checkMtu mtu) := ite (error rfl) (ok _)

theorem runPort (f : Fabric) (p : Nat) (c : PortCall) : Own (c.run f p).1 := by
  cases c with
  | configure rx tx config =>
    exact checked ((requireStage _ _ _).bind fun _ =>
      bind (ite (error rfl) (ok _)) fun _ => checkMtu _) _
  | setupRx q descriptors =>
    exact checked ((requireStage _ _ _).bind fun _ => (checkQueue _ _ _).bind fun _ =>
      ite (error rfl) (ok _)) _
  | setupTx q descriptors =>
    exact checked ((requireStage _ _ _).bind fun _ => (checkQueue _ _ _).bind fun _ =>
      ite (error rfl) (ok _)) _
  | start =>
    exact checked ((requireStage _ _ _).bind fun _ => ite (error rfl) (ok _)) _
  | stop =>
    exact checked ((requireStage _ _ _).bind fun _ => ite (error rfl) (ok _)) _
  | close => exact checked (requireStage _ _ _) _
  | setLink up => exact checked (requireStage _ _ _) _
  | pauseRx q paused =>
    exact checked ((requireStage _ _ _).bind fun _ => checkQueue _ _ _) _
  | pauseTx q paused =>
    exact checked ((requireStage _ _ _).bind fun _ => checkQueue _ _ _) _
  | setMac mac => exact checked (ite (error rfl) (ok _)) _
  | setMtu mtu => exact checked (checkMtu mtu) _
  | setPromiscuous on => exact ok _
  | resetStats => exact ok _

theorem takeable (x : Port) (q count : Nat) : Own (Fabric.takeable x q count) :=
  (requireStage _ _ _).bind fun _ => checkQueue _ _ _

theorem takeRx (f : Fabric) (p q : Nat) : Own (f.takeRx p q).1 := by
  unfold Fabric.takeRx
  split
  · rename_i e he
    exact error (takeable _ _ _ e he)
  · split
    · exact ok _
    · exact error rfl

theorem takeTx (f : Fabric) (p q : Nat) : Own (f.takeTx p q).1 := by
  unfold Fabric.takeTx
  split
  · rename_i e he
    exact error (takeable _ _ _ e he)
  · split
    · dsimp only
      split
      · exact ok _
      · exact error rfl
    · exact error rfl

/-! ## The registry -/

theorem checkName (f : Fabric) (name : String) : Own (f.checkName name) :=
  ite (error rfl) (ok _)

theorem checkRoom (f : Fabric) (n : Nat) : Own (f.checkRoom n) := ite (error rfl) (ok _)

theorem createPair (f : Fabric) (a b : String) (macA macB : Mac) :
    Own (f.createPair a b macA macB).1 := by
  unfold Fabric.createPair
  dsimp only
  split
  · rename_i e he
    refine error (Own.bind (checkName f a) (fun _ => ?_) e he)
    refine (checkName f b).bind fun _ => ?_
    exact ite (bind (error rfl) fun _ => checkRoom f 2) (checkRoom f 2)
  · exact ok _

theorem createLoopback (f : Fabric) (name : String) (mac : Mac) :
    Own (f.createLoopback name mac).1 := by
  unfold Fabric.createLoopback
  dsimp only
  split
  · rename_i e he
    exact error (Own.bind (checkName f name) (fun _ => checkRoom f 1) e he)
  · exact ok _

theorem findPort (f : Flat) (name : String) : Own (f.findPort name) := by
  unfold Flat.findPort
  split
  · exact ok _
  · exact error rfl

end Own

/-! ## Faults that there may be -/

def NoneOrOwn (o : Option Fault) : Prop := ∀ e, o = some e → e.isOwn = true

namespace NoneOrOwn

variable {α : Type}

theorem none : NoneOrOwn Option.none := fun _ h => nomatch h

theorem of {r : Except Fault α} (h : Own r) : NoneOrOwn (of? r) := by
  intro e he
  cases r with
  | ok a => cases he
  | error d =>
    cases he
    exact h _ rfl

theorem bind {o : Option α} {k : α → Option Fault}
    (hk : ∀ a, o = some a → NoneOrOwn (k a)) : NoneOrOwn (o.bind k) := by
  cases o with
  | none => exact none
  | some a => exact hk a rfl

end NoneOrOwn
end Fault
end Dataplane
