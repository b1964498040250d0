import Mathlib.Data.List.Basic
import Dataplane.Flat.Queues
import Dataplane.Proofs.Pool.Allocation

/-! # Arrays of handles

A call that takes an array reads the handles of its entries, and one that fills an array stores a
handle in every entry from the first on. Lookup says what either leaves behind: the entries named
have changed as the call says, and all other registers are as they were.
-/
namespace Dataplane

def entryName (array : String) (i : Nat) : String := s!"{array}{i}"

theorem entryName_inj {array : String} {i j : Nat} (h : entryName array i = entryName array j) :
    i = j := by
  have htext : toString i = toString j := by
    simpa [entryName] using h
  have hvalue : ∀ n, Nat.ofDigitChars 10 (Nat.toDigits 10 n) 0 = n :=
    fun _ => Nat.ofDigitChars_ten_toDigits
  rw [Nat.toString_eq_ofList_toDigits, Nat.toString_eq_ofList_toDigits, String.ofList_inj] at htext
  rw [← hvalue i, htext, hvalue]

namespace Registers

variable {α : Type}

theorem get?_foldl_erase (r : Registers α) (names : List String) (name : String) :
    (names.foldl erase r).get? name = if name ∈ names then none else r.get? name := by
  induction names generalizing r with
  | nil => simp
  | cons other rest ih =>
    rw [List.foldl_cons, ih, get?_erase]
    by_cases hrest : name ∈ rest
    · simp [hrest]
    · by_cases hother : name = other <;> simp [hrest, hother]

end Registers

namespace Flat

variable (f : Flat)

def behind (entry : Option String) : Option Buffer := entry.bind f.buffers.get?

theorem entries?_cons (entry : Option String) (array : List (Option String)) :
    f.entries? (entry :: array) = match entry, f.behind entry, f.entries? array with
      | some m, some b, some rest => some ((m, b) :: rest)
      | _, _, _ => none := by
  cases entry with
  | none => simp [entries?]
  | some m =>
    cases hb : f.buffers.get? m with
    | none => simp [entries?, behind, hb]
    | some b =>
      cases hrest : f.entries? array with
      | none =>
        simp only [entries?, List.mapM_cons] at hrest ⊢
        rw [hrest]
        simp [behind, hb]
      | some rest =>
        simp only [entries?, List.mapM_cons] at hrest ⊢
        rw [hrest]
        simp [behind, hb]

theorem entries?_eq_none_iff {array : List (Option String)} :
    f.entries? array = none ↔ ∃ entry ∈ array, f.behind entry = none := by
  induction array with
  | nil => simp [entries?]
  | cons entry rest ih =>
    rw [entries?_cons, List.exists_mem_cons_iff, ← ih]
    cases entry with
    | none => simp [behind]
    | some m => cases hb : f.behind (some m) <;> cases f.entries? rest <;> simp

theorem entries?_of_held {entries : List (String × Buffer)}
    (h : ∀ e ∈ entries, f.buffers.get? e.1 = some e.2) :
    f.entries? (entries.map fun e => some e.1) = some entries := by
  induction entries with
  | nil => rfl
  | cons e rest ih =>
    have hhead : f.behind (some e.1) = some e.2 := h e List.mem_cons_self
    rw [List.map_cons, entries?_cons, hhead, ih fun x hx => h x (List.mem_cons_of_mem e hx)]

theorem held_of_entries? {array : List (Option String)} {entries : List (String × Buffer)}
    (h : f.entries? array = some entries) :
    array = entries.map (fun e => some e.1) ∧ ∀ e ∈ entries, f.buffers.get? e.1 = some e.2 := by
  induction array generalizing entries with
  | nil =>
    cases h
    exact ⟨rfl, fun e he => nomatch he⟩
  | cons entry rest ih =>
    rw [entries?_cons] at h
    split at h
    · rename_i m b found hfound hb
      cases h
      obtain ⟨hrest, hheld⟩ := ih hfound
      refine ⟨by rw [hrest]; rfl, fun e he => ?_⟩
      rcases List.mem_cons.mp he with rfl | he
      · exact hb
      · exact hheld e he
    · cases h

theorem get?_forget (ms : List String) (m : String) :
    (f.forget ms).buffers.get? m = if m ∈ ms then none else f.buffers.get? m :=
  f.buffers.get?_foldl_erase ms m

/-! ## Moving buffers into registers -/

variable {f}

theorem refill_eq (entries : List (String × Buffer)) :
    f.refill entries = { f with buffers := (f.refill entries).buffers } := by
  induction entries generalizing f with
  | nil => rfl
  | cons e rest ih => exact ih (f := f.setBuffer e.1 e.2)

theorem get?_refill_of_notMem {entries : List (String × Buffer)} {m : String}
    (h : m ∉ entries.map Prod.fst) : (f.refill entries).buffers.get? m = f.buffers.get? m := by
  induction entries generalizing f with
  | nil => rfl
  | cons e rest ih =>
    rw [List.map_cons, List.mem_cons, not_or] at h
    change ((f.setBuffer e.1 e.2).refill rest).buffers.get? m = _
    rw [ih h.2, setBuffer, Registers.get?_put, if_neg h.1]

theorem get?_refill_of_mem {entries : List (String × Buffer)}
    (hdistinct : (entries.map Prod.fst).Nodup) {e : String × Buffer} (he : e ∈ entries) :
    (f.refill entries).buffers.get? e.1 = some e.2 := by
  induction entries generalizing f with
  | nil => cases he
  | cons x rest ih =>
    rw [List.map_cons, List.nodup_cons] at hdistinct
    change ((f.setBuffer x.1 x.2).refill rest).buffers.get? e.1 = _
    rcases List.mem_cons.mp he with rfl | he
    · rw [get?_refill_of_notMem hdistinct.1, setBuffer, Registers.get?_put, if_pos rfl]
    · exact ih hdistinct.2 he

/-! ## Filling an array -/

/-- The handles that were in `n` entries from `first` on. -/
def replaced (f : Flat) (array : String) (first n : Nat) : List Buffer :=
  (List.range' first n).filterMap fun i => f.buffers.get? (entryName array i)

/-- From `f` to `g`, handles were put into the first entries of an array. Ports, rings and pools
were `fabric` before. -/
structure Stored (f : Flat) (array : String) (bs : List Buffer) (fabric : Fabric) (g : Flat) :
    Prop where
  entries : ∀ i b, bs[i]? = some b → g.buffers.get? (entryName array i) = some b
  others : ∀ m, (∀ i < bs.length, m ≠ entryName array i) → g.buffers.get? m = f.buffers.get? m
  /-- Handles that were in the entries filled are given up. -/
  replaced : g.fabric = fabric.updateStore (·.dropAll (f.replaced array 0 bs.length))
  clean : (∀ i < bs.length, f.buffers.get? (entryName array i) = none) → g.fabric = fabric
  rest : g = { f with fabric := g.fabric, buffers := g.buffers }

theorem keepArray_cons (array : String) (first : Nat) (b : Buffer) (rest : List Buffer) :
    f.keepArray array first (b :: rest) =
      (f.keepBuffer (entryName array first) b).keepArray array (first + 1) rest := rfl

theorem get?_keepBuffer (m : String) (b : Buffer) (name : String) :
    (f.keepBuffer m b).buffers.get? name = if name = m then some b else f.buffers.get? name :=
  f.buffers.get?_put name m b

theorem get?_keepArray_of_lt {array : String} {first i : Nat} {bs : List Buffer}
    (h : i < first) :
    (f.keepArray array first bs).buffers.get? (entryName array i) =
      f.buffers.get? (entryName array i) := by
  induction bs generalizing f first with
  | nil => rfl
  | cons b rest ih =>
    rw [keepArray_cons, ih (Nat.lt_succ_of_lt h), get?_keepBuffer, if_neg]
    exact fun heq => absurd (entryName_inj heq) (Nat.ne_of_lt h)

theorem get?_keepArray_entry {array : String} {first i : Nat} {bs : List Buffer} {b : Buffer}
    (h : bs[i]? = some b) :
    (f.keepArray array first bs).buffers.get? (entryName array (first + i)) = some b := by
  induction bs generalizing f first i with
  | nil => cases h
  | cons x rest ih =>
    rw [keepArray_cons]
    cases i with
    | zero =>
      rw [Nat.add_zero]
      refine (get?_keepArray_of_lt (Nat.lt_add_one first)).trans ?_
      rw [get?_keepBuffer, if_pos rfl]
      exact h
    | succ i =>
      rw [Nat.add_comm i 1, ← Nat.add_assoc]
      exact ih h

theorem get?_keepArray_other {array : String} {first : Nat} {bs : List Buffer} {m : String}
    (h : ∀ i < bs.length, m ≠ entryName array (first + i)) :
    (f.keepArray array first bs).buffers.get? m = f.buffers.get? m := by
  induction bs generalizing f first with
  | nil => rfl
  | cons b rest ih =>
    have hfirst : m ≠ entryName array first := h 0 (Nat.zero_lt_succ _)
    rw [keepArray_cons, ih, get?_keepBuffer, if_neg hfirst]
    intro i hi
    rw [Nat.add_right_comm first 1 i]
    exact h (i + 1) (Nat.succ_lt_succ hi)

/-- What filling an array does to the pools: handles that were in its entries are given up. -/
theorem keepArray_eq (array : String) (first : Nat) (bs : List Buffer) :
    f.keepArray array first bs =
      { f.setStore (f.store.dropAll (f.replaced array first bs.length)) with
        buffers := (f.keepArray array first bs).buffers } := by
  induction bs generalizing f first with
  | nil => rfl
  | cons b rest ih =>
    have hlater : (f.keepBuffer (entryName array first) b).replaced array (first + 1)
        rest.length = f.replaced array (first + 1) rest.length := by
      refine List.filterMap_congr fun i hi => ?_
      rw [get?_keepBuffer, if_neg]
      intro heq
      have hle := (List.mem_range'_1.mp hi).1
      have hi := entryName_inj heq
      omega
    have hall : f.replaced array first (b :: rest).length =
        (f.buffers.get? (entryName array first)).toList ++
          f.replaced array (first + 1) rest.length := by
      rw [replaced, List.length_cons, List.range'_succ, List.filterMap_cons]
      cases f.buffers.get? (entryName array first) <;> rfl
    have hstore : (f.keepBuffer (entryName array first) b).store =
        f.store.dropAll (f.buffers.get? (entryName array first)).toList := rfl
    rw [keepArray_cons, ih, hlater, hstore, hall, Store.dropAll, Store.dropAll, Store.dropAll,
      List.foldl_append]
    rfl

theorem keepArray_stored (f : Flat) (array : String) (bs : List Buffer) (fabric : Fabric) :
    f.Stored array bs fabric ((f.setFabric fabric).keepArray array 0 bs) := by
  have hparts := keepArray_eq (f := f.setFabric fabric) array 0 bs
  have hfabric : ((f.setFabric fabric).keepArray array 0 bs).fabric =
      fabric.updateStore (·.dropAll (f.replaced array 0 bs.length)) := by
    rw [hparts]
    rfl
  refine ⟨fun i b hi => ?_, fun m hm => ?_, hfabric, fun hempty => ?_, ?_⟩
  · rw [← Nat.zero_add i]
    exact get?_keepArray_entry hi
  · exact get?_keepArray_other fun i hi => by
      rw [Nat.zero_add]
      exact hm i hi
  · have hnone : f.replaced array 0 bs.length = [] := by
      refine List.filterMap_eq_nil_iff.mpr fun i hi => hempty i ?_
      simpa using hi
    rw [hfabric, hnone]
    rfl
  · rw [hparts]
    rfl

end Flat
end Dataplane
