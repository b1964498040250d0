/-! # Queues of free slots

The slot freed first is taken first. The queue is kept in two parts, the slots to be taken next and
the slots freed since, so that neither end has to be searched for, and with its length, so that it
need not be counted; `toList` is the queue as a whole.
-/
namespace Dataplane

structure FreeQueue where
  front : List Nat
  /-- The slot freed last comes first. -/
  back : List Nat
  size : Nat
  size_eq : size = front.length + back.length
  deriving DecidableEq, Repr

namespace FreeQueue

instance : Inhabited FreeQueue := ⟨⟨[], [], 0, rfl⟩⟩

def toList (q : FreeQueue) : List Nat := q.front ++ q.back.reverse

def ofList (slots : List Nat) : FreeQueue := ⟨slots, [], slots.length, rfl⟩

def push (q : FreeQueue) (i : Nat) : FreeQueue :=
  ⟨q.front, i :: q.back, q.size + 1, by rw [q.size_eq, List.length_cons, Nat.add_assoc]⟩

def pop? (q : FreeQueue) : Option (Nat × FreeQueue) :=
  match hf : q.front with
  | i :: rest =>
    some (i, ⟨rest, q.back, q.size - 1, by rw [q.size_eq, hf, List.length_cons]; omega⟩)
  | [] =>
    match hb : q.back.reverse with
    | i :: rest =>
      have hsize : q.size - 1 = rest.length := by
        have hlength : q.back.length = rest.length + 1 := by rw [← List.length_reverse, hb]; rfl
        rw [q.size_eq, hf, hlength]
        simp
      some (i, ⟨rest, [], q.size - 1, hsize⟩)
    | [] => none

@[simp] theorem toList_ofList (slots : List Nat) : (ofList slots).toList = slots := by
  simp [ofList, toList]

@[simp] theorem toList_default : (default : FreeQueue).toList = [] := rfl

@[simp] theorem length_toList (q : FreeQueue) : q.toList.length = q.size := by
  simp [toList, q.size_eq]

@[simp] theorem toList_push (q : FreeQueue) (i : Nat) : (q.push i).toList = q.toList ++ [i] := by
  simp [push, toList]

theorem pop?_eq_none_iff (q : FreeQueue) : q.pop? = none ↔ q.toList = [] := by
  unfold pop? toList
  split
  · rename_i hf
    simp [hf]
  · rename_i hf
    split
    · rename_i hb
      simp [hb]
    · rename_i hb
      simp [hf, hb]

theorem toList_of_pop? {q r : FreeQueue} {i : Nat} (h : q.pop? = some (i, r)) :
    q.toList = i :: r.toList := by
  unfold pop? at h
  split at h
  · rename_i hf
    cases h
    simp [toList, hf]
  · rename_i hf
    split at h
    · rename_i hb
      cases h
      simp [toList, hf, hb]
    · cases h

end FreeQueue
end Dataplane
