/-! # Named registers

A finite map from names to values. A name occurs at most once: storing under a name that is taken
replaces the old value.
-/
namespace Dataplane

structure Registers (α : Type) where
  entries : List (String × α) := []
  distinct : (entries.map Prod.fst).Nodup := by simp
  deriving Repr

namespace Registers

variable {α : Type}

def get? (r : Registers α) (name : String) : Option α := r.entries.lookup name

def erase (r : Registers α) (name : String) : Registers α where
  entries := r.entries.filter fun e => e.1 ≠ name
  distinct := r.distinct.sublist (List.filter_sublist.map Prod.fst)

def put (r : Registers α) (name : String) (a : α) : Registers α where
  entries := (name, a) :: (r.erase name).entries
  distinct := by
    refine List.nodup_cons.mpr ⟨fun hmem => ?_, (r.erase name).distinct⟩
    obtain ⟨e, he, hname⟩ := List.mem_map.mp hmem
    simpa [hname] using (List.mem_filter.mp he).2

def values (r : Registers α) : List α := r.entries.map Prod.snd

theorem lookup_filter_ne {entries : List (String × α)} {name other : String} :
    (entries.filter fun e => e.1 ≠ other).lookup name =
      if name = other then none else entries.lookup name := by
  induction entries with
  | nil => simp
  | cons e rest ih =>
    obtain ⟨key, a⟩ := e
    by_cases hk : key = other
    · subst hk
      by_cases hn : name = key
      · subst hn; simpa using ih
      · have : (name == key) = false := by simpa using hn
        simpa [List.lookup_cons, this, hn] using ih
    · by_cases hn : name = key
      · subst hn; simp [hk]
      · have : (name == key) = false := by simpa using hn
        simpa [hk, List.lookup_cons, this] using ih

@[simp] theorem get?_erase (r : Registers α) (name other : String) :
    (r.erase other).get? name = if name = other then none else r.get? name :=
  lookup_filter_ne

@[simp] theorem get?_put (r : Registers α) (name other : String) (a : α) :
    (r.put other a).get? name = if name = other then some a else r.get? name := by
  by_cases h : name = other
  · subst h; simp [get?, put]
  · have hb : (name == other) = false := by simpa using h
    have := get?_erase r name other
    simp only [h, if_false] at this
    simpa [get?, put, List.lookup_cons, hb, h] using this

end Registers
end Dataplane
