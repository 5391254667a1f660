/-!
# Sets of names

A set of names is a list in which no name is repeated by the operations here; where a set is shown
it is sorted.

* `add`, `addAll`   puts names in;
* `sorted`          the names in the order of their code points;
* `unique`          a list of names without its repetitions.
-/

namespace Archetype

/-- a set of names -/
abbrev Names := List String

namespace Names

/-- the order of names: by code points, one after the other -/
def le (a b : String) : Bool := !decide (b < a)

/-- puts a name in -/
def add (s : Names) (name : String) : Names := if name ∈ s then s else s ++ [name]

/-- puts names in -/
def addAll (s : Names) (names : List String) : Names := names.foldl add s

/-- the names in order -/
def sorted (s : List String) : List String := s.mergeSort le

/-- the names of a list, each once, where it first stands -/
def unique (names : List String) : Names := addAll [] names

/-- the names that are in both -/
def both (s t : Names) : Names := s.filter (· ∈ t)

/-- the names of `s` that are not in `t` -/
def without (s t : Names) : Names := s.filter (· ∉ t)

theorem mem_add (s : Names) (name x : String) : x ∈ s.add name ↔ x ∈ s ∨ x = name := by
  unfold add
  split
  · constructor
    · exact Or.inl
    · rintro (h | h)
      · exact h
      · rwa [h]
  · simp

theorem mem_addAll (s : Names) (names : List String) (x : String) :
    x ∈ s.addAll names ↔ x ∈ s ∨ x ∈ names := by
  induction names generalizing s with
  | nil => simp [addAll]
  | cons n ns ih =>
    have h : s.addAll (n :: ns) = (s.add n).addAll ns := rfl
    rw [h, ih, mem_add, List.mem_cons, or_assoc]

theorem mem_sorted (s : List String) (x : String) : x ∈ sorted s ↔ x ∈ s := by
  simp [sorted]

theorem mem_unique (names : List String) (x : String) : x ∈ unique names ↔ x ∈ names := by
  simp [unique, mem_addAll]

end Names

/-- what a list has before the first occurrence of an element -/
theorem takeWhile_ne_append_cons {α : Type} [BEq α] [LawfulBEq α] {a : α} {front : List α}
    (h : a ∉ front) (rest : List α) : (front ++ a :: rest).takeWhile (· != a) = front := by
  have hfront : ∀ b ∈ front, (b != a) = true := fun b hb => bne_iff_ne.mpr fun e => h (e ▸ hb)
  rw [List.takeWhile_append_of_pos hfront, List.takeWhile_cons_of_neg (by simp), List.append_nil]

end Archetype
