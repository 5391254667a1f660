import Archetype.Analysis
import Archetype.Proofs.Reachability
import Archetype.Proofs.StableSort
import Mathlib.Data.Prod.Lex
import Mathlib.Data.String.Basic

/-!
# Graphs that join the same components

What is shown of a graph does not tell which side declared a conflict: two components are in
conflict if either of them says so. So graphs with the same dependencies that put the same
components in conflict, from whichever side, are shown alike and have the same cycles, and queries
have the same problems against both.

* `mem_nodes_iff`, `mem_pairs_iff`   what is shown, by the relations between components;
* `SameEnds`                         graphs that relate the same components, conflicts being read
                                     from either side;
* `SameEnds.cycles_eq`               they have the same cycles, in the same order;
* `SameEnds.queryProblems_eq`        a query has the same problems against both.
-/

namespace Archetype

/-! ## names and pairs in order -/

theorem Names.byKey_le : ByKey id Names.le := by
  intro a b
  unfold Names.le
  rw [Bool.not_eq_true', decide_eq_false_iff_not]
  exact not_lt

/-- sets of the same names are the same in order -/
theorem Names.sorted_eq {s t : List String} (hs : s.Nodup) (ht : t.Nodup) (h : ∀ x, x ∈ s ↔ x ∈ t) :
    Names.sorted s = Names.sorted t :=
  Names.byKey_le.mergeSort_eq_of_perm ((List.perm_ext_iff_of_nodup hs ht).mpr h) fun _ _ _ _ e => e

theorem Edge.byKey_le : ByKey (fun e : Edge => toLex e) Edge.le := by
  intro e e'
  unfold Edge.le
  rw [Bool.or_eq_true, Bool.and_eq_true, decide_eq_true_iff, beq_iff_eq, Names.byKey_le,
    Prod.Lex.le_iff]
  rfl

/-- sets of the same pairs are the same in order -/
theorem Edge.sorted_eq {s t : List Edge} (hs : s.Nodup) (ht : t.Nodup) (h : ∀ e, e ∈ s ↔ e ∈ t) :
    s.mergeSort Edge.le = t.mergeSort Edge.le :=
  Edge.byKey_le.mergeSort_eq_of_perm ((List.perm_ext_iff_of_nodup hs ht).mpr h) fun _ _ _ _ e =>
    toLex_inj.mp e

theorem nodup_eraseDups : ∀ l : List Edge, l.eraseDups.Nodup
  | [] => List.nodup_nil
  | e :: l => by
    rw [List.eraseDups_cons]
    exact List.nodup_cons.mpr ⟨by simp, nodup_eraseDups (l.filter fun e' => !e' == e)⟩
termination_by l => l.length
decreasing_by exact Nat.lt_succ_of_le (List.length_filter_le ..)

namespace ConstraintGraph

/-! ## what is shown -/

section
variable {g : ConstraintGraph}

theorem inConflict_iff_declared (a b : String) :
    g.inConflict a b = true ↔ (a, b) ∈ g.conflicts ∨ (b, a) ∈ g.conflicts := by
  unfold inConflict
  rw [Bool.or_eq_true, List.contains_iff_mem, List.contains_iff_mem, mem_conflictsOf,
    mem_conflictsOf]
  constructor
  · rintro ((h | ⟨_, h⟩) | (h | ⟨_, h⟩))
    · exact Or.inl h
    · exact Or.inr h
    · exact Or.inr h
    · exact Or.inl h
  · exact Or.imp Or.inl Or.inl

/-- a component is shown if it is related to another, from either side -/
theorem mem_nodes_iff (x : String) :
    x ∈ g.nodes ↔ ∃ y, g.DependsOn x y ∨ g.DependsOn y x ∨ g.inConflict x y = true := by
  have hdep : ∀ a b, g.DependsOn a b ↔ (a, b) ∈ g.dependencies := dependsOn_iff g
  rw [mem_nodes]
  constructor
  · rintro ⟨⟨a, b⟩, he, rfl | rfl⟩
    · refine ⟨b, (List.mem_append.mp he).elim (fun h => Or.inl ((hdep x b).mpr h)) fun h =>
        Or.inr (Or.inr ?_)⟩
      exact (inConflict_iff_declared x b).mpr (Or.inl h)
    · refine ⟨a, (List.mem_append.mp he).elim (fun h => Or.inr (Or.inl ((hdep a x).mpr h))) fun h =>
        Or.inr (Or.inr ?_)⟩
      exact (inConflict_iff_declared x a).mpr (Or.inr h)
  · rintro ⟨y, h | h | h⟩
    · exact ⟨(x, y), List.mem_append_left _ ((hdep x y).mp h), Or.inl rfl⟩
    · exact ⟨(y, x), List.mem_append_left _ ((hdep y x).mp h), Or.inr rfl⟩
    · rcases (inConflict_iff_declared x y).mp h with h | h
      · exact ⟨(x, y), List.mem_append_right _ h, Or.inl rfl⟩
      · exact ⟨(y, x), List.mem_append_right _ h, Or.inr rfl⟩

/-- a pair without an order is the same from both sides -/
theorem unordered_swap (a b : String) : unordered (a, b) = unordered (b, a) := by
  have hle : ∀ x y, Names.le x y = true ↔ x ≤ y := Names.byKey_le
  unfold unordered
  by_cases hab : Names.le a b = true
  · by_cases hba : Names.le b a = true
    · rw [le_antisymm ((hle a b).mp hab) ((hle b a).mp hba)]
    · rw [if_pos hab, if_neg hba]
  · have hba : Names.le b a = true := (hle b a).mpr (le_of_not_ge fun h => hab ((hle a b).mpr h))
    rw [if_neg hab, if_pos hba]

/-- two components are shown as a pair if they are in conflict -/
theorem mem_pairs_iff (e : Edge) :
    e ∈ g.pairs ↔ ∃ a b, g.inConflict a b = true ∧ unordered (a, b) = e := by
  unfold pairs
  rw [List.mem_mergeSort, List.mem_eraseDups, List.mem_map]
  constructor
  · rintro ⟨⟨a, b⟩, h, rfl⟩
    exact ⟨a, b, (inConflict_iff_declared a b).mpr (Or.inl h), rfl⟩
  · rintro ⟨a, b, h, rfl⟩
    rcases (inConflict_iff_declared a b).mp h with h | h
    · exact ⟨(a, b), h, rfl⟩
    · exact ⟨(b, a), h, unordered_swap b a⟩

end

/-! ## graphs that relate the same components -/

/-- graphs with the same dependencies in which the same components are in conflict, whichever of
them says so -/
structure SameEnds (g g' : ConstraintGraph) : Prop where
  built : g.Built
  built' : g'.Built
  dependsOn_iff : ∀ a b, g.DependsOn a b ↔ g'.DependsOn a b
  inConflict_eq : g.inConflict = g'.inConflict

namespace SameEnds

variable {g g' : ConstraintGraph} (h : SameEnds g g')
include h

theorem sorted_dependenciesOf (a : String) :
    Names.sorted (g.dependenciesOf a) = Names.sorted (g'.dependenciesOf a) :=
  Names.sorted_eq (h.built.nodup_dependenciesOf a) (h.built'.nodup_dependenciesOf a)
    (h.dependsOn_iff a)

theorem mem_dependencies (e : Edge) : e ∈ g.dependencies ↔ e ∈ g'.dependencies := by
  obtain ⟨a, b⟩ := e
  have hmem : ∀ g : ConstraintGraph, g.DependsOn a b ↔ (a, b) ∈ g.dependencies :=
    fun g => ConstraintGraph.dependsOn_iff g a b
  rw [← hmem, ← hmem]
  exact h.dependsOn_iff a b

theorem nodes_eq : g.nodes = g'.nodes := by
  have hnodes : ∀ x, x ∈ g.nodes ↔ x ∈ g'.nodes := by
    intro x
    simp only [mem_nodes_iff, h.dependsOn_iff, h.inConflict_eq]
  refine Names.sorted_eq (Names.nodup_unique _) (Names.nodup_unique _) fun x => ?_
  exact (Names.mem_sorted _ x).symm.trans ((hnodes x).trans (Names.mem_sorted _ x))

theorem edges_eq : g.edges = g'.edges :=
  Edge.sorted_eq (h.built.nodup_on .dependency) (h.built'.nodup_on .dependency) h.mem_dependencies

theorem pairs_eq : g.pairs = g'.pairs := by
  have hpairs : ∀ e, e ∈ g.pairs ↔ e ∈ g'.pairs := by
    intro e
    simp only [mem_pairs_iff, h.inConflict_eq]
  refine Edge.sorted_eq (nodup_eraseDups _) (nodup_eraseDups _) fun e => ?_
  exact List.mem_mergeSort.symm.trans ((hpairs e).trans List.mem_mergeSort)

/-! ## the search for cycles -/

theorem dependers_eq : g.dependers = g'.dependers := by
  refine Names.sorted_eq (Names.nodup_unique _) (Names.nodup_unique _) fun x => ?_
  simp only [Names.mem_unique, List.mem_map, h.mem_dependencies]

theorem explore_eq (n : Nat) (path : List String) (s : Sweep) :
    g.explore n path s = g'.explore n path s := by
  induction n generalizing path s with
  | zero => rfl
  | succ n ih =>
    cases path with
    | nil => rfl
    | cons node above =>
      rw [explore, explore, h.sorted_dependenciesOf]
      simp only [ih]

/-- the search goes the same way -/
theorem cycles_eq : g.cycles = g'.cycles := by
  have hsweep : g.sweepFrom = g'.sweepFrom := by
    funext s start
    unfold sweepFrom
    rw [h.nodes_eq, h.explore_eq]
  unfold cycles
  rw [h.dependers_eq, hsweep]

/-! ## queries -/

theorem queryProblems_eq (d : Declarations) : queryProblems g d = queryProblems g' d := by
  unfold queryProblems Query.problems conflictingPairs
  rw [h.inConflict_eq]

end SameEnds

end ConstraintGraph

end Archetype
