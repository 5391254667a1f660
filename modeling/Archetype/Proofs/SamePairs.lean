import Archetype.Proofs.SameEnds
import Archetype.Proofs.Tracking

/-!
# Graphs with the same pairs

A graph keeps its pairs in the order in which they were put in. That order cannot be told from what
the graph answers: every search goes through names in their own order. So graphs with the same pairs
have the same cycles, and a unit that is checked against them has the same problems.

* `SamePairs`                 graphs with the same pairs, in whatever order they were put in;
* `samePairs_ofDeclared`      declarations that ask for the same give such graphs;
* `SamePairs.sameEnds`        they relate the same components, so that they have the same cycles;
* `unitProblems_eq`           a unit has the same problems against both.
-/

namespace Archetype

namespace ConstraintGraph

/-- graphs with the same pairs, in whatever order they were put in -/
structure SamePairs (g g' : ConstraintGraph) : Prop where
  symmetric : g.symmetric = g'.symmetric
  built : g.Built
  built' : g'.Built
  mem_on : ∀ side e, e ∈ g.on side ↔ e ∈ g'.on side

/-- declarations that ask for the same give graphs with the same pairs -/
theorem samePairs_ofDeclared (symmetric : Bool) {xs ys : List (String × Constraints)}
    (h : ∀ side a b, Asks xs side a b ↔ Asks ys side a b) :
    SamePairs (ofDeclared symmetric xs) (ofDeclared symmetric ys) where
  symmetric := by rw [symmetric_ofDeclared, symmetric_ofDeclared]
  built := built_ofDeclared symmetric xs
  built' := built_ofDeclared symmetric ys
  mem_on := by
    rintro side ⟨a, b⟩
    rw [mem_on_ofDeclared, mem_on_ofDeclared, h]

namespace SamePairs

variable {g g' : ConstraintGraph} (h : SamePairs g g')
include h

/-! ## the relations -/

theorem dependsOn_iff (a b : String) : g.DependsOn a b ↔ g'.DependsOn a b := by
  rw [ConstraintGraph.dependsOn_iff, ConstraintGraph.dependsOn_iff, h.mem_on]

theorem mem_conflictsOf (a b : String) : b ∈ g.conflictsOf a ↔ b ∈ g'.conflictsOf a := by
  have hmem : ∀ e, e ∈ g.conflicts ↔ e ∈ g'.conflicts := h.mem_on .conflict
  rw [ConstraintGraph.mem_conflictsOf, ConstraintGraph.mem_conflictsOf, h.symmetric, hmem, hmem]

theorem sorted_conflictsOf (a : String) :
    Names.sorted (g.conflictsOf a) = Names.sorted (g'.conflictsOf a) :=
  Names.sorted_eq (h.built.nodup_conflictsOf a) (h.built'.nodup_conflictsOf a) (h.mem_conflictsOf a)

theorem inConflict_eq : g.inConflict = g'.inConflict := by
  funext a b
  unfold inConflict
  rw [Bool.eq_iff_iff]
  simp only [Bool.or_eq_true, List.contains_iff_mem, h.mem_conflictsOf]

theorem sameEnds : SameEnds g g' := ⟨h.built, h.built', h.dependsOn_iff, h.inConflict_eq⟩

theorem sorted_contradictions (a : String) :
    Names.sorted (g.contradictions a) = Names.sorted (g'.contradictions a) := by
  refine Names.sorted_eq ((h.built.nodup_dependenciesOf a).filter _)
    ((h.built'.nodup_dependenciesOf a).filter _) ?_
  intro b
  rw [mem_contradictions, mem_contradictions, h.dependsOn_iff, h.mem_conflictsOf]

/-! ## what the checks find -/

theorem attachProblems_eq : attachProblems g = attachProblems g' := by
  funext composite present component
  unfold attachProblems
  rw [h.sameEnds.sorted_dependenciesOf, h.sorted_conflictsOf]

theorem declaredFrom_eq (reported : List Edge) (vs : List Validator) :
    declaredFrom g reported vs = declaredFrom g' reported vs := by
  induction vs generalizing reported with
  | nil => rfl
  | cons v vs ih =>
    have hcontradicted : v.contradicted g reported = v.contradicted g' reported := by
      unfold Validator.contradicted
      rw [h.sorted_contradictions]
    simp only [declaredFrom, hcontradicted, ih]

/-- a unit has the same problems against both, if its names mean the same -/
theorem unitProblems_eq (u : SourceUnit) {r r' : Resolver} (hname : ∀ e, r.name? e = r'.name? e)
    (checkCycles : Bool) (d : Declarations) :
    unitProblems u r g checkCycles d = unitProblems u r' g' checkCycles d := by
  have hdeclared : declaredProblems g checkCycles d = declaredProblems g' checkCycles d := by
    unfold declaredProblems cycleProblems
    rw [h.declaredFrom_eq, h.sameEnds.cycles_eq]
  have htemplates : templateProblems g d = templateProblems g' d := by
    refine templateProblems_related .eq (fun composite present component pos => ?_) d
    unfold attachReports
    rw [h.attachProblems_eq]
  have htrack : trackProblems g r u.body = trackProblems g' r' u.body :=
    trackProblems_congr hname (fun present component => by rw [h.attachProblems_eq]) u.body
  unfold unitProblems
  rw [hdeclared, htrack, htemplates, h.sameEnds.queryProblems_eq]

end SamePairs

end ConstraintGraph

end Archetype
