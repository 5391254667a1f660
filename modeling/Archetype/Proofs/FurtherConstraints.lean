import Archetype.Proofs.CheckRules
import Archetype.Proofs.Recorded
import Archetype.Proofs.SamePairs
import Archetype.Proofs.Severity
import Mathlib.Data.List.Flatten
import Mathlib.Data.List.Sort

/-!
# What further constraints change

A configuration can declare constraints besides those of the code. More of them only add findings:
every check asks whether something is in the graph, and goes on alike whatever the answer was.
Cycles are left out, as a search that takes a new turn can come upon another cycle first.

* `ConstraintGraph.Within`   a graph whose pairs are all in another;
* `trackProblems_sublist`    code that is followed against more pairs has more problems, in the same
                             order;
* `lasting_unitProblems`     so has a unit, but for its cycles;
* `Config.SeedsWithin`       configurations that differ in the constraints that one adds;
* `seeds_only_add`           their reports.
-/

namespace Archetype

open Code

/-- names of which there are more are still in the same order -/
theorem Names.sorted_sublist {s t : List String} (hs : s.Nodup) (h : ∀ x ∈ s, x ∈ t) :
    (Names.sorted s).Sublist (Names.sorted t) := by
  have hsub : (Names.sorted s).Subperm (Names.sorted t) :=
    ((List.mergeSort_perm s Names.le).subperm.trans (List.subperm_of_subset hs h)).trans
      (List.mergeSort_perm t Names.le).symm.subperm
  have hsorted : ∀ l : List String, (Names.sorted l).Pairwise (· ≤ ·) :=
    Names.byKey_le.pairwise_mergeSort
  exact List.sublist_of_subperm_of_pairwise hsub (hsorted s) (hsorted t)

theorem accumulates_sublist : Accumulates List.Sublist := ⟨List.Sublist.refl _, List.Sublist.append⟩

namespace ConstraintGraph

/-- the pairs of `g` are all in `g'`, and bind both sides there if they do in `g` -/
structure Within (g g' : ConstraintGraph) : Prop where
  symmetric : g.symmetric = true → g'.symmetric = true
  built : g.Built
  mem_on : ∀ side, ∀ e ∈ g.on side, e ∈ g'.on side

/-- declarations that ask for more give a graph with more pairs -/
theorem within_ofDeclared {symmetric symmetric' : Bool} (hs : symmetric = true → symmetric' = true)
    {xs ys : List (String × Constraints)} (h : ∀ side a b, Asks xs side a b → Asks ys side a b) :
    Within (ofDeclared symmetric xs) (ofDeclared symmetric' ys) where
  symmetric := by
    rw [symmetric_ofDeclared, symmetric_ofDeclared]
    exact hs
  built := built_ofDeclared symmetric xs
  mem_on := by
    rintro side ⟨a, b⟩ hab
    rw [mem_on_ofDeclared] at hab ⊢
    exact ⟨hab.1, h side a b hab.2⟩

namespace Within

variable {g g' : ConstraintGraph} (h : Within g g')
include h

/-! ## the relations -/

theorem dependsOn {a b : String} (hab : g.DependsOn a b) : g'.DependsOn a b := by
  rw [dependsOn_iff] at hab ⊢
  exact h.mem_on .dependency (a, b) hab

theorem mem_conflictsOf {a b : String} (hab : b ∈ g.conflictsOf a) : b ∈ g'.conflictsOf a := by
  have hmem : ∀ e ∈ g.conflicts, e ∈ g'.conflicts := h.mem_on .conflict
  rw [ConstraintGraph.mem_conflictsOf] at hab ⊢
  exact hab.imp (hmem _) (And.imp h.symmetric (hmem _))

theorem mem_contradictions {a b : String} (hab : b ∈ g.contradictions a) :
    b ∈ g'.contradictions a := by
  rw [ConstraintGraph.mem_contradictions] at hab ⊢
  exact hab.imp h.dependsOn h.mem_conflictsOf

theorem sorted_dependenciesOf (a : String) :
    (Names.sorted (g.dependenciesOf a)).Sublist (Names.sorted (g'.dependenciesOf a)) :=
  Names.sorted_sublist (h.built.nodup_dependenciesOf a) fun _ hb => h.dependsOn hb

theorem sorted_conflictsOf (a : String) :
    (Names.sorted (g.conflictsOf a)).Sublist (Names.sorted (g'.conflictsOf a)) :=
  Names.sorted_sublist (h.built.nodup_conflictsOf a) fun _ hb => h.mem_conflictsOf hb

theorem sorted_contradictions (a : String) :
    (Names.sorted (g.contradictions a)).Sublist (Names.sorted (g'.contradictions a)) :=
  Names.sorted_sublist ((h.built.nodup_dependenciesOf a).filter _) fun _ hb =>
    h.mem_contradictions hb

theorem inConflict {a b : String} (hab : g.inConflict a b = true) : g'.inConflict a b = true := by
  unfold ConstraintGraph.inConflict at hab ⊢
  rw [Bool.or_eq_true, List.contains_iff_mem, List.contains_iff_mem] at hab ⊢
  exact hab.imp h.mem_conflictsOf h.mem_conflictsOf

/-! ## what the checks find -/

theorem attachProblems_sublist (composite : Composite) (present : Names) (component : String) :
    (attachProblems g composite present component).Sublist
      (attachProblems g' composite present component) := by
  unfold attachProblems
  exact (((h.sorted_dependenciesOf component).filter _).map _).append
    (((h.sorted_conflictsOf component).filter _).map _)

theorem contradicted_sublist (v : Validator) {reported reported' : List Edge}
    (hreported : ∀ a, ∀ b ∈ g.contradictions a, (a, b) ∈ reported ↔ (a, b) ∈ reported') :
    (v.contradicted g reported).Sublist (v.contradicted g' reported') := by
  have hfilter : v.contradicted g reported
      = (Names.sorted (g.contradictions v.subject.name)).filter fun b =>
        !reported'.contains (v.subject.name, b) := by
    refine List.filter_congr fun b hb => ?_
    rw [Names.mem_sorted] at hb
    rw [Bool.eq_iff_iff, Bool.not_eq_true', Bool.not_eq_true', ← Bool.not_eq_true,
      ← Bool.not_eq_true, List.contains_iff_mem, List.contains_iff_mem, hreported _ b hb]
  rw [hfilter]
  exact (h.sorted_contradictions v.subject.name).filter _

/-- what was reported before is kept track of for each graph apart, and tells the same of the pairs
of `g` -/
theorem declaredFrom_sublist (vs : List Validator) {reported reported' : List Edge}
    (hreported : ∀ a, ∀ b ∈ g.contradictions a, (a, b) ∈ reported ↔ (a, b) ∈ reported') :
    (declaredFrom g reported vs).Sublist (declaredFrom g' reported' vs) := by
  induction vs generalizing reported reported' with
  | nil => exact List.Sublist.refl _
  | cons v vs ih =>
    have hcontradictions := (h.contradicted_sublist v hreported).map fun b =>
      (⟨.contradiction v.subject.name b, some (v.contradictionPos b)⟩ : Placed)
    have hnext : ∀ a, ∀ b ∈ g.contradictions a,
        (a, b) ∈ reported ++ (v.contradicted g reported).map (v.subject.name, ·) ↔
          (a, b) ∈ reported' ++ (v.contradicted g' reported').map (v.subject.name, ·) := by
      intro a b hb
      have hb' := h.mem_contradictions hb
      simp only [List.mem_append, List.mem_map, Prod.mk.injEq, Validator.mem_contradicted]
      grind
    exact (((List.Sublist.refl _).append hcontradictions).append (List.Sublist.refl _)).append
      (ih hnext)

theorem attachReports_sublist (composite : Composite) (present : Names) (component : String)
    (pos : Position) :
    (attachReports g composite present component pos).Sublist
      (attachReports g' composite present component pos) :=
  (h.attachProblems_sublist composite present component).map _

theorem templateProblems_sublist (d : Declarations) :
    (templateProblems g d).Sublist (templateProblems g' d) :=
  templateProblems_related accumulates_sublist h.attachReports_sublist d

theorem queryProblems_sublist (d : Declarations) :
    (queryProblems g d).Sublist (queryProblems g' d) := by
  refine List.Sublist.flatMap_right d.queries fun q _ => ?_
  unfold Query.problems
  have hpairs : (conflictingPairs g q.all).Sublist (conflictingPairs g' q.all) :=
    List.monotone_filter_right _ fun _ hab => h.inConflict hab
  exact (List.Sublist.refl _).append (hpairs.map _)

theorem trackProblems_sublist (r : Resolver) (body : List Stmt) :
    (trackProblems g r body).Sublist (trackProblems g' r body) :=
  trackProblems_related accumulates_sublist (h.attachReports_sublist .entity) (fun _ => rfl) body

end Within

end ConstraintGraph

/-! ## problems other than cycles -/

/-- is it something else than a cycle? -/
def Problem.isLasting (p : Problem) : Bool := p.kind != .cycle

theorem lasting_cycleProblems (g : ConstraintGraph) (validators : List Validator) :
    (cycleProblems g validators).filter (·.problem.isLasting) = [] := by
  rw [List.filter_eq_nil_iff]
  intro x hx
  simp [Problem.isLasting, kind_cycleProblems g validators x hx]

/-- a unit that is checked against more pairs has more problems, in the same order, but for its
cycles -/
theorem lasting_unitProblems {g g' : ConstraintGraph} (h : g.Within g') (u : SourceUnit)
    (r : Resolver) (checkCycles : Bool) (d : Declarations) :
    ((unitProblems u r g checkCycles d).filter (·.problem.isLasting)).Sublist
      (unitProblems u r g' checkCycles d) := by
  have hcycles : (if checkCycles then cycleProblems g d.validators else []).filter
      (·.problem.isLasting) = [] := by
    split
    · exact lasting_cycleProblems g d.validators
    · rfl
  have hdeclared : ((declaredProblems g checkCycles d).filter (·.problem.isLasting)).Sublist
      (declaredProblems g' checkCycles d) := by
    unfold declaredProblems
    rw [List.filter_append, hcycles, List.append_nil]
    have hfrom : (declaredFrom g [] d.validators).Sublist (declaredFrom g' [] d.validators) :=
      h.declaredFrom_sublist d.validators fun _ _ _ => Iff.rfl
    exact (List.filter_sublist.trans hfrom).trans (List.sublist_append_left _ _)
  unfold unitProblems
  rw [List.filter_append, List.filter_append, List.filter_append]
  exact ((hdeclared.append (List.filter_sublist.trans (h.trackProblems_sublist r u.body))).append
    (List.filter_sublist.trans (h.templateProblems_sublist d))).append
      (List.filter_sublist.trans (h.queryProblems_sublist d))

/-! ## reports -/

namespace Config

/-- the configurations agree, but for constraints that `c'` has and `c` has not -/
structure SeedsWithin (c c' : Config) : Prop where
  rest : c' = { c with dependencies := c'.dependencies, conflicts := c'.conflicts }
  lists : ∀ side a b, Lists (c.table side) a b → Lists (c'.table side) a b

theorem SeedsWithin.unitGraph_within {c c' : Config} (h : c.SeedsWithin c') (registry : Registry)
    (d : Declarations) :
    (unitGraph registry c d).Within (unitGraph registry c' d) := by
  unfold unitGraph
  rw [h.rest]
  refine ConstraintGraph.within_ofDeclared id fun side a b hab => ?_
  rw [asks_append, asks_append, asks_seed] at hab ⊢
  exact hab.imp_left (Or.imp_right (h.lists side a b))

end Config

/-- Constraints that a configuration adds only add findings. If it agrees with another one in all
but its tables of dependencies and conflicts, and has all that the other lists there, then every
finding of the other, cycles apart, is reported again, with the same level at the same place and in
the same order. -/
theorem seeds_only_add (p : Program) (c c' : Config) (h : c.SeedsWithin c') :
    ((analyzeProgram p c).findings.filter fun f => f.problem.kind != .cycle).Sublist
      (analyzeProgram p c').findings := by
  have hunit : ∀ registry index, ∀ u ∈ p.analyzable,
      ((analyzeUnit u registry index c).filter (·.problem.isLasting)).Sublist
        (analyzeUnit u registry index c') := by
    intro registry index u _
    unfold analyzeUnit
    rw [filter_findings]
    have hseverity : c'.severityOf = c.severityOf := by rw [h.rest]; rfl
    have hcheck : c'.checkCycles = c.checkCycles := by rw [h.rest]
    rw [hseverity, hcheck]
    exact (lasting_unitProblems (h.unitGraph_within registry _) u _ _ _).filterMap _
  rw [analyzeProgram_eq, analyzeProgram_eq]
  unfold programFindings
  show (List.filter (fun f : Finding => f.problem.isLasting) _).Sublist _
  rw [Finding.byKey_le.filter_mergeSort, List.filter_flatMap]
  exact Finding.byKey_le.mergeSort_sublist (List.Sublist.flatMap_right _ (hunit _ _))

/-- a file with a template of one component -/
def singleTemplate : Program := oneFile "w.register_template('T', components=[A])\n"

/-- settings by which the component lacks another -/
def needySettings : Config :=
  { Config.default with checkCycles := false, dependencies := [("A", ["B"])] }

/-- the same with further constraints, in another order -/
def needierSettings : Config :=
  { needySettings with
    dependencies := [("C", ["A"]), ("A", ["D", "B"])],
    conflicts := [("B", ["A"])] }

theorem seedsWithin_needier : needySettings.SeedsWithin needierSettings where
  rest := rfl
  lists := by
    rintro side a b ⟨targets, ht, hb⟩
    cases side with
    | conflict => exact absurd ht List.not_mem_nil
    | dependency =>
      obtain ⟨rfl, rfl⟩ := Prod.mk.inj (List.mem_singleton.mp ht)
      obtain rfl := List.mem_singleton.mp hb
      exact ⟨["D", "B"], by simp [Config.table, needierSettings], by simp⟩

theorem seeds_only_add_needier :
    (analyzeProgram singleTemplate needySettings).findings.map (·.problem)
      = [.missingDependency (.template "T") "A" "B"] ∧
    ((analyzeProgram singleTemplate needySettings).findings.filter fun f =>
      f.problem.kind != .cycle).Sublist
      (analyzeProgram singleTemplate needierSettings).findings :=
  ⟨by decide +kernel,
        seeds_only_add singleTemplate needySettings needierSettings seedsWithin_needier⟩

end Archetype
