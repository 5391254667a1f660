import Archetype.Proofs.FurtherConstraints
import Archetype.Proofs.ProjectGraph

/-!
# Conflicts that bind one side or both

A conflict is declared by one of two components, and a configuration says whether it binds the other
one too. This is asked where a component is looked at alone: when it is attached, and when its own
dependencies and conflicts are compared. A query looks at two components together and a drawing
shows them as a pair, so there it makes no difference.

* `sameEnds_ofDeclared`     the graphs of both modes relate the same components;
* `ShownAlike`              graphs that are drawn and written alike;
* `Problem.isOneSided`      what is reported of a component that a conflict binds;
* `unitProblems_sameRest`   all other problems of a unit are the same;
* `conflict_mode_reach`     the reports, the graphs and the exports of both modes.
-/

namespace Archetype

open Code (Position Stmt)

namespace ConstraintGraph

/-! ## the graphs of both modes -/

theorem sameEnds_ofDeclared (symmetric symmetric' : Bool) (declared : List (String × Constraints)) :
    SameEnds (ofDeclared symmetric declared) (ofDeclared symmetric' declared) where
  built := built_ofDeclared symmetric declared
  built' := built_ofDeclared symmetric' declared
  dependsOn_iff := by
    intro a b
    rw [dependsOn_ofDeclared, dependsOn_ofDeclared]
  inConflict_eq := by
    funext a b
    have hmem : ∀ x y, (x, y) ∈ (ofDeclared symmetric declared).conflicts ↔
        (x, y) ∈ (ofDeclared symmetric' declared).conflicts := by
      intro x y
      have hasked := fun mode => mem_on_ofDeclared mode declared .conflict x y
      exact (hasked symmetric).trans (hasked symmetric').symm
    rw [Bool.eq_iff_iff, inConflict_iff_declared, inConflict_iff_declared, hmem, hmem]

/-- graphs that have the same names, pairs and cycles to show, and are drawn and written alike -/
structure ShownAlike (g g' : ConstraintGraph) : Prop where
  nodes : g.nodes = g'.nodes
  edges : g.edges = g'.edges
  pairs : g.pairs = g'.pairs
  cycles : g.cycles = g'.cycles
  dot : ∀ title, Report.dot g title = Report.dot g' title
  json : Report.graphJson g = Report.graphJson g'

theorem SameEnds.shownAlike {g g' : ConstraintGraph} (h : SameEnds g g') : ShownAlike g g' where
  nodes := h.nodes_eq
  edges := h.edges_eq
  pairs := h.pairs_eq
  cycles := h.cycles_eq
  dot := by
    intro title
    unfold Report.dot
    rw [h.nodes_eq, h.edges_eq, h.pairs_eq]
  json := by
    unfold Report.graphJson
    rw [h.nodes_eq, h.edges_eq, h.pairs_eq, h.cycles_eq]

theorem ShownAlike.graphText_eq {g g' : ConstraintGraph} (h : ShownAlike g g') (root : Path)
    (format : Command.GraphFormat) :
    Command.graphText root g format = Command.graphText root g' format := by
  cases format with
  | dot => exact h.dot _
  | json =>
    unfold Command.graphText
    rw [h.json]

end ConstraintGraph

/-! ## what a conflict that binds the component adds -/

/-- is it about a conflict that binds the component at hand? -/
def Problem.isOneSided (p : Problem) : Bool :=
  p.kind == .conflictingComponent || p.kind == .contradiction

/-- but for such problems, the lists are the same -/
def SameRest (l l' : List Placed) : Prop :=
  l.filter (fun x => !x.problem.isOneSided) = l'.filter fun x => !x.problem.isOneSided

theorem accumulates_sameRest : Accumulates SameRest where
  nil := rfl
  append := by
    intro l l' m m' hl hm
    unfold SameRest at hl hm ⊢
    rw [List.filter_append, List.filter_append, hl, hm]

theorem sameRest_of_oneSided {l l' : List Placed} (h : ∀ x ∈ l, x.problem.isOneSided = true)
    (h' : ∀ x ∈ l', x.problem.isOneSided = true) : SameRest l l' := by
  have hnil : ∀ l : List Placed, (∀ x ∈ l, x.problem.isOneSided = true) →
      l.filter (fun x => !x.problem.isOneSided) = [] := by
    intro l hl
    refine List.filter_eq_nil_iff.mpr fun x hx => ?_
    simp [hl x hx]
  exact (hnil l h).trans (hnil l' h').symm

theorem Validator.isOneSided_contradictions (v : Validator) (targets : List String) :
    ∀ x ∈ v.contradictions targets, x.problem.isOneSided = true := by
  intro x hx
  unfold Problem.isOneSided
  rw [v.kind_contradictions targets x hx]
  rfl

/-- against whatever graphs, declarations differ in their contradictions alone -/
theorem declaredFrom_sameRest (g g' : ConstraintGraph) (validators : List Validator)
    (reported reported' : List Edge) :
    SameRest (declaredFrom g reported validators) (declaredFrom g' reported' validators) := by
  induction validators generalizing reported reported' with
  | nil => exact accumulates_sameRest.nil
  | cons v rest ih =>
    have hcontradictions : SameRest (v.contradictions (v.contradicted g reported))
        (v.contradictions (v.contradicted g' reported')) :=
      sameRest_of_oneSided (v.isOneSided_contradictions _) (v.isOneSided_contradictions _)
    have hadd := @Accumulates.append _ accumulates_sameRest
    exact hadd (hadd (hadd rfl hcontradictions) rfl) (ih _ _)

namespace ConstraintGraph.SameEnds

variable {g g' : ConstraintGraph} (h : g.SameEnds g')
include h

/-- what is missing does not depend on conflicts -/
theorem attachReports_sameRest (composite : Composite) (present : Names) (component : String)
    (pos : Position) :
    SameRest (attachReports g composite present component pos)
      (attachReports g' composite present component pos) := by
  have hconflicts : ∀ names : List String,
      ∀ x ∈ (names.map (Problem.conflictingComponent composite component)).map
      fun p => (⟨p, some pos⟩ : Placed), x.problem.isOneSided = true := by
    intro names x hx
    rw [List.map_map] at hx
    obtain ⟨c, _, rfl⟩ := List.mem_map.mp hx
    rfl
  unfold attachReports attachProblems
  rw [List.map_append, List.map_append, h.sorted_dependenciesOf]
  exact accumulates_sameRest.append rfl (sameRest_of_oneSided (hconflicts _) (hconflicts _))

theorem cycleProblems_eq (validators : List Validator) :
    cycleProblems g validators = cycleProblems g' validators := by
  unfold cycleProblems
  rw [h.cycles_eq]

theorem unitProblems_sameRest (u : SourceUnit) (r : Resolver) (checkCycles : Bool)
    (d : Declarations) :
    SameRest (unitProblems u r g checkCycles d) (unitProblems u r g' checkCycles d) := by
  have hadd := @Accumulates.append _ accumulates_sameRest
  have htrack : SameRest (trackProblems g r u.body) (trackProblems g' r u.body) :=
    trackProblems_related accumulates_sameRest (h.attachReports_sameRest .entity)
      (fun _ => rfl) u.body
  have htemplates : SameRest (templateProblems g d) (templateProblems g' d) :=
    templateProblems_related accumulates_sameRest h.attachReports_sameRest d
  unfold unitProblems declaredProblems
  rw [h.cycleProblems_eq, h.queryProblems_eq]
  exact hadd (hadd (hadd (hadd (declaredFrom_sameRest g g' d.validators [] []) rfl) htrack)
    htemplates) rfl

/-- if conflicts bind more components, the cycles being the same, nothing that was found is lost -/
theorem unitProblems_sublist (hw : g.Within g') (u : SourceUnit) (r : Resolver) (checkCycles : Bool)
    (d : Declarations) :
    (unitProblems u r g checkCycles d).Sublist (unitProblems u r g' checkCycles d) := by
  have hdeclared : (declaredFrom g [] d.validators).Sublist (declaredFrom g' [] d.validators) :=
    hw.declaredFrom_sublist d.validators fun _ _ _ => Iff.rfl
  unfold unitProblems declaredProblems
  rw [h.cycleProblems_eq]
  exact (((hdeclared.append (List.Sublist.refl _)).append
    (hw.trackProblems_sublist r u.body)).append
    (hw.templateProblems_sublist d)).append (hw.queryProblems_sublist d)

end ConstraintGraph.SameEnds

/-! ## reports -/

/-- the configuration with conflicts that bind both sides, or one -/
def Config.inMode (config : Config) (symmetric : Bool) : Config :=
  { config with symmetricConflicts := symmetric }

section
variable (config : Config) (registry : Registry)

theorem analyzeUnit_sublist (u : SourceUnit) (index : Option Index) :
    (analyzeUnit u registry index (config.inMode false)).Sublist
      (analyzeUnit u registry index (config.inMode true)) := by
  have hends := ConstraintGraph.sameEnds_ofDeclared false true
    (registry.constraints ++ config.seed ++ (u.declarations index).constraints)
  have hwithin : (unitGraph registry (config.inMode false) (u.declarations index)).Within
      (unitGraph registry (config.inMode true) (u.declarations index)) :=
    ConstraintGraph.within_ofDeclared (fun hfalse => absurd hfalse Bool.false_ne_true)
      fun _ _ _ hab => hab
  exact (hends.unitProblems_sublist hwithin u ⟨u.module, index⟩ config.checkCycles _).filterMap _

theorem analyzeUnit_rest (u : SourceUnit) (index : Option Index) :
    (analyzeUnit u registry index (config.inMode false)).filter (fun f => !f.problem.isOneSided)
      = (analyzeUnit u registry index (config.inMode true)).filter fun f =>
        !f.problem.isOneSided := by
  have hends := ConstraintGraph.sameEnds_ofDeclared false true
    (registry.constraints ++ config.seed ++ (u.declarations index).constraints)
  have hrest :=
    hends.unitProblems_sameRest u ⟨u.module, index⟩ config.checkCycles (u.declarations index)
  have hfilter := fun mode =>
    filter_findings (config.inMode mode).severityOf u.path (fun p => !p.isOneSided)
      (unitProblems u ⟨u.module, index⟩
        (unitGraph registry (config.inMode mode) (u.declarations index))
        config.checkCycles (u.declarations index))
  refine (hfilter false).trans (Eq.trans ?_ (hfilter true).symm)
  exact congrArg (List.filterMap (Placed.finding? config.severityOf u.path)) hrest

end

/-- an export depends on the root, on the files that are read and on what the graph shows -/
theorem Command.exportGraph_congr {project project' : Project}
    (hroot : project.root = project'.root)
    (hexclude : project.config.exclude = project'.config.exclude)
    (hsemantic : project.config.semantic = project'.config.semantic)
    (hgraph : ∀ registry, (project.graph registry).ShownAlike (project'.graph registry))
    (t : FileTree) (base : Path) (format : GraphFormat) (file : Option Path) :
    exportGraph project t base format file = exportGraph project' t base format file := by
  have hregistry : project.registry t = project'.registry t := by
    unfold Project.registry Project.program
    rw [hroot, hexclude, hsemantic]
  have htext : ∀ registry, graphText project.root (project.graph registry) format
      = graphText project'.root (project'.graph registry) format := by
    intro registry
    rw [hroot]
    exact (hgraph registry).graphText_eq project'.root format
  unfold exportGraph
  simp only [hregistry, htext]

/-- what the rule of queries reports is not about a conflict that binds one component -/
theorem filter_queryValidator (findings : List Finding) :
    findings.filter (·.rule == .queryValidator)
      = (findings.filter fun f => !f.problem.isOneSided).filter (·.rule == .queryValidator) := by
  have hrule : ∀ p : Problem, (p.rule == .queryValidator)
      = ((p.rule == .queryValidator) && !p.isOneSided) := by
    intro p
    cases p <;> rfl
  rw [List.filter_filter]
  exact List.filter_congr fun f _ => hrule f.problem

/-- What it changes that conflicts bind both sides, all else being configured alike. Every finding
of the report in which they bind one side is reported again, in the same order; the others are all
of components that are attached beside one in conflict, or that depend on what they conflict with.
So the findings on queries are the same. The graphs of the project have the same components,
dependencies, pairs in conflict and cycles to show, and so the same drawing and the same JSON value,
whatever the registry; and the export of the graph ends alike, in each format and for each
project. -/
theorem conflict_mode_reach (config : Config) :
    (∀ p : Program,
      (analyzeProgram p (config.inMode false)).findings.Sublist
        (analyzeProgram p (config.inMode true)).findings ∧
      (analyzeProgram p (config.inMode false)).findings.filter (fun f =>
          !(f.problem.kind == .conflictingComponent || f.problem.kind == .contradiction))
        = (analyzeProgram p (config.inMode true)).findings.filter (fun f =>
          !(f.problem.kind == .conflictingComponent || f.problem.kind == .contradiction)) ∧
      (analyzeProgram p (config.inMode false)).findings.filter (·.rule == .queryValidator)
        = (analyzeProgram p (config.inMode true)).findings.filter (·.rule == .queryValidator)) ∧
    (∀ registry : Registry,
      (projectGraph registry (config.inMode false)).ShownAlike
        (projectGraph registry (config.inMode true))) ∧
    ∀ (root : Path) (configPath : Option Path) (t : FileTree) (base : Path)
      (format : Command.GraphFormat) (file : Option Path),
      Command.exportGraph ⟨root, config.inMode false, configPath⟩ t base format file
        = Command.exportGraph ⟨root, config.inMode true, configPath⟩ t base format file := by
  have hgraphs : ∀ registry : Registry,
      (projectGraph registry (config.inMode false)).ShownAlike
        (projectGraph registry (config.inMode true)) :=
    fun registry => (ConstraintGraph.sameEnds_ofDeclared false true _).shownAlike
  have hrest : ∀ p : Program,
      (analyzeProgram p (config.inMode false)).findings.filter (fun f => !f.problem.isOneSided)
        = (analyzeProgram p (config.inMode true)).findings.filter fun f =>
          !f.problem.isOneSided := by
    intro p
    rw [analyzeProgram_eq, analyzeProgram_eq]
    unfold programFindings
    rw [Finding.byKey_le.filter_mergeSort, Finding.byKey_le.filter_mergeSort, List.filter_flatMap,
      List.filter_flatMap]
    simp only [analyzeUnit_rest]
  refine ⟨fun p => ⟨?_, hrest p, ?_⟩, hgraphs, fun root configPath t base format file => ?_⟩
  · rw [analyzeProgram_eq, analyzeProgram_eq]
    unfold programFindings
    refine Finding.byKey_le.mergeSort_sublist (List.Sublist.flatMap_right _ fun u _ => ?_)
    exact analyzeUnit_sublist config _ u p.index?
  · rw [filter_queryValidator, hrest p, ← filter_queryValidator]
  · apply Command.exportGraph_congr
    · rfl
    · rfl
    · rfl
    · exact hgraphs

/-- a template of a component and one that it conflicts with, in this order -/
example :
    let program := oneFile "w.register_template('T', components=[A, B])\n"
    let config : Config := { Config.default with checkCycles := false, conflicts := [("A", ["B"])] }
    (analyzeProgram program (config.inMode false)).findings = [] ∧
      (analyzeProgram program (config.inMode true)).findings.map (·.problem)
        = [.conflictingComponent (.template "T") "B" "A"] := by
  decide +kernel

end Archetype
