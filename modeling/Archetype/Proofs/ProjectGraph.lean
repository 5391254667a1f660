import Archetype.Command.Project
import Archetype.Proofs.Recorded
import Archetype.Proofs.SessionState

/-!
# One graph for a project

A unit is checked against the registry, the configuration and its own declarations; the constraints
of a project are shown and traced from the registry and the configuration alone. What a unit
declares is on record, so that it adds nothing: findings, exports and traces are all about the same
graph.

* `AnswersAlike`               graphs that answer every question alike;
* `Program.findingsAgainst`    the findings of a program whose units are all checked against one
                               graph;
* `units_answer_as_project`    the units are checked against the graph of the project.
-/

namespace Archetype

/-- graphs that answer every question alike -/
structure ConstraintGraph.AnswersAlike (g g' : ConstraintGraph) : Prop where
  dependenciesOf : ∀ a b, b ∈ g.dependenciesOf a ↔ b ∈ g'.dependenciesOf a
  dependentsOf : ∀ a b, b ∈ g.dependentsOf a ↔ b ∈ g'.dependentsOf a
  conflictsOf : ∀ a b, b ∈ g.conflictsOf a ↔ b ∈ g'.conflictsOf a
  inConflict : ∀ a b, g.inConflict a b = g'.inConflict a b
  contradictions : ∀ a b, b ∈ g.contradictions a ↔ b ∈ g'.contradictions a
  nodes : g.nodes = g'.nodes
  edges : g.edges = g'.edges
  pairs : g.pairs = g'.pairs
  cycles : g.cycles = g'.cycles
  transitive : ∀ a b, b ∈ g.transitive a ↔ b ∈ g'.transitive a
  attachOrder : ∀ a, g.attachOrder a = g'.attachOrder a

theorem ConstraintGraph.AnswersAlike.refl (g : ConstraintGraph) : g.AnswersAlike g :=
  ⟨fun _ _ => Iff.rfl, fun _ _ => Iff.rfl, fun _ _ => Iff.rfl, fun _ _ => rfl, fun _ _ => Iff.rfl,
    rfl, rfl, rfl, rfl, fun _ _ => Iff.rfl, fun _ => rfl⟩

/-- the findings of a program whose units are all checked against one graph -/
def Program.findingsAgainst (p : Program) (g : ConstraintGraph) (config : Config) : List Finding :=
  (p.analyzable.flatMap fun u =>
    (unitProblems u ⟨u.module, p.index?⟩ g config.checkCycles (u.declarations p.index?)).filterMap
      (Placed.finding? config.severityOf u.path)).mergeSort Finding.le

/-- no unit adds to the graph of the project, so that all units are checked against it -/
theorem programFindings_eq_against (p : Program) (config : Config) :
    programFindings p (Registry.ofProgram p p.index?) p.index? config
      = p.findingsAgainst (projectGraph (Registry.ofProgram p p.index?) config) config := by
  unfold programFindings Program.findingsAgainst
  congr 1
  refine List.flatMap_congr fun u hu => ?_
  rw [← unitGraph_eq_project p p.index? config u hu]
  rfl

/-- the registry from which constraints are shown and traced is that of a report -/
theorem Command.Project.registry_eq (project : Project) (t : FileTree) :
    project.registry t = (project.program t).map fun p =>
      (analyzeProgram p project.config).registry := by
  unfold registry
  cases project.program t with
  | error e => rfl
  | ok p => rfl

/-- Every unit is checked against the graph of the project. The graph of a unit, which has the
unit's own declarations besides the registry and the configuration, answers every question as the
graph of registry and configuration does, by whatever index the names are resolved. So the findings
of a report are those of checks against the graph that is shown and traced, and that graph comes of
the registry of the report. -/
theorem units_answer_as_project (project : Command.Project) (p : Program) :
    (∀ index, ∀ u ∈ p.analyzable,
      (unitGraph (Registry.ofProgram p index) project.config (u.declarations index)).AnswersAlike
        (project.graph (Registry.ofProgram p index))) ∧
    (analyzeProgram p project.config).findings
      = p.findingsAgainst (project.graph (analyzeProgram p project.config).registry)
        project.config ∧
    ∀ t, project.registry t = (project.program t).map fun p =>
      (analyzeProgram p project.config).registry := by
  refine ⟨fun index u hu => ?_, ?_, project.registry_eq⟩
  · rw [unitGraph_eq_project p index project.config u hu]
    exact ConstraintGraph.AnswersAlike.refl _
  · rw [analyzeProgram_eq]
    exact programFindings_eq_against p project.config

/-- a file that declares constraints of its own -/
def pickyFile : Program := oneFile "w.register_validator(A, dependencies=[B], conflicts=[C])\n"

theorem units_answer_as_project_pickyFile :
    ∃ u ∈ pickyFile.analyzable,
      (unitGraph (Registry.ofProgram pickyFile pickyFile.index?) .default
        (u.declarations pickyFile.index?)).AnswersAlike
          (Command.Project.graph ⟨Program.memoryRoot, .default, none⟩
            (Registry.ofProgram pickyFile pickyFile.index?)) := by
  have hunits : pickyFile.analyzable.length = 1 := by decide +kernel
  obtain ⟨u, hu⟩ := List.exists_mem_of_length_pos (hunits ▸ Nat.one_pos)
  exact ⟨u, hu, (units_answer_as_project ⟨Program.memoryRoot, .default, none⟩ pickyFile).1 _ u hu⟩

end Archetype
