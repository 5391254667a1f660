import Archetype.Proofs.SessionState
import Archetype.Proofs.StableSort
import Mathlib.Data.Prod.Lex
import Mathlib.Data.String.Basic

/-!
# What severities change

The checks do not look at severities. A severity decides whether the problems of its rule are
reported, and the level of their findings; a report is sorted by keys in which the level has no
part. So of two reports that differ in nothing but the severities of the rules, what is reported in
both stands in the same order.

* `Finding.key`          what a report is sorted by;
* `report`, `collect`    the findings so far, one reported problem and one check further;
* `analyzeUnit_eq`       the findings of a unit, collected check by check;
* `programProblems`      what the checks find in a program, whatever the severities;
* `reported`             the report of problems under some severities;
* `severities_change_levels_only`   two reports under different severities.
-/

namespace Archetype

namespace Finding

/-- what a report is sorted by: the path as it is written, the line, the column and the rule -/
def key (f : Finding) : String ×ₗ ℤ ×ₗ ℤ ×ₗ String :=
  toLex (f.location.path.text,
    toLex (f.location.line.getD 0, toLex (f.location.column.getD 0, f.rule.id)))

theorem byKey_le : ByKey key le := by
  intro a b
  unfold le key
  simp only [Prod.Lex.le_iff, ofLex_toLex, Bool.or_eq_true, Bool.and_eq_true, decide_eq_true_eq,
    beq_iff_eq, Bool.not_eq_true', decide_eq_false_iff_not, not_lt]

/-- the finding without its level -/
def bare (f : Finding) : Problem × Location := (f.problem, f.location)

/-- the order of a report, in which levels have no part -/
def bareLe (a b : Problem × Location) : Bool := le ⟨a.1, a.2, .error⟩ ⟨b.1, b.2, .error⟩

end Finding

/-! ## reporting problems -/

/-- the level of the findings of a rule is that of its severity -/
theorem Placed.finding?_eq_some {severity : Rule → Severity} {path : Path} {x : Placed}
    {f : Finding} (h : x.finding? severity path = some f) :
    f.problem = x.problem ∧ f.location = .of path x.pos ∧
    (severity x.problem.rule).level? = some f.level := by
  obtain ⟨level, hlevel, rfl⟩ := Option.map_eq_some_iff.mp h
  exact ⟨rfl, rfl, hlevel⟩

theorem Severity.level?_eq_none (s : Severity) : s.level? = none ↔ s = .off := by
  cases s <;> simp [level?]

/-- the findings so far and that of a reported problem, which a rule that is off drops here -/
def report (severity : Rule → Severity) (path : Path) (found : List Finding) (x : Placed) :
    List Finding :=
  match (severity x.problem.rule).level? with
  | none => found
  | some level => found ++ [⟨x.problem, .of path x.pos, level⟩]

/-- the findings so far and those of a check, which reports its problems one after another -/
def collect (severity : Rule → Severity) (path : Path) (found : List Finding)
    (problems : List Placed) : List Finding :=
  problems.foldl (report severity path) found

theorem report_eq (severity : Rule → Severity) (path : Path) (found : List Finding) (x : Placed) :
    report severity path found x = found ++ (x.finding? severity path).toList := by
  unfold report Placed.finding?
  cases (severity x.problem.rule).level? with
  | none => exact (List.append_nil found).symm
  | some level => rfl

/-- dropping at each report leaves what dropping at the end does -/
theorem collect_eq (severity : Rule → Severity) (path : Path) (found : List Finding)
    (problems : List Placed) :
    collect severity path found problems
      = found ++ problems.filterMap (Placed.finding? severity path) := by
  induction problems generalizing found with
  | nil => exact (List.append_nil found).symm
  | cons x rest ih =>
    calc collect severity path (report severity path found x) rest
        = found ++ (x.finding? severity path).toList
            ++ rest.filterMap (Placed.finding? severity path) := by rw [ih, report_eq]
      _ = found ++ (x :: rest).filterMap (Placed.finding? severity path) := by
          rw [List.append_assoc, List.filterMap_cons]
          cases x.finding? severity path <;> rfl

/-- The findings of a unit are collected by its four checks in turn, which all report into one
list. -/
theorem analyzeUnit_eq (u : SourceUnit) (registry : Registry) (index : Option Index)
    (config : Config) :
    analyzeUnit u registry index config =
      let resolver : Resolver := ⟨u.module, index⟩
      let d := Declarations.ofUnit u resolver
      let g := unitGraph registry config d
      [declaredProblems g config.checkCycles d, trackProblems g resolver u.body,
        templateProblems g d, queryProblems g d].foldl (collect config.severityOf u.path) [] := by
  simp only [analyzeUnit, unitProblems, List.foldl_cons, List.foldl_nil, collect_eq,
    List.filterMap_append, List.nil_append]

/-- a problem in a file without its level, as it is reported -/
def Placed.bare (path : Path) (x : Placed) : Problem × Location := (x.problem, .of path x.pos)

/-- of a rule that is not off, a problem is reported as it is -/
theorem Placed.bare_finding? {severity : Rule → Severity} {kept : Rule → Bool}
    (hkept : ∀ rule, kept rule = true → severity rule ≠ .off) (path : Path) (x : Placed) :
    ((x.finding? severity path).filter fun f => kept f.rule).map Finding.bare
      = if kept x.problem.rule then some (x.bare path) else none := by
  unfold Placed.finding?
  cases hlevel : (severity x.problem.rule).level? with
  | none =>
    rw [if_neg fun hk => hkept _ hk ((Severity.level?_eq_none _).mp hlevel)]
    rfl
  | some level =>
    rw [Option.map_some, Option.filter_some, apply_ite (Option.map Finding.bare)]
    rfl

/-- if their rules are not off, all problems are reported -/
theorem map_problem_findings {severity : Rule → Severity} {path : Path} {l : List Placed}
    (h : ∀ x ∈ l, severity x.problem.rule ≠ .off) :
    (l.filterMap (Placed.finding? severity path)).map (·.problem) = l.map (·.problem) := by
  rw [List.map_filterMap, ← List.filterMap_eq_map]
  refine List.filterMap_congr fun x hx => ?_
  unfold Placed.finding?
  cases hlevel : (severity x.problem.rule).level? with
  | none => exact absurd ((Severity.level?_eq_none _).mp hlevel) (h x hx)
  | some level => rfl

/-- what is left out of the findings can be left out of the problems -/
theorem filter_findings (severity : Rule → Severity) (path : Path) (keep : Problem → Bool)
    (l : List Placed) :
    (l.filterMap (Placed.finding? severity path)).filter (fun f => keep f.problem)
      = (l.filter fun x => keep x.problem).filterMap (Placed.finding? severity path) := by
  rw [List.filter_filterMap, List.filterMap_filter]
  refine List.filterMap_congr fun x _ => ?_
  unfold Placed.finding?
  cases (severity x.problem.rule).level? with
  | none => simp
  | some level => simp [Option.filter_some]

/-- what the checks find in a program, each problem with the file that it is in -/
def programProblems (p : Program) (registry : Registry) (index : Option Index) (config : Config) :
    List (Path × Placed) :=
  p.analyzable.flatMap fun u =>
    let resolver : Resolver := ⟨u.module, index⟩
    let d := Declarations.ofUnit u resolver
    (unitProblems u resolver (unitGraph registry config d) config.checkCycles d).map fun x =>
      (u.path, x)

/-- the findings of problems under some severities, in the order of a report -/
def reported (severity : Rule → Severity) (problems : List (Path × Placed)) : List Finding :=
  (problems.filterMap fun x => x.2.finding? severity x.1).mergeSort Finding.le

theorem programFindings_eq (p : Program) (registry : Registry) (index : Option Index)
    (config : Config) :
    programFindings p registry index config
      = reported config.severityOf (programProblems p registry index config) := by
  unfold programFindings reported programProblems
  rw [List.filterMap_flatMap]
  congr 2
  funext u
  rw [List.filterMap_map]
  rfl

/-! ## reports under different severities -/

/-- a rule that is off reports nothing, and every finding has the level of its rule -/
structure Weighed (severity : Rule → Severity) (findings : List Finding) : Prop where
  off : ∀ rule, severity rule = .off → ∀ f ∈ findings, f.rule ≠ rule
  level : ∀ f ∈ findings, (severity f.rule).level? = some f.level

theorem weighed_reported (severity : Rule → Severity) (problems : List (Path × Placed)) :
    Weighed severity (reported severity problems) := by
  have hlevel : ∀ f ∈ reported severity problems, (severity f.rule).level? = some f.level := by
    intro f hf
    obtain ⟨x, _, hx⟩ := List.mem_filterMap.mp (List.mem_mergeSort.mp hf)
    obtain ⟨hproblem, _, hlevel⟩ := Placed.finding?_eq_some hx
    rwa [← hproblem] at hlevel
  refine ⟨fun rule hoff f hf hrule => ?_, hlevel⟩
  have h := hlevel f hf
  rw [hrule, hoff] at h
  cases h

/-- of rules that are not off, a report has all problems, in an order that levels have no part in -/
theorem bare_reported (severity : Rule → Severity) (problems : List (Path × Placed))
    (kept : Rule → Bool) (hkept : ∀ rule, kept rule = true → severity rule ≠ .off) :
    ((reported severity problems).filter fun f => kept f.rule).map Finding.bare
      = ((problems.filter fun x => kept x.2.problem.rule).map fun x => x.2.bare x.1).mergeSort
        Finding.bareLe := by
  have hproblems :
      ((problems.filterMap fun x => x.2.finding? severity x.1).filter fun f => kept f.rule).map
          Finding.bare
        = (problems.filter fun x => kept x.2.problem.rule).map fun x => x.2.bare x.1 := by
    rw [List.filter_filterMap, List.map_filterMap, ← List.filterMap_eq_map, List.filterMap_filter]
    refine List.filterMap_congr fun x _ => ?_
    exact Placed.bare_finding? hkept x.1 x.2
  have hle : ∀ a b : Finding, Finding.le a b = Finding.bareLe a.bare b.bare := fun _ _ => rfl
  unfold reported
  rw [Finding.byKey_le.filter_mergeSort, List.map_mergeSort fun a _ b _ => hle a b, hproblems]

/-- turning a rule off takes its findings out of a report and leaves the others where they are -/
theorem reported_of_off {severity severity' : Rule → Severity} {rule : Rule}
    (hoff : severity' rule = .off) (hsame : ∀ r, r ≠ rule → severity' r = severity r)
    (problems : List (Path × Placed)) :
    reported severity' problems = (reported severity problems).filter fun f => f.rule != rule := by
  have hfinding : ∀ (path : Path) (x : Placed),
      x.finding? severity' path = (x.finding? severity path).filter fun f => f.rule != rule := by
    intro path x
    unfold Placed.finding?
    by_cases e : x.problem.rule = rule
    · rw [e, hoff]
      cases (severity rule).level? with
      | none => rfl
      | some level => simp [Severity.level?, Option.filter_some, Finding.rule, e]
    · rw [hsame _ e]
      cases (severity x.problem.rule).level? with
      | none => rfl
      | some level => simp [Option.filter_some, Finding.rule, e]
  unfold reported
  rw [Finding.byKey_le.filter_mergeSort, List.filter_filterMap]
  simp only [hfinding]

/-! ## the report of a program -/

/-- the configuration with other severities -/
def Config.weighing (config : Config) (preset : Preset) (overrides : Assoc Severity) : Config :=
  { config with preset := preset, severity := overrides }

/-- is the rule off in neither configuration? -/
def isOnInBoth (c c' : Config) (rule : Rule) : Bool :=
  c.severityOf rule != .off && c'.severityOf rule != .off

/-- Severities never change what is found. Of two reports on a program, under configurations that
differ in nothing but preset and overrides, the findings of the rules that are off in neither are
the same in the same order, but for their levels. In each report a rule that is off has no findings,
and the findings of the others have the levels that their severities give. So turning one rule off
takes out its findings, and nothing else. -/
theorem severities_change_levels_only (p : Program) (config : Config) (preset : Preset)
    (overrides : Assoc Severity) :
    (((analyzeProgram p config).findings.filter fun f =>
        isOnInBoth config (config.weighing preset overrides) f.rule).map Finding.bare
      = ((analyzeProgram p (config.weighing preset overrides)).findings.filter fun f =>
        isOnInBoth config (config.weighing preset overrides) f.rule).map Finding.bare) ∧
    Weighed config.severityOf (analyzeProgram p config).findings ∧
    Weighed (config.weighing preset overrides).severityOf
      (analyzeProgram p (config.weighing preset overrides)).findings ∧
    ∀ rule, (config.weighing preset overrides).severityOf rule = .off →
      (∀ r, r ≠ rule → (config.weighing preset overrides).severityOf r = config.severityOf r) →
      (analyzeProgram p (config.weighing preset overrides)).findings
        = (analyzeProgram p config).findings.filter fun f => f.rule != rule := by
  -- the checks see the same of both configurations
  have hproblems : programProblems p (Registry.ofProgram p p.index?) p.index?
      (config.weighing preset overrides)
      = programProblems p (Registry.ofProgram p p.index?) p.index? config := rfl
  rw [analyzeProgram_eq, analyzeProgram_eq, programFindings_eq, programFindings_eq, hproblems]
  refine ⟨?_, weighed_reported _ _, weighed_reported _ _,
    fun rule hoff hsame => reported_of_off hoff hsame _⟩
  rw [bare_reported, bare_reported]
  · intro rule hrule
    exact bne_iff_ne.mp (Bool.and_eq_true_iff.mp hrule).2
  · intro rule hrule
    exact bne_iff_ne.mp (Bool.and_eq_true_iff.mp hrule).1

/-- a report has a finding of a rule if a problem of the program gives one -/
theorem exists_finding {p : Program} {config : Config} {rule : Rule} :
    (∃ f ∈ (analyzeProgram p config).findings, f.rule = rule) ↔
      ∃ x ∈ programProblems p (Registry.ofProgram p p.index?) p.index? config,
        ∃ f ∈ x.2.finding? config.severityOf x.1, f.rule = rule := by
  simp only [analyzeProgram_eq, programFindings_eq, reported, List.mem_mergeSort,
    List.mem_filterMap, Option.mem_def]
  exact ⟨fun ⟨f, ⟨x, hx, hf⟩, hrule⟩ => ⟨x, hx, f, hf, hrule⟩,
    fun ⟨x, hx, f, hf, hrule⟩ => ⟨f, ⟨x, hx, hf⟩, hrule⟩⟩

/-- a file that makes a component depend on itself, and one that wants and excludes it in one
query -/
def selfishFiles : Program :=
  ⟨Program.memoryRoot,
    (Program.unitsOf Program.memoryRoot
      [(Program.memoryRoot.join (.ofString "a.py"), "w.register_validator(A, dependencies=[A])\n"),
        (Program.memoryRoot.join (.ofString "b.py"),
          "w.create_query(all=[A], none=[A])\n")]).toOption.getD [],
    true⟩

/-- the default configuration with one rule turned off -/
def lenient : Config := Config.default.weighing .recommended [("component-validator", .off)]

theorem severities_change_levels_only_selfishFiles :
    (analyzeProgram selfishFiles lenient).findings
      = (analyzeProgram selfishFiles .default).findings.filter
        (fun f => f.rule != .componentValidator) ∧
    (∃ f ∈ (analyzeProgram selfishFiles .default).findings, f.rule = .componentValidator) ∧
    ∃ f ∈ (analyzeProgram selfishFiles lenient).findings, f.rule = .queryValidator := by
  obtain ⟨_, _, _, hoff⟩ := severities_change_levels_only selfishFiles .default .recommended
    [("component-validator", .off)]
  have hfound : (∃ x ∈ programProblems selfishFiles
        (Registry.ofProgram selfishFiles selfishFiles.index?) selfishFiles.index? .default,
        ∃ f ∈ x.2.finding? Config.default.severityOf x.1, f.rule = .componentValidator) ∧
      ∃ x ∈ programProblems selfishFiles
        (Registry.ofProgram selfishFiles selfishFiles.index?) selfishFiles.index? lenient,
        ∃ f ∈ x.2.finding? lenient.severityOf x.1, f.rule = .queryValidator := by
    decide +kernel
  refine ⟨hoff .componentValidator (by decide) fun r hr => ?_,
    exists_finding.mpr hfound.1, exists_finding.mpr hfound.2⟩
  cases r with
  | componentValidator => exact absurd rfl hr
  | componentOrder => decide
  | queryValidator => decide

end Archetype
