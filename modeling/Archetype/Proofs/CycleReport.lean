import Archetype.Proofs.CheckRules
import Archetype.Proofs.CycleSearch
import Archetype.Proofs.Recorded
import Archetype.Proofs.SessionState

/-!
# How cycles are reported

A unit reports the cycles of the project's graph that have a member which it declares, each once and
with the first declaration of the first such member. A cycle of dependencies that are declared in
code is declared somewhere, so it is found by the report of the whole program.

* `Owns`                     the declaration with which a unit reports a cycle;
* `kind_declaredFrom`        the other checks of declarations show no cycles;
* `cycleFindings_analyzeUnit`   what a unit reports of cycles;
* `DeclaresDependency`       the dependencies that are declared in code;
* `cycles_reported`          both for the report of a program.
-/

namespace Archetype

open Relation (TransGen)

/-! ## the owner of a cycle -/

/-- some declaration is about the component -/
def Declares (validators : List Validator) (name : String) : Prop :=
  ∃ v ∈ validators, v.subject.name = name

/-- `v` is the first declaration of its component, which is the first member of the cycle that is
declared -/
structure Owns (validators : List Validator) (cycle : List String) (v : Validator) : Prop where
  member : ∃ front rest, cycle.dropLast = front ++ v.subject.name :: rest ∧
    ∀ m ∈ front, ¬ Declares validators m
  first : ∃ front rest, validators = front ++ v :: rest ∧
    ∀ w ∈ front, w.subject.name ≠ v.subject.name

theorem registration?_eq_some (validators : List Validator) (name : String) (v : Validator) :
    registration? validators name = some v ↔ v.subject.name = name ∧
      ∃ front rest, validators = front ++ v :: rest ∧ ∀ w ∈ front, w.subject.name ≠ name := by
  unfold registration?
  rw [List.find?_eq_some_iff_append]
  simp

theorem registration?_eq_none (validators : List Validator) (name : String) :
    registration? validators name = none ↔ ¬ Declares validators name := by
  unfold registration?
  rw [List.find?_eq_none]
  simp [Declares]

theorem cycleOwner?_eq_some (validators : List Validator) (cycle : List String) (v : Validator) :
    cycleOwner? validators cycle = some v ↔ Owns validators cycle v := by
  unfold cycleOwner?
  rw [List.findSome?_eq_some_iff]
  constructor
  · rintro ⟨front, member, rest, hsplit, hv, hfront⟩
    obtain ⟨rfl, hfirst⟩ := (registration?_eq_some validators member v).mp hv
    exact ⟨⟨front, rest, hsplit, fun m hm => (registration?_eq_none validators m).mp (hfront m hm)⟩,
      hfirst⟩
  · rintro ⟨⟨front, rest, hsplit, hfront⟩, hfirst⟩
    refine ⟨front, v.subject.name, rest, hsplit, ?_,
      fun m hm => (registration?_eq_none validators m).mpr (hfront m hm)⟩
    exact (registration?_eq_some validators _ v).mpr ⟨rfl, hfirst⟩

theorem cycleOwner?_eq_none (validators : List Validator) (cycle : List String) :
    cycleOwner? validators cycle = none ↔ ∀ m ∈ cycle.dropLast, ¬ Declares validators m := by
  unfold cycleOwner?
  rw [List.findSome?_eq_none_iff]
  exact forall₂_congr fun m _ => registration?_eq_none validators m

/-! ## what each check looks for -/

theorem rule_of_kind_cycle {p : Problem} (h : p.kind = .cycle) : p.rule = .componentValidator := by
  cases p <;> first | rfl | cases h

/-- declarations checked one by one show no cycles -/
theorem kind_declaredFrom (g : ConstraintGraph) (reported : List Edge)
    (validators : List Validator) :
    ∀ x ∈ declaredFrom g reported validators, x.problem.kind ≠ .cycle := by
  induction validators generalizing reported with
  | nil => exact fun x hx => absurd hx List.not_mem_nil
  | cons v rest ih =>
    intro x hx
    simp only [declaredFrom, List.mem_append] at hx
    rcases hx with ((hx | hx) | hx) | hx
    · simp [v.kind_selfReferences x hx]
    · simp [v.kind_contradictions _ x hx]
    · simp [v.kind_repetitions x hx]
    · exact ih _ x hx

/-! ## the findings of a unit -/

/-- the findings that tell of a cycle -/
def cycleFindings (findings : List Finding) : List Finding :=
  findings.filter (·.problem.kind == .cycle)

/-- has the cycle a member that is declared? -/
def isDeclaredIn (validators : List Validator) (cycle : List String) : Bool :=
  cycle.any fun m => validators.any (·.subject.name == m)

/-- `f` reports the cycle at its owner in a file, with the level of the rule -/
structure ReportsCycle (severity : Severity) (path : Path) (validators : List Validator)
    (cycle : List String) (f : Finding) : Prop where
  problem : f.problem = .cycle cycle
  location : ∃ v, Owns validators cycle v ∧ f.location = .of path (some v.call)
  level : severity.level? = some f.level

theorem cycleFindings_append (l l' : List Finding) :
    cycleFindings (l ++ l') = cycleFindings l ++ cycleFindings l' :=
  List.filter_append ..

theorem cycleFindings_of_other {severity : Rule → Severity} {path : Path} {l : List Placed}
    (h : ∀ x ∈ l, x.problem.kind ≠ .cycle) :
    cycleFindings (l.filterMap (Placed.finding? severity path)) = [] := by
  refine List.filter_eq_nil_iff.mpr fun f hf => ?_
  obtain ⟨x, hx, e⟩ := List.mem_filterMap.mp hf
  obtain ⟨level, _, rfl⟩ := Option.map_eq_some_iff.mp e
  simpa using h x hx

theorem cycleFindings_of_rule {severity : Rule → Severity} {path : Path} {l : List Placed}
    {rule : Rule} (hne : rule ≠ .componentValidator) (h : ∀ x ∈ l, x.problem.rule = rule) :
    cycleFindings (l.filterMap (Placed.finding? severity path)) = [] :=
  cycleFindings_of_other fun x hx hk => hne ((h x hx).symm.trans (rule_of_kind_cycle hk))

/-- a closed path has an owner just if one of its members is declared -/
theorem isDeclaredIn_eq {g : ConstraintGraph} {cycle : List String} (h : g.IsCycle cycle)
    (validators : List Validator) :
    isDeclaredIn validators cycle = (cycleOwner? validators cycle).isSome := by
  have hmem : ∀ m, m ∈ cycle ↔ m ∈ cycle.dropLast := by
    obtain ⟨x, ring, rfl⟩ := h.closed
    intro m
    rw [List.dropLast_concat]
    simp only [List.mem_append, List.mem_cons]
    tauto
  rw [Bool.eq_iff_iff, ← Option.ne_none_iff_isSome, Ne, cycleOwner?_eq_none]
  simp [isDeclaredIn, Declares, hmem]

/-- each declared cycle of a list gives one finding, in order -/
theorem reportsCycle_filterMap {g : ConstraintGraph} (cycles : List (List String))
    (h : ∀ c ∈ cycles, g.IsCycle c) (validators : List Validator) (severity : Rule → Severity)
    (hsev : severity .componentValidator ≠ .off) (path : Path) :
    List.Forall₂ (ReportsCycle (severity .componentValidator) path validators)
      (cycles.filter (isDeclaredIn validators))
      (cycleFindings ((cycles.filterMap fun cycle =>
        (cycleOwner? validators cycle).map fun v =>
          (⟨.cycle cycle, some v.call⟩ : Placed)).filterMap
          (Placed.finding? severity path))) := by
  obtain ⟨level, hlevel⟩ : ∃ level, (severity .componentValidator).level? = some level := by
    cases hs : severity .componentValidator with
    | off => exact absurd hs hsev
    | error | warning | info => exact ⟨_, rfl⟩
  induction cycles with
  | nil => exact .nil
  | cons cycle cycles ih =>
    have hd := isDeclaredIn_eq (h cycle (List.mem_cons_self ..)) validators
    have ih' := ih fun c hc => h c (List.mem_cons_of_mem _ hc)
    cases howner : cycleOwner? validators cycle with
    | none =>
      rw [howner, Option.isSome_none] at hd
      simpa [hd, howner] using ih'
    | some v =>
      rw [howner, Option.isSome_some] at hd
      have hfinding : Placed.finding? severity path ⟨.cycle cycle, some v.call⟩
          = some ⟨.cycle cycle, .of path (some v.call), level⟩ := by
        simp [Placed.finding?, Problem.rule, hlevel]
      simp only [List.filter_cons, hd, if_true, List.filterMap_cons, howner, Option.map_some,
        hfinding, cycleFindings]
      refine .cons ⟨rfl, ⟨v, (cycleOwner?_eq_some validators cycle v).mp howner, rfl⟩, hlevel⟩ ?_
      exact ih'

/-- a unit reports the cycles of the project's graph with a member which it declares, and no
others -/
theorem cycleFindings_analyzeUnit (p : Program) (index : Option Index) (config : Config)
    (hcheck : config.checkCycles = true) (hsev : config.severityOf .componentValidator ≠ .off)
    (u : SourceUnit) (hu : u ∈ p.analyzable) :
    List.Forall₂ (ReportsCycle (config.severityOf .componentValidator) u.path
      (u.declarations index).validators)
      ((projectGraph (Registry.ofProgram p index) config).cycles.filter
        (isDeclaredIn (u.declarations index).validators))
      (cycleFindings (analyzeUnit u (Registry.ofProgram p index) index config)) := by
  have hg := unitGraph_eq_project p index config u hu
  have hunit : analyzeUnit u (Registry.ofProgram p index) index config
      = (unitProblems u ⟨u.module, index⟩
          (unitGraph (Registry.ofProgram p index) config (u.declarations index))
          config.checkCycles (u.declarations index)).filterMap
            (Placed.finding? config.severityOf u.path) := rfl
  rw [hunit, hg]
  unfold unitProblems declaredProblems
  rw [if_pos hcheck]
  simp only [List.filterMap_append, cycleFindings_append]
  rw [cycleFindings_of_other (kind_declaredFrom _ _ _),
    cycleFindings_of_rule (by decide) (rule_trackProblems _ _ _),
    cycleFindings_of_rule (by decide) (rule_templateProblems _ _),
    cycleFindings_of_rule (by decide) (rule_queryProblems _ _)]
  simp only [List.nil_append, List.append_nil]
  exact reportsCycle_filterMap _ (fun c hc => ConstraintGraph.isCycle_of_mem_cycles hc) _ _ hsev _

/-! ## the report of a program -/

/-- some declaration of a unit lists `b` among the dependencies of `a`, which is another
component -/
def Program.DeclaresDependency (p : Program) (index : Option Index) (a b : String) : Prop :=
  a ≠ b ∧ ∃ u ∈ p.analyzable, ∃ v ∈ (u.declarations index).validators,
    v.subject.name = a ∧ b ∈ v.dependencies.map (·.name)

/-- without dependencies in the configuration, the project's graph has those that are declared in
code -/
theorem dependsOn_projectGraph (p : Program) (index : Option Index) {config : Config}
    (hseed : ∀ e ∈ config.dependencies, e.2 = []) (a b : String) :
    (projectGraph (Registry.ofProgram p index) config).DependsOn a b ↔
      p.DeclaresDependency index a b := by
  have hlists : ¬ Config.Lists (config.table .dependency) a b := by
    rintro ⟨targets, ht, hb⟩
    have hnil : targets = [] := hseed _ ht
    rw [hnil] at hb
    exact List.not_mem_nil hb
  unfold projectGraph Program.DeclaresDependency
  rw [ConstraintGraph.dependsOn_ofDeclared, asks_append, Config.asks_seed, or_iff_left hlists,
    Registry.asks_ofProgram]
  simp only [asks_declarations]
  rfl

/-- some unit reports a cycle just if some cycle has a member that some unit declares -/
theorem exists_cycleFinding (p : Program) (index : Option Index) (config : Config)
    (hcheck : config.checkCycles = true) (hsev : config.severityOf .componentValidator ≠ .off) :
    (∃ f ∈ programFindings p (Registry.ofProgram p index) index config, f.problem.kind = .cycle) ↔
      ∃ cycle ∈ (projectGraph (Registry.ofProgram p index) config).cycles,
        ∃ u ∈ p.analyzable, isDeclaredIn (u.declarations index).validators cycle = true := by
  have hfind : (∃ f ∈ programFindings p (Registry.ofProgram p index) index config,
      f.problem.kind = .cycle) ↔
      ∃ u ∈ p.analyzable, cycleFindings (analyzeUnit u (Registry.ofProgram p index) index config)
        ≠ [] := by
    simp only [programFindings, List.mem_mergeSort, List.mem_flatMap, cycleFindings, ne_eq,
      List.filter_eq_nil_iff, beq_iff_eq, not_forall, not_not]
    constructor
    · rintro ⟨f, ⟨u, hu, hf⟩, hk⟩
      exact ⟨u, hu, f, hf, hk⟩
    · rintro ⟨u, hu, f, hf, hk⟩
      exact ⟨f, ⟨u, hu, hf⟩, hk⟩
  have hunit : ∀ u ∈ p.analyzable,
      cycleFindings (analyzeUnit u (Registry.ofProgram p index) index config) ≠ [] ↔
      ∃ cycle ∈ (projectGraph (Registry.ofProgram p index) config).cycles,
        isDeclaredIn (u.declarations index).validators cycle = true := by
    intro u hu
    have hlen := (cycleFindings_analyzeUnit p index config hcheck hsev u hu).length_eq
    rw [← List.length_pos_iff, ← hlen, List.length_pos_iff, Ne, List.filter_eq_nil_iff]
    simp
  rw [hfind]
  constructor
  · rintro ⟨u, hu, hne⟩
    obtain ⟨cycle, hc, hd⟩ := (hunit u hu).mp hne
    exact ⟨cycle, hc, u, hu, hd⟩
  · rintro ⟨cycle, hc, u, hu, hd⟩
    exact ⟨u, hu, (hunit u hu).mpr ⟨cycle, hc, hd⟩⟩

/-- What the report of a program says of cycles, if they are searched for and their rule is not off.
Every unit reports the cycles of the project's graph with a member which it declares, each once, in
their order, and at the first declaration of the first such member. So if the configuration adds no
dependencies, some cycle is reported just if the dependencies that are declared in code run in a
circle. -/
theorem cycles_reported (p : Program) (config : Config) (hcheck : config.checkCycles = true)
    (hsev : config.severityOf .componentValidator ≠ .off) :
    (∀ u ∈ p.analyzable,
      List.Forall₂ (ReportsCycle (config.severityOf .componentValidator) u.path
        (u.declarations p.index?).validators)
        ((projectGraph (analyzeProgram p config).registry config).cycles.filter
          (isDeclaredIn (u.declarations p.index?).validators))
        (cycleFindings (analyzeUnit u (analyzeProgram p config).registry p.index? config))) ∧
    ((∀ e ∈ config.dependencies, e.2 = []) →
      ((∃ f ∈ (analyzeProgram p config).findings, f.problem.kind = .cycle) ↔
        ∃ a, TransGen (p.DeclaresDependency p.index?) a a)) := by
  rw [analyzeProgram_eq]
  refine ⟨fun u hu => cycleFindings_analyzeUnit p p.index? config hcheck hsev u hu, fun hseed => ?_⟩
  have hrel : (projectGraph (Registry.ofProgram p p.index?) config).DependsOn
      = p.DeclaresDependency p.index? := by
    funext a b
    exact propext (dependsOn_projectGraph p p.index? hseed a b)
  refine (exists_cycleFinding p p.index? config hcheck hsev).trans ?_
  rw [← hrel]
  constructor
  · rintro ⟨cycle, hc, _⟩
    exact ConstraintGraph.cycles_ne_nil_iff.mp (List.ne_nil_of_mem hc)
  · intro hcyclic
    -- the first member of a cycle depends on another component, so some unit declares it
    obtain ⟨cycle, hc⟩ :=
      List.exists_mem_of_ne_nil _ (ConstraintGraph.cycles_ne_nil_iff.mpr hcyclic)
    obtain ⟨a, ha, haa⟩ := (ConstraintGraph.isCycle_of_mem_cycles hc).cyclic
    obtain ⟨b, hab, _⟩ := TransGen.head'_iff.mp haa
    rw [hrel] at hab
    obtain ⟨_, u, hu, v, hv, rfl, _⟩ := hab
    refine ⟨cycle, hc, u, hu, ?_⟩
    simp only [isDeclaredIn, List.any_eq_true, beq_iff_eq]
    exact ⟨v.subject.name, List.dropLast_subset cycle ha, v, hv, rfl⟩

/-- two files, each of which makes its component depend on that of the other -/
def mutualPair : Program :=
  ⟨Program.memoryRoot,
    (Program.unitsOf Program.memoryRoot
      [(Program.memoryRoot.join (.ofString "a.py"), "w.register_validator(A, dependencies=[B])\n"),
        (Program.memoryRoot.join (.ofString "b.py"),
          "w.register_validator(B, dependencies=[A])\n")]).toOption.getD [],
    true⟩

theorem cycles_reported_mutualPair :
    ∃ f ∈ (analyzeProgram mutualPair .default).findings, f.problem.kind = .cycle := by
  have hab : mutualPair.DeclaresDependency mutualPair.index? "A" "B" := by
    unfold Program.DeclaresDependency
    decide +kernel
  have hba : mutualPair.DeclaresDependency mutualPair.index? "B" "A" := by
    unfold Program.DeclaresDependency
    decide +kernel
  have h := (cycles_reported mutualPair .default rfl (by decide +kernel)).2 fun e he =>
    absurd he List.not_mem_nil
  exact h.mpr ⟨"A", TransGen.head hab (TransGen.single hba)⟩

end Archetype
