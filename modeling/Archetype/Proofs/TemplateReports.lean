import Archetype.Proofs.QueryVerdict
import Archetype.Proofs.Replay
import Archetype.Proofs.SamePairs

/-!
# What is reported of a template

A component that could not be attached counts as attached from then on. So what is reported of each
component of a template depends on nothing but the names before it: first the dependencies that are
not among them, then those of them that it conflicts with, both in the order of names. If conflicts
are symmetric, the pairs that come up in this way are the pairs that a query for the same components
is told of.

* `ListsInOrder`                  a list that has just the names with a property, in order;
* `ReportsOf`                     the problems of one component, behind some others;
* `exists_reports_replay`         the reports of a list, component by component;
* `dependencyFirst_iff_takeWhile` dependencies stand before the first occurrence;
* `clash_concat`                  the pairs in conflict of a list that is one name longer;
* `template_reports`              all of it, for the findings of a template.
-/

namespace Archetype

variable {g : ConstraintGraph}

/-! ## names in order -/

/-- the list has just the names with the property, each once and in order -/
structure ListsInOrder (l : List String) (P : String → Prop) : Prop where
  sorted : l.Pairwise (· < ·)
  mem : ∀ x, x ∈ l ↔ P x

theorem Names.pairwise_lt_sorted {s : List String} (h : s.Nodup) :
    (Names.sorted s).Pairwise (· < ·) := by
  have hle : (Names.sorted s).Pairwise (· ≤ ·) := Names.byKey_le.pairwise_mergeSort s
  exact (hle.and (Names.nodup_sorted h)).imp fun hab => lt_of_le_of_ne hab.1 hab.2

theorem listsInOrder_filter_sorted {s : List String} (h : s.Nodup) {keep : String → Bool}
    {P : String → Prop} (hkeep : ∀ x, keep x = true ↔ P x) :
    ListsInOrder ((Names.sorted s).filter keep) fun x => x ∈ s ∧ P x := by
  refine ⟨(Names.pairwise_lt_sorted h).filter _, fun x => ?_⟩
  rw [List.mem_filter, Names.mem_sorted, hkeep]

/-! ## the reports of a list -/

/-- the problems of a component behind some others: the dependencies that are not among them, one
after the other, and then those of them that it conflicts with -/
def ReportsOf (g : ConstraintGraph) (composite : Composite) (before : List String) (c : String)
    (problems : List Problem) : Prop :=
  ∃ missing clashing : List String,
    problems = missing.map (Problem.missingDependency composite c)
      ++ clashing.map (Problem.conflictingComponent composite c) ∧
    ListsInOrder missing (fun d => g.DependsOn c d ∧ d ∉ before) ∧
    ListsInOrder clashing (fun x => x ∈ g.conflictsOf c ∧ x ∈ before)

/-- it does not matter in which order the others were attached, or how often -/
theorem reportsOf_attachProblems (h : g.Built) (composite : Composite) {present : Names}
    {before : List String} (hsame : ∀ x, x ∈ present ↔ x ∈ before) (c : String) :
    ReportsOf g composite before c (attachProblems g composite present c) := by
  refine ⟨_, _, rfl, ?_, ?_⟩
  · refine listsInOrder_filter_sorted (h.nodup_dependenciesOf c) fun d => ?_
    rw [Bool.not_eq_true', Bool.eq_false_iff, ne_eq, List.contains_iff_mem, hsame]
  · refine listsInOrder_filter_sorted (h.nodup_conflictsOf c) fun x => ?_
    rw [List.contains_iff_mem, hsame]

/-- every component of a list has its own reports, those of the names before it -/
def ReportsInTurn (g : ConstraintGraph) (composite : Composite)
    (reports : List (Reference × List Problem)) : Prop :=
  ∀ front r problems, front ++ [(r, problems)] <+: reports →
    ReportsOf g composite (front.map (·.1.name)) r.name problems

theorem ReportsInTurn.concat {composite : Composite} {reports : List (Reference × List Problem)}
    (h : ReportsInTurn g composite reports) {r : Reference} {problems : List Problem}
    (hlast : ReportsOf g composite (reports.map (·.1.name)) r.name problems) :
    ReportsInTurn g composite (reports ++ [(r, problems)]) := by
  intro front s ps hp
  rcases List.prefix_concat_iff.mp hp with heq | hp
  · obtain ⟨rfl, hlasts⟩ := List.append_inj' heq rfl
    obtain ⟨rfl, rfl⟩ := Prod.mk.inj (List.singleton_inj.mp hlasts)
    exact hlast
  · exact h front s ps hp

/-- what is reported of a list is what is reported of its components, one after the other -/
theorem exists_reports_replay (h : g.Built) (composite : Composite) (refs : List Reference) :
    ∃ reports : List (Reference × List Problem), reports.map (·.1) = refs ∧
      replay g composite [] refs = reports.flatMap (fun e => e.2.map fun p => ⟨p, some e.1.pos⟩) ∧
      ReportsInTurn g composite reports := by
  induction refs using List.reverseRecOn with
  | nil => exact ⟨[], rfl, rfl, fun front r ps hp => absurd (List.prefix_nil.mp hp) (by simp)⟩
  | append_singleton refs r ih =>
    obtain ⟨reports, hrefs, hreplay, hturn⟩ := ih
    -- what is attached by then are the names before the last component
    have hpresent : ∀ x, x ∈ Names.addAll [] (refs.map (·.name)) ↔ x ∈ reports.map (·.1.name) := by
      intro x
      rw [Names.mem_addAll, ← hrefs, List.map_map]
      exact or_iff_right List.not_mem_nil
    refine ⟨_, ?_, ?_, hturn.concat (reportsOf_attachProblems h composite hpresent r.name)⟩
    · rw [List.map_append, hrefs, List.map_singleton]
    · rw [replay_concat, List.flatMap_append, hreplay, List.flatMap_singleton]

/-! ## dependencies and conflicts in a list -/

/-- dependencies stand first just if they stand before the first occurrence of what depends on
them -/
theorem ConstraintGraph.dependencyFirst_iff_takeWhile (names : List String) :
    g.DependencyFirst names ↔ ∀ x ∈ names, ∀ d, g.DependsOn x d → d ∈ names.takeWhile (· != x) := by
  constructor
  · intro h x hx d hd
    obtain ⟨front, rest, rfl, hnot⟩ := List.eq_append_cons_of_mem hx
    rw [takeWhile_ne_append_cons hnot]
    exact h front x ⟨rest, by rw [← List.append_cons]⟩ d hd
  · rintro h front x ⟨rest, rfl⟩ d hd
    have hmem := h x (by simp) d hd
    rw [List.append_assoc, List.takeWhile_append] at hmem
    split at hmem
    · simpa using hmem
    · exact (List.takeWhile_sublist _).mem hmem

/-- the pairs in conflict of a list that is one name longer -/
theorem clash_concat (h : g.Built) (hs : g.symmetric = true) (names : List String) (c : String)
    (z : Sym2 String) :
    Clash g (names ++ [c]) z ↔ Clash g names z ∨ ∃ x ∈ g.conflictsOf c, x ∈ names ∧
    z = s(c, x) := by
  constructor
  · rintro ⟨a, ha, b, hb, hne, hab, rfl⟩
    have hba := (ConstraintGraph.inConflict_iff hs a b).mp hab
    rcases List.mem_append.mp ha with ha' | ha' <;> rcases List.mem_append.mp hb with hb' | hb'
    · exact Or.inl ⟨a, ha', b, hb', hne, hab, rfl⟩
    · obtain rfl := List.mem_singleton.mp hb'
      exact Or.inr ⟨a, hba, ha', Sym2.eq_swap⟩
    · obtain rfl := List.mem_singleton.mp ha'
      exact Or.inr ⟨b, (ConstraintGraph.conflictsOf_comm hs a b).mpr hba, hb', rfl⟩
    · exact absurd ((List.mem_singleton.mp ha').trans (List.mem_singleton.mp hb').symm) hne
  · rintro (⟨a, ha, b, hb, hne, hab, rfl⟩ | ⟨x, hx, hmem, rfl⟩)
    · exact ⟨a, List.mem_append_left _ ha, b, List.mem_append_left _ hb, hne, hab, rfl⟩
    · have hne : c ≠ x := fun e => h.not_mem_conflictsOf c (e ▸ hx)
      have hcx := (ConstraintGraph.inConflict_iff hs c x).mpr
        ((ConstraintGraph.conflictsOf_comm hs c x).mp hx)
      exact ⟨c, by simp, x, List.mem_append_left _ hmem, hne, hcx, rfl⟩

/-- attaching a component comes upon just those present that it conflicts with -/
theorem conflictingComponent_mem_attachProblems (composite : Composite) (present : Names)
    (c a b : String) :
    Problem.conflictingComponent composite a b ∈ attachProblems g composite present c ↔
      a = c ∧ b ∈ g.conflictsOf c ∧ b ∈ present := by
  rw [mem_attachProblems]
  constructor
  · rintro (⟨d, _, _, heq⟩ | ⟨x, hx, hmem, heq⟩)
    · cases heq
    · cases heq
      exact ⟨rfl, hx, hmem⟩
  · rintro ⟨rfl, hb, hmem⟩
    exact Or.inr ⟨b, hb, hmem, rfl⟩

/-- attaching a list one by one comes upon just the pairs of it that are in conflict -/
theorem exists_conflictingComponent_replay_iff (h : g.Built) (hs : g.symmetric = true)
    (composite : Composite) (refs : List Reference) (z : Sym2 String) :
    (∃ a b, Problem.conflictingComponent composite a b ∈ (replay g composite [] refs).map
      (·.problem) ∧ z = s(a, b)) ↔
      Clash g (refs.map (·.name)) z := by
  induction refs using List.reverseRecOn with
  | nil => exact iff_of_false (by simp [replay]) (by simp [Clash])
  | append_singleton refs r ih =>
    rw [List.map_append, List.map_singleton, clash_concat h hs, ← ih, replay_concat,
      List.map_append, List.map_map]
    simp only [List.mem_append, Function.comp_def, List.map_id',
      conflictingComponent_mem_attachProblems, Names.mem_addAll, List.not_mem_nil, false_or,
      or_and_right, exists_or]
    refine or_congr_right ?_
    constructor
    · rintro ⟨_, b, ⟨rfl, hb, hmem⟩, rfl⟩
      exact ⟨b, hb, hmem, rfl⟩
    · rintro ⟨b, hb, hmem, rfl⟩
      exact ⟨r.name, b, ⟨rfl, hb, hmem⟩, rfl⟩

/-- a query is told of just the pairs of its components that are in conflict -/
theorem Query.exists_conflictingPair_iff (q : Query) (z : Sym2 String) :
    (∃ a b, Problem.conflictingPair a b ∈ (q.problems g).map (·.problem) ∧ z = s(a, b)) ↔
      Clash g q.wanted z := by
  refine Iff.trans ?_ ((clashingPairs_listsOnce g q.all).mem z)
  have hpair : ∀ a b, Problem.conflictingPair a b ∈ (q.problems g).map (·.problem) ↔
      (a, b) ∈ clashingPairs g q.all := by
    intro a b
    simp [Query.problems, clashingPairs]
  simp only [hpair, List.mem_map, Prod.exists]
  exact exists_congr fun a => exists_congr fun b => and_congr_right fun _ => eq_comm

/-! ## findings -/

/-- the findings of some problems in a file -/
def Config.findings (config : Config) (path : Path) (problems : List Placed) : List Finding :=
  problems.filterMap (Placed.finding? config.severityOf path)

/-- if they are all of one rule that is not off, each problem has its finding, at the level of the
rule -/
theorem Config.findings_eq_map {config : Config} {path : Path} {problems : List Placed}
    {rule : Rule} {level : Level} (hrule : ∀ x ∈ problems, x.problem.rule = rule)
    (hlevel : (config.severityOf rule).level? = some level) :
    config.findings path problems = problems.map fun x => ⟨x.problem, .of path x.pos, level⟩ := by
  unfold findings
  rw [← List.filterMap_eq_map]
  refine List.filterMap_congr fun x hx => ?_
  rw [Placed.finding?, hrule x hx, hlevel]
  rfl

/-- What is reported of templates, exactly. Each template is checked on its own, and if the rule is
not off, the findings of one are the reports of its components in turn: for each component its
dependencies that are not among the names before it, each once and in order, and then the names
before it that it conflicts with, each once and in order. If conflicts are symmetric, nothing is
reported just if all dependencies of a component stand before its first occurrence and no two
components are in conflict; and the pairs that are reported are those that are reported of a query
for the same components. -/
theorem template_reports (h : g.Built) (config : Config) (path : Path)
    (hsev : config.severityOf .componentOrder ≠ .off) :
    (∀ d : Declarations, config.findings path (templateProblems g d)
      = d.templates.flatMap fun t => config.findings path (t.problems g)) ∧
    ∀ t : Template,
      (∃ (level : Level) (reports : List (Reference × List Problem)),
        (config.severityOf .componentOrder).level? = some level ∧ reports.map (·.1) = t.components ∧
        config.findings path (t.problems g)
          = reports.flatMap (fun e => e.2.map fun p => ⟨p, .of path (some e.1.pos), level⟩) ∧
        ReportsInTurn g (.template t.shownName) reports) ∧
      (g.symmetric = true →
        (config.findings path (t.problems g) = [] ↔
          (∀ x ∈ t.names, ∀ d, g.DependsOn x d → d ∈ t.names.takeWhile (· != x)) ∧
          ∀ x ∈ t.names, ∀ y ∈ t.names, g.inConflict x y = false) ∧
        (config.severityOf .queryValidator ≠ .off → ∀ q : Query, q.wanted = t.names →
          ∀ z : Sym2 String,
          ((∃ a b, Problem.conflictingComponent (.template t.shownName) a b
              ∈ (config.findings path (t.problems g)).map (·.problem) ∧ z = s(a, b)) ↔
            ∃ a b, Problem.conflictingPair a b
              ∈ (config.findings path (q.problems g)).map (·.problem) ∧ z = s(a, b)))) := by
  obtain ⟨level, hlevel⟩ := Option.ne_none_iff_exists'.mp ((Severity.level?_eq_none _).not.mpr hsev)
  have hfound : ∀ t : Template, config.findings path (t.problems g)
      = (t.problems g).map fun x => ⟨x.problem, .of path x.pos, level⟩ :=
    fun t => Config.findings_eq_map (rule_templateProblems g _) hlevel
  refine ⟨fun d => ?_, fun t => ⟨?_, fun hs => ⟨?_, fun hsev' q hq z => ?_⟩⟩⟩
  · simp only [Config.findings, Template.problems_eq]
    exact List.filterMap_flatMap ..
  · obtain ⟨reports, hrefs, hreplay, hturn⟩ :=
      exists_reports_replay h (.template t.shownName) t.components
    refine ⟨level, reports, hlevel, hrefs, ?_, hturn⟩
    rw [hfound, t.problems_eq, hreplay, List.map_flatMap]
    simp only [List.map_map]
    rfl
  · rw [hfound, List.map_eq_nil_iff, t.problems_eq_nil_iff h hs,
      ConstraintGraph.dependencyFirst_iff_takeWhile]
  · have hquery : (config.findings path (q.problems g)).map (·.problem)
        = (q.problems g).map (·.problem) :=
      map_problem_findings fun x hx => by rwa [q.rule_problems g x hx]
    rw [hquery, q.exists_conflictingPair_iff, hq, hfound, List.map_map, t.problems_eq]
    exact exists_conflictingComponent_replay_iff h hs _ _ z

/-- `A` and `C` are in conflict, and `A` comes twice and lacks `B` -/
def crowdedTemplate : Template := .listing ["A", "C", "A"]

/-- a query for the same components -/
def crowdedQuery : Query := ⟨none, .start, crowdedTemplate.components, [], [], [], []⟩

theorem template_reports_crowdedTemplate :
    Problem.conflictingComponent (.template "<unnamed>") "C" "A"
      ∈ (Config.default.findings Program.memoryRoot (crowdedTemplate.problems pickyPair)).map
        (·.problem) ∧
    ∃ a b, Problem.conflictingPair a b
      ∈ (Config.default.findings Program.memoryRoot (crowdedQuery.problems pickyPair)).map
        (·.problem) ∧
        s("C", "A") = s(a, b) := by
  have hfound : Problem.conflictingComponent (.template "<unnamed>") "C" "A"
      ∈ (Config.default.findings Program.memoryRoot (crowdedTemplate.problems pickyPair)).map
        (·.problem) := by
    decide +kernel
  obtain ⟨_, hexact⟩ :=
    template_reports (ConstraintGraph.built_ofDeclared true [("A", ⟨["B"], ["C"]⟩)])
      .default Program.memoryRoot (by decide)
  obtain ⟨_, hsymm⟩ := hexact crowdedTemplate
  obtain ⟨_, hpairs⟩ := hsymm rfl
  exact ⟨hfound, (hpairs (by decide) crowdedQuery rfl _).mp ⟨"C", "A", hfound, rfl⟩⟩

end Archetype
