import Archetype.Proofs.Construction
import Archetype.Proofs.CycleReport
import Archetype.Proofs.TemplateReports

/-!
# How contradictions are reported

A component that depends on what it conflicts with can never be attached. A unit reports this of
every component that it declares, whoever declared the dependency and the conflict, and once for
each pair, however many declarations of the component the unit has: the first of them reports all,
and the later ones find that there is nothing left.

* `Reported`                       what the declarations that were read have reported: the
                                   invariant;
* `mem_contradictionsFrom`         the pairs that a unit reports;
* `ContradictionPlace`             the place in a declaration;
* `contradictionAt_declaredFrom`   each pair is reported with the first declaration of its
                                   component;
* `contradictions_reported_once`   the findings of a unit.
-/

namespace Archetype

open Code (Position)
open ConstraintGraph (Construction)

/-! ## the pairs -/

section
variable {g : ConstraintGraph}

/-- the pairs that the declarations report, one after the other; `reported` are those of the
declarations before -/
def contradictionsFrom (g : ConstraintGraph) (reported : List Edge) : List Validator → List Edge
  | [] => []
  | v :: rest =>
    let found := (v.contradicted g reported).map (v.subject.name, ·)
    found ++ contradictionsFrom g (reported ++ found) rest

theorem Validator.mem_found (v : Validator) (reported : List Edge) (s t : String) :
    (s, t) ∈ (v.contradicted g reported).map (v.subject.name, ·) ↔
      (v.subject.name = s ∧ t ∈ g.contradictions s) ∧ (s, t) ∉ reported := by
  rw [List.mem_map]
  constructor
  · rintro ⟨target, ht, heq⟩
    obtain ⟨rfl, rfl⟩ := Prod.mk.inj heq
    obtain ⟨hmem, hnot⟩ := (v.mem_contradicted g reported target).mp ht
    exact ⟨⟨rfl, hmem⟩, hnot⟩
  · rintro ⟨⟨rfl, hmem⟩, hnot⟩
    exact ⟨t, (v.mem_contradicted g reported t).mpr ⟨hmem, hnot⟩, rfl⟩

theorem declares_cons (v : Validator) (rest : List Validator) (name : String) :
    Declares (v :: rest) name ↔ v.subject.name = name ∨ Declares rest name := by
  simp [Declares]

theorem mem_contradictionsFrom (reported : List Edge) (validators : List Validator) (s t : String) :
    (s, t) ∈ contradictionsFrom g reported validators ↔
      (Declares validators s ∧ t ∈ g.contradictions s) ∧ (s, t) ∉ reported := by
  induction validators generalizing reported with
  | nil => simp [contradictionsFrom, Declares]
  | cons v rest ih =>
    rw [contradictionsFrom, List.mem_append, ih, List.mem_append, v.mem_found, declares_cons]
    tauto

theorem nodup_contradictionsFrom (hg : g.Built) (reported : List Edge)
    (validators : List Validator) :
    (contradictionsFrom g reported validators).Nodup := by
  induction validators generalizing reported with
  | nil => exact List.nodup_nil
  | cons v rest ih =>
    have htargets : (v.contradicted g reported).Nodup :=
      (Names.nodup_sorted ((hg.nodup_dependenciesOf v.subject.name).filter _)).filter _
    have hfound : ((v.contradicted g reported).map (v.subject.name, ·)).Nodup :=
      htargets.map fun _ _ heq => (Prod.mk.inj heq).2
    rw [contradictionsFrom]
    refine List.nodup_append.mpr ⟨hfound, ih _, ?_⟩
    rintro ⟨s, t⟩ hst e hrest rfl
    exact ((mem_contradictionsFrom _ rest s t).mp hrest).2 (List.mem_append_right _ hst)

/-! ## the first declaration of a component -/

/-- `v` is the first declaration of the component -/
def FirstFor (validators : List Validator) (name : String) (v : Validator) : Prop :=
  v.subject.name = name ∧
    ∃ front rest, validators = front ++ v :: rest ∧ ∀ w ∈ front, w.subject.name ≠ name

/-- after the declarations `front`, all contradictions of their components were reported, and no
others -/
def Reported (g : ConstraintGraph) (front : List Validator) (reported : List Edge) : Prop :=
  ∀ s t, (s, t) ∈ reported ↔ Declares front s ∧ t ∈ g.contradictions s

theorem reported_nil : Reported g [] [] := by
  intro s t
  simp [Declares]

theorem Reported.concat {front : List Validator} {reported : List Edge}
    (h : Reported g front reported) (v : Validator) :
    Reported g (front ++ [v])
      (reported ++ (v.contradicted g reported).map (v.subject.name, ·)) := by
  intro s t
  have hdeclares : Declares (front ++ [v]) s ↔ Declares front s ∨ v.subject.name = s := by
    simp [Declares, or_and_right, exists_or]
  rw [List.mem_append, v.mem_found, h s t, hdeclares]
  tauto

/-- a declaration that reports something is the first of its component, as the others would have
reported it before -/
theorem Reported.firstFor {front : List Validator} {reported : List Edge}
    (h : Reported g front reported) {v : Validator} {target : String}
    (ht : target ∈ v.contradicted g reported) (rest : List Validator) :
    FirstFor (front ++ v :: rest) v.subject.name v := by
  obtain ⟨hmem, hnot⟩ := (v.mem_contradicted g reported target).mp ht
  refine ⟨rfl, front, rest, rfl, fun w hw hname => ?_⟩
  exact hnot ((h v.subject.name target).mpr ⟨⟨w, hw, hname⟩, hmem⟩)

end

/-! ## the place in a declaration -/

/-- `r` is the first mention of the name -/
def FirstMention (refs : List Reference) (name : String) (r : Reference) : Prop :=
  r.name = name ∧ ∃ front back, refs = front ++ r :: back ∧ ∀ x ∈ front, x.name ≠ name

theorem firstOf?_eq_some (refs : List Reference) (name : String) (r : Reference) :
    firstOf? refs name = some r ↔ FirstMention refs name r := by
  unfold firstOf? FirstMention
  rw [List.find?_eq_some_iff_append]
  simp

theorem firstOf?_eq_none (refs : List Reference) (name : String) :
    firstOf? refs name = none ↔ ∀ r ∈ refs, r.name ≠ name := by
  unfold firstOf?
  rw [List.find?_eq_none]
  simp

/-- where a declaration has a contradiction: at the conflict, if it lists one with the target; else
at the dependency; and if it lists neither, at its call -/
inductive ContradictionPlace (v : Validator) (target : String) : Position → Prop
  | conflict {r : Reference} : FirstMention v.conflicts target r → ContradictionPlace v target r.pos
  | dependency {r : Reference} : (∀ x ∈ v.conflicts, x.name ≠ target) →
    FirstMention v.dependencies target r →
      ContradictionPlace v target r.pos
  | call : (∀ x ∈ v.conflicts, x.name ≠ target) → (∀ x ∈ v.dependencies, x.name ≠ target) →
      ContradictionPlace v target v.call

theorem contradictionPlace_contradictionPos (v : Validator) (target : String) :
    ContradictionPlace v target (v.contradictionPos target) := by
  unfold Validator.contradictionPos
  cases hconflict : firstOf? v.conflicts target with
  | some r => exact .conflict ((firstOf?_eq_some _ _ r).mp hconflict)
  | none =>
    have hnone := (firstOf?_eq_none _ _).mp hconflict
    cases hdependency : firstOf? v.dependencies target with
    | some r => exact .dependency hnone ((firstOf?_eq_some _ _ r).mp hdependency)
    | none => exact .call hnone ((firstOf?_eq_none _ _).mp hdependency)

/-! ## the problems of declarations -/

/-- the problem is that contradiction, and is placed within the first declaration of its
component -/
structure ContradictionAt (validators : List Validator) (e : Edge) (x : Placed) : Prop where
  problem : x.problem = .contradiction e.1 e.2
  place : ∃ v pos, FirstFor validators e.1 v ∧ ContradictionPlace v e.2 pos ∧ x.pos = some pos

/-- is the problem a contradiction? -/
def Problem.isContradiction (p : Problem) : Bool := p.kind == .contradiction

theorem no_contradiction_of_kind {l : List Placed} {kind : Kind} (hne : kind ≠ .contradiction)
    (h : ∀ x ∈ l, x.problem.kind = kind) : l.filter (·.problem.isContradiction) = [] := by
  refine List.filter_eq_nil_iff.mpr fun x hx => ?_
  unfold Problem.isContradiction
  rw [h x hx]
  simpa using hne

/-- each pair in turn is reported, with the first declaration of its component -/
theorem contradictionAt_declaredFrom {g : ConstraintGraph} {front : List Validator}
    {reported : List Edge} (h : Reported g front reported) (validators : List Validator) :
    List.Forall₂ (ContradictionAt (front ++ validators)) (contradictionsFrom g reported validators)
      ((declaredFrom g reported validators).filter (·.problem.isContradiction)) := by
  induction validators generalizing front reported with
  | nil => exact .nil
  | cons v rest ih =>
    have hkept : (v.contradictions (v.contradicted g reported)).filter (·.problem.isContradiction)
        = v.contradictions (v.contradicted g reported) := by
      refine List.filter_eq_self.mpr fun x hx => ?_
      exact beq_iff_eq.mpr (v.kind_contradictions _ x hx)
    have hown : List.Forall₂ (ContradictionAt (front ++ v :: rest))
        ((v.contradicted g reported).map (v.subject.name, ·))
          (v.contradictions (v.contradicted g reported)) := by
      unfold Validator.contradictions
      rw [List.forall₂_map_left_iff, List.forall₂_map_right_iff, List.forall₂_same]
      intro target ht
      refine ⟨rfl, v, v.contradictionPos target, h.firstFor ht rest, ?_, rfl⟩
      exact contradictionPlace_contradictionPos v target
    have hrest := ih (h.concat v)
    rw [List.append_assoc, List.singleton_append] at hrest
    have hself := no_contradiction_of_kind (by decide) v.kind_selfReferences
    have hrepeated := no_contradiction_of_kind (by decide) v.kind_repetitions
    simp only [declaredFrom, contradictionsFrom, List.filter_append, hself, hkept, hrepeated,
      List.nil_append, List.append_nil]
    exact List.rel_append hown hrest

/-- all contradictions are found by the check of declarations one by one -/
theorem filter_declaredProblems (g : ConstraintGraph) (checkCycles : Bool) (d : Declarations) :
    (declaredProblems g checkCycles d).filter (·.problem.isContradiction)
      = (declaredFrom g [] d.validators).filter (·.problem.isContradiction) := by
  unfold declaredProblems
  rw [List.filter_append]
  cases checkCycles with
  | true =>
    rw [if_pos rfl, no_contradiction_of_kind (by decide) (kind_cycleProblems g d.validators),
      List.append_nil]
  | false => rw [if_neg Bool.false_ne_true, List.filter_nil, List.append_nil]

theorem rule_of_isContradiction {p : Problem} (h : p.isContradiction = true) :
    p.rule = .componentValidator := by
  cases p <;> first | rfl | cases h

theorem no_contradiction_of_rule {l : List Placed} {rule : Rule} (hne : rule ≠ .componentValidator)
    (h : ∀ x ∈ l, x.problem.rule = rule) : l.filter (·.problem.isContradiction) = [] := by
  refine List.filter_eq_nil_iff.mpr fun x hx hcontradiction => ?_
  exact hne ((h x hx).symm.trans (rule_of_isContradiction hcontradiction))

/-! ## findings -/

/-- the findings that tell of a contradiction -/
def contradictionFindings (findings : List Finding) : List Finding :=
  findings.filter (·.problem.isContradiction)

/-- `f` reports the contradiction in a file, within the first declaration of its component and with
the level of the rule -/
structure ReportsContradiction (severity : Severity) (path : Path) (validators : List Validator)
    (e : Edge) (f : Finding) : Prop where
  problem : f.problem = .contradiction e.1 e.2
  location : ∃ v pos, FirstFor validators e.1 v ∧ ContradictionPlace v e.2 pos ∧
    f.location = .of path (some pos)
  level : severity.level? = some f.level

theorem contradictionFindings_findings (config : Config) (path : Path) (problems : List Placed) :
    contradictionFindings (config.findings path problems)
      = config.findings path (problems.filter (·.problem.isContradiction)) :=
  filter_findings config.severityOf path Problem.isContradiction problems

/-- the other checks of a unit find no contradictions -/
theorem contradictionFindings_analyzeUnit (u : SourceUnit) (registry : Registry)
    (index : Option Index) (config : Config) :
    contradictionFindings (analyzeUnit u registry index config)
      = contradictionFindings (config.findings u.path (declaredProblems
          (unitGraph registry config (u.declarations index)) config.checkCycles
            (u.declarations index))) := by
  have hunit : analyzeUnit u registry index config
      = config.findings u.path
        (unitProblems u ⟨u.module, index⟩ (unitGraph registry config (u.declarations index))
          config.checkCycles (u.declarations index)) := rfl
  rw [hunit, contradictionFindings_findings, contradictionFindings_findings]
  unfold unitProblems
  simp only [List.filter_append]
  rw [no_contradiction_of_rule (by decide) (rule_trackProblems _ _ _),
    no_contradiction_of_rule (by decide) (rule_templateProblems _ _),
    no_contradiction_of_rule (by decide) (rule_queryProblems _ _), List.append_nil, List.append_nil,
    List.append_nil]

theorem reportsContradiction_findings (g : ConstraintGraph) {config : Config}
    (hsev : config.severityOf .componentValidator ≠ .off) (path : Path) (d : Declarations) :
    List.Forall₂ (ReportsContradiction (config.severityOf .componentValidator) path d.validators)
      (contradictionsFrom g [] d.validators)
      (contradictionFindings (config.findings path (declaredProblems g config.checkCycles d))) := by
  obtain ⟨level, hlevel⟩ := Option.ne_none_iff_exists'.mp ((Severity.level?_eq_none _).not.mpr hsev)
  have hrule : ∀ x ∈ (declaredFrom g [] d.validators).filter (·.problem.isContradiction),
      x.problem.rule = .componentValidator := by
    intro x hx
    exact rule_of_isContradiction (List.mem_filter.mp hx).2
  rw [contradictionFindings_findings, filter_declaredProblems, Config.findings_eq_map hrule hlevel,
    List.forall₂_map_right_iff]
  refine (contradictionAt_declaredFrom reported_nil d.validators).imp fun e x hx => ?_
  obtain ⟨v, pos, hfirst, hplace, hpos⟩ := hx.place
  exact ⟨hx.problem, ⟨v, pos, hfirst, hplace, by rw [hpos]⟩, hlevel⟩

/-- What a unit reports of contradictions, if their rule is not off. Whatever graph is put together,
the check of the declarations has one finding for each pair of which the first component is declared
in the unit, and depends on the second and conflicts with it in the graph. It does not matter which
sources declare the two, or that the conflict is declared by the second component if conflicts are
symmetric; and no component contradicts itself. The finding is placed within the first declaration
of the component: at its conflict with the second one, else at its dependency on it, else at its
call. The other checks of a unit find no contradictions. -/
theorem contradictions_reported_once (config : Config)
    (hsev : config.severityOf .componentValidator ≠ .off) :
    (∀ (k : Construction) (path : Path) (d : Declarations), ∃ pairs : List Edge,
      ListsOnce pairs (fun e => Declares d.validators e.1 ∧ e.2 ∈ k.graph.dependenciesOf e.1 ∧
        e.2 ∈ k.graph.conflictsOf e.1) ∧
      (∀ s t, (s, t) ∈ pairs ↔ Declares d.validators s ∧ t ≠ s ∧ k.Declares .dependency s t ∧
        (k.Declares .conflict s t ∨ (k.symmetric = true ∧ k.Declares .conflict t s))) ∧
      (∀ s, (s, s) ∉ pairs) ∧
      List.Forall₂ (ReportsContradiction (config.severityOf .componentValidator) path d.validators)
        pairs
        (contradictionFindings
          (config.findings path (declaredProblems k.graph config.checkCycles d)))) ∧
    ∀ (u : SourceUnit) (registry : Registry) (index : Option Index),
      contradictionFindings (analyzeUnit u registry index config)
        = contradictionFindings (config.findings u.path (declaredProblems
            (Construction.mk config.symmetricConflicts registry config.seed
              (some (u.declarations index)) []).graph
            config.checkCycles (u.declarations index))) := by
  refine ⟨fun k path d => ?_, fun u registry index => ?_⟩
  · have hmem : ∀ s t, (s, t) ∈ contradictionsFrom k.graph [] d.validators ↔
        Declares d.validators s ∧ t ∈ k.graph.dependenciesOf s ∧ t ∈ k.graph.conflictsOf s := by
      intro s t
      rw [mem_contradictionsFrom, ConstraintGraph.mem_contradictions]
      simp [ConstraintGraph.DependsOn]
    have hsources : ∀ s t, (s, t) ∈ contradictionsFrom k.graph [] d.validators ↔
        Declares d.validators s ∧ t ≠ s ∧
        k.Declares .dependency s t ∧
        (k.Declares .conflict s t ∨ (k.symmetric = true ∧ k.Declares .conflict t s)) := by
      intro s t
      rw [hmem, k.mem_dependenciesOf, k.mem_conflictsOf]
      tauto
    refine ⟨contradictionsFrom k.graph [] d.validators, ?_, hsources, fun s hs => ?_, ?_⟩
    · exact ⟨nodup_contradictionsFrom k.built_graph [] d.validators, fun e => hmem e.1 e.2⟩
    · exact ((hsources s s).mp hs).2.1 rfl
    · exact reportsContradiction_findings k.graph hsev path d
  · rw [← ConstraintGraph.unitGraph_eq_graph]
    exact contradictionFindings_analyzeUnit u registry index config

/-- a file with two declarations of a component, of which only the second has a dependency on
another -/
def twiceDeclared : Declarations :=
  ⟨[⟨⟨"A", ⟨1, 21⟩⟩, .name ⟨1, 21⟩ "A", ⟨1, 0⟩, [⟨"C", ⟨1, 38⟩⟩], [], some ⟨1, 37⟩, none⟩,
    ⟨⟨"A", ⟨2, 21⟩⟩, .name ⟨2, 21⟩ "A", ⟨2, 0⟩, [⟨"B", ⟨2, 38⟩⟩], [], some ⟨2, 37⟩, none⟩], [], []⟩

/-- the graph with a conflict that a seed gives to the other component -/
def opposedTwice : Construction := ⟨true, .empty, [("B", ⟨[], ["A"]⟩)], some twiceDeclared, []⟩

/-- settings with which no cycles are searched for -/
def acyclicSettings : Config := { Config.default with checkCycles := false }

theorem contradictions_reported_once_twiceDeclared :
    acyclicSettings.severityOf .componentValidator ≠ .off ∧
    contradictionFindings (acyclicSettings.findings Program.memoryRoot
        (declaredProblems opposedTwice.graph acyclicSettings.checkCycles twiceDeclared))
      = [⟨.contradiction "A" "B", .of Program.memoryRoot (some ⟨1, 0⟩), .error⟩] ∧
    ReportsContradiction .error Program.memoryRoot twiceDeclared.validators ("A", "B")
      ⟨.contradiction "A" "B", .of Program.memoryRoot (some ⟨1, 0⟩), .error⟩ := by
  have hsev : acyclicSettings.severityOf .componentValidator ≠ .off := by decide +kernel
  have hfound : contradictionFindings (acyclicSettings.findings Program.memoryRoot
        (declaredProblems opposedTwice.graph acyclicSettings.checkCycles twiceDeclared))
      = [⟨.contradiction "A" "B", .of Program.memoryRoot (some ⟨1, 0⟩), .error⟩] := by
        decide +kernel
  obtain ⟨pairs, hpairs, _, _, hreports⟩ :=
    (contradictions_reported_once acyclicSettings hsev).1 opposedTwice Program.memoryRoot
      twiceDeclared
  have hmem : ("A", "B") ∈ pairs := by
    refine (hpairs.mem _).mpr ⟨?_, by decide +kernel, by decide +kernel⟩
    exact ⟨_, List.mem_cons_self .., rfl⟩
  rw [hfound] at hreports
  obtain ⟨e, rest, hreport, hrest, rfl⟩ := List.forall₂_cons_right_iff.mp hreports
  rw [List.forall₂_nil_right_iff.mp hrest, List.mem_singleton] at hmem
  subst hmem
  exact ⟨hsev, hfound, hreport⟩

end Archetype
