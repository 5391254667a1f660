import Archetype.Proofs.Recorded
import Archetype.Proofs.Severity
import Archetype.Proofs.Tracking

/-!
# Well-formed findings

Problems are found in many places, and every one of them must give its finding all that a report
shows: a rule that lists its kind, a line and a column, and a template for its message with a value
for each field. A place could be missing for one problem alone: a component in its own lists is
reported where the list starts, and a declaration need not have a list. One that names something
has.

* `Validator.Located`        a declaration whose lists have places, if something is in them;
* `located_unitProblems`     all problems of a unit have places;
* `renderMessage_eq_message` the message of a problem, from the template of its kind and variant;
* `Finding.WellFormed`       what every finding has;
* `wellFormed_findings`      the findings of a program have it.
-/

namespace Archetype

open Code

/-! ## places -/

/-- the lists that name something have places -/
structure Validator.Located (v : Validator) : Prop where
  dependencies : v.dependencies ≠ [] → v.dependenciesPos.isSome = true
  conflicts : v.conflicts ≠ [] → v.conflictsPos.isSome = true

/-- only an expression names components -/
theorem Resolver.isSome_of_references (r : Resolver) (e : Option Expr) (h : r.references e ≠ []) :
    (e.map Expr.pos).isSome = true := by
  cases e with
  | none => exact absurd rfl h
  | some e => rfl

theorem Resolver.located_validator? {r : Resolver} {call : Position} {s : ValidatorShape}
    {v : Validator} (h : r.validator? call s = some v) : v.Located := by
  unfold Resolver.validator? at h
  split at h
  · obtain rfl := Option.some.inj h
    exact ⟨r.isSome_of_references s.dependencies, r.isSome_of_references s.conflicts⟩
  · cases h

theorem Declarations.located_ofUnit (u : SourceUnit) (r : Resolver) :
    ∀ v ∈ (Declarations.ofUnit u r).validators, v.Located := by
  intro v hv
  obtain ⟨⟨c, s⟩, _, hs⟩ := List.mem_filterMap.mp hv
  cases s with
  | validator shape => exact Resolver.located_validator? hs
  | template _ | query _ | create | attach _ _ => cases hs

/-- a list that the component itself is in names something -/
theorem Validator.Located.selfReferences {v : Validator} (h : v.Located) :
    ∀ x ∈ v.selfReferences, x.pos.isSome = true := by
  have hown : ∀ (side : Side) (refs : List Reference) (pos : Option Position),
      (refs ≠ [] → pos.isSome = true) →
      ∀ x ∈ (if (refs.map (·.name)).contains v.subject.name then
        [(⟨.selfReference side v.subject.name, pos⟩ : Placed)] else []), x.pos.isSome = true := by
    intro side refs pos hpos x hx
    split at hx
    · rename_i hmem
      rw [List.mem_singleton.mp hx]
      refine hpos fun hnil => ?_
      rw [hnil] at hmem
      cases hmem
    · exact absurd hx List.not_mem_nil
  intro x hx
  rcases List.mem_append.mp hx with hx | hx
  · exact hown .dependency _ _ h.dependencies x hx
  · exact hown .conflict _ _ h.conflicts x hx

theorem Validator.located_contradictions (v : Validator) (targets : List String) :
    ∀ x ∈ v.contradictions targets, x.pos.isSome = true := by
  intro x hx
  obtain ⟨_, _, rfl⟩ := List.mem_map.mp hx
  rfl

theorem Validator.located_repetitions (v : Validator) :
    ∀ x ∈ v.repetitions, x.pos.isSome = true := by
  intro x hx
  rcases List.mem_append.mp hx with hx | hx <;> obtain ⟨_, _, rfl⟩ := List.mem_map.mp hx <;> rfl

theorem located_declaredFrom (g : ConstraintGraph) (reported : List Edge) (vs : List Validator)
    (h : ∀ v ∈ vs, v.Located) : ∀ x ∈ declaredFrom g reported vs, x.pos.isSome = true := by
  induction vs generalizing reported with
  | nil => exact fun x hx => absurd hx List.not_mem_nil
  | cons v vs ih =>
    intro x hx
    simp only [declaredFrom, List.mem_append] at hx
    rcases hx with ((hx | hx) | hx) | hx
    · exact (h v (List.mem_cons_self ..)).selfReferences x hx
    · exact v.located_contradictions _ x hx
    · exact v.located_repetitions x hx
    · exact ih _ (fun v' hv' => h v' (List.mem_cons_of_mem _ hv')) x hx

theorem located_declaredProblems (g : ConstraintGraph) (checkCycles : Bool) (d : Declarations)
    (h : ∀ v ∈ d.validators, v.Located) :
    ∀ x ∈ declaredProblems g checkCycles d, x.pos.isSome = true := by
  intro x hx
  rcases List.mem_append.mp hx with hx | hx
  · exact located_declaredFrom g [] d.validators h x hx
  · split at hx
    · obtain ⟨_, _, hx⟩ := List.mem_filterMap.mp hx
      obtain ⟨_, _, rfl⟩ := Option.map_eq_some_iff.mp hx
      rfl
    · exact absurd hx List.not_mem_nil

theorem located_replay (g : ConstraintGraph) (composite : Composite) (present : Names)
    (refs : List Reference) :
    ∀ x ∈ replay g composite present refs, x.pos.isSome = true := by
  induction refs generalizing present with
  | nil => exact fun x hx => absurd hx List.not_mem_nil
  | cons r refs ih =>
    intro x hx
    rcases List.mem_append.mp hx with hx | hx
    · obtain ⟨_, _, rfl⟩ := List.mem_map.mp hx
      rfl
    · exact ih _ x hx

theorem Query.located_problems (g : ConstraintGraph) (q : Query) :
    ∀ x ∈ q.problems g, x.pos.isSome = true := by
  intro x hx
  simp only [Query.problems, List.mem_append, List.mem_map] at hx
  rcases hx with (((((⟨_, _, rfl⟩ | ⟨_, _, rfl⟩) | ⟨_, _, rfl⟩) | ⟨_, _, rfl⟩) | ⟨_, _, rfl⟩) |
    ⟨_, _, rfl⟩) |
    ⟨_, _, rfl⟩ <;> rfl

/-- all problems of a unit have places -/
theorem located_unitProblems (u : SourceUnit) (r : Resolver) (g : ConstraintGraph)
    (checkCycles : Bool) :
    ∀ x ∈ unitProblems u r g checkCycles (Declarations.ofUnit u r), x.pos.isSome = true := by
  intro x hx
  rw [unitProblems, List.mem_append, List.mem_append, List.mem_append] at hx
  rcases hx with ((hx | hx) | hx) | hx
  · exact located_declaredProblems g checkCycles _ (Declarations.located_ofUnit u r) x hx
  · exact trackProblems_forall g r u.body (fun x => x.pos.isSome = true) (fun _ _ _ _ _ => rfl) x hx
  · obtain ⟨t, _, hx⟩ := List.mem_flatMap.mp hx
    exact located_replay g _ _ _ x hx
  · obtain ⟨q, _, hx⟩ := List.mem_flatMap.mp hx
    exact q.located_problems g x hx

/-! ## messages -/

/-- every kind of problem has a template of its own for its variant -/
theorem Problem.isSome_template? (p : Problem) : (template? p.kind p.variant).isSome = true := by
  rcases p with ⟨side, _⟩ | ⟨_, _⟩ | ⟨side, _⟩ | _ | ⟨c, _, _⟩ | ⟨c, _, _⟩ | _ | _ | ⟨_, _⟩ |
    ⟨list, _⟩
  · cases side <;> rfl
  · rfl
  · cases side <;> rfl
  · rfl
  · cases c <;> rfl
  · cases c <;> rfl
  · rfl
  · rfl
  · rfl
  · cases list <;> rfl

theorem renderMessage_eq_message (p : Problem) :
    renderMessage p.kind p.variant p.data = .ok p.message := by
  obtain ⟨s, hs⟩ := renderMessage_problem p
  unfold Problem.message
  split
  · rename_i s' hs'
    exact hs'
  · rename_i e he
    rw [hs] at he
    cases he

/-- the message is the template of the problem's kind and variant, filled with its data -/
theorem Problem.fill_template (p : Problem) :
    ∃ pieces, template? p.kind p.variant = some pieces ∧ fill p.data pieces = .ok p.message := by
  obtain ⟨pieces, hpieces⟩ := Option.isSome_iff_exists.mp p.isSome_template?
  refine ⟨pieces, hpieces, ?_⟩
  have h := renderMessage_eq_message p
  rw [renderMessage, hpieces] at h
  exact h

/-! ## findings -/

/-- What every finding in the file `path` has: a known rule that lists its kind, the level that the
severity of the rule gives, a line and a column in the file, and a template with a value for each
field. -/
structure Finding.WellFormed (severity : Rule → Severity) (path : Path) (f : Finding) : Prop where
  rule : Rule.ofId? f.rule.id = some f.rule
  kind : f.problem.kind ∈ f.rule.kinds
  level : f.level = .error ∨ f.level = .warning ∨ f.level = .info
  weight : (severity f.rule).level? = some f.level
  path : f.location.path = path
  line : f.location.line.isSome = true
  column : f.location.column.isSome = true
  template : ∃ pieces, template? f.problem.kind f.problem.variant = some pieces ∧
    fill f.problem.data pieces = .ok f.message
  message : renderMessage f.problem.kind f.problem.variant f.problem.data = .ok f.message

theorem Placed.wellFormed_finding? {severity : Rule → Severity} {path : Path} {x : Placed}
    {f : Finding} (hpos : x.pos.isSome = true) (h : x.finding? severity path = some f) :
    f.WellFormed severity path := by
  obtain ⟨hproblem, hlocation, hlevel⟩ := Placed.finding?_eq_some h
  obtain ⟨pos, hpos⟩ := Option.isSome_iff_exists.mp hpos
  rw [hpos] at hlocation
  rw [← hproblem] at hlevel
  exact {
    rule := by unfold Finding.rule; cases f.problem.rule <;> decide
    kind := f.problem.kind_mem_kinds
    level := by cases f.level <;> simp
    weight := hlevel
    path := by rw [hlocation]; rfl
    line := by rw [hlocation]; rfl
    column := by rw [hlocation]; rfl
    template := f.problem.fill_template
    message := renderMessage_eq_message f.problem }

theorem wellFormed_analyzeUnit {u : SourceUnit} {registry : Registry} {index : Option Index}
    {config : Config} {f : Finding} (hf : f ∈ analyzeUnit u registry index config) :
    f.WellFormed config.severityOf u.path := by
  obtain ⟨x, hx, hfinding⟩ := List.mem_filterMap.mp hf
  exact Placed.wellFormed_finding? (located_unitProblems u _ _ _ x hx) hfinding

/-- every finding of a program was found in one of its units, and is well-formed there -/
theorem wellFormed_findings (p : Program) (config : Config) :
    ∀ f ∈ (analyzeProgram p config).findings, ∃ u ∈ p.analyzable,
      f ∈ analyzeUnit u (analyzeProgram p config).registry p.index? config ∧
        f.WellFormed config.severityOf u.path := by
  intro f hf
  rw [analyzeProgram_eq] at hf ⊢
  obtain ⟨u, hu, hfu⟩ := List.mem_flatMap.mp (List.mem_mergeSort.mp hf)
  exact ⟨u, hu, hfu, wellFormed_analyzeUnit hfu⟩

end Archetype
