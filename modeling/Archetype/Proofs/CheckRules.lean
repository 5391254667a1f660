import Archetype.Check.Queried
import Archetype.Proofs.Tracking

/-!
# The rules and kinds of the checks

Every check reports under one rule: attaching components, in code and in templates, under one, and
queries under another. What is reported of declarations is of four kinds, one for each thing that is
looked for.

* `rule_trackProblems`      attaching in code;
* `rule_templateProblems`   attaching in templates;
* `rule_queryProblems`      queries;
* `kind_selfReferences`, `kind_contradictions`, `kind_repetitions`, `kind_cycleProblems`
                            declarations.
-/

namespace Archetype

namespace Validator

variable (v : Validator)

theorem kind_selfReferences : ∀ x ∈ v.selfReferences, x.problem.kind = .selfReference := by
  intro x hx
  simp only [selfReferences, List.mem_append, List.mem_ite_nil_right, List.mem_singleton] at hx
  rcases hx with ⟨_, rfl⟩ | ⟨_, rfl⟩ <;> rfl

theorem kind_contradictions (targets : List String) :
    ∀ x ∈ v.contradictions targets, x.problem.kind = .contradiction := by
  intro x hx
  obtain ⟨_, _, rfl⟩ := List.mem_map.mp hx
  rfl

theorem kind_repetitions : ∀ x ∈ v.repetitions, x.problem.kind = .duplicateEntry := by
  intro x hx
  rcases List.mem_append.mp hx with hx | hx <;> obtain ⟨_, _, rfl⟩ := List.mem_map.mp hx <;> rfl

end Validator

theorem kind_cycleProblems (g : ConstraintGraph) (validators : List Validator) :
    ∀ x ∈ cycleProblems g validators, x.problem.kind = .cycle := by
  intro x hx
  obtain ⟨cycle, _, hx⟩ := List.mem_filterMap.mp hx
  obtain ⟨v, _, rfl⟩ := Option.map_eq_some_iff.mp hx
  rfl

theorem rule_attachProblems {g : ConstraintGraph} {composite : Composite} {present : Names}
    {component : String} :
    ∀ p ∈ attachProblems g composite present component, p.rule = .componentOrder := by
  intro p hp
  rcases List.mem_append.mp hp with hp | hp <;> obtain ⟨_, _, rfl⟩ := List.mem_map.mp hp <;> rfl

theorem rule_trackProblems (g : ConstraintGraph) (resolver : Resolver) (body : List Code.Stmt) :
    ∀ x ∈ trackProblems g resolver body, x.problem.rule = .componentOrder :=
  trackProblems_forall g resolver body _ fun _ _ _ p hp => rule_attachProblems p hp

theorem rule_replay (g : ConstraintGraph) (composite : Composite) (present : Names)
    (components : List Reference) :
    ∀ x ∈ replay g composite present components, x.problem.rule = .componentOrder := by
  induction components generalizing present with
  | nil => exact fun x hx => absurd hx List.not_mem_nil
  | cons r rest ih =>
    intro x hx
    rcases List.mem_append.mp hx with hx | hx
    · obtain ⟨p, hp, rfl⟩ := List.mem_map.mp hx
      exact rule_attachProblems p hp
    · exact ih _ x hx

theorem rule_templateProblems (g : ConstraintGraph) (d : Declarations) :
    ∀ x ∈ templateProblems g d, x.problem.rule = .componentOrder := by
  intro x hx
  obtain ⟨t, _, hx⟩ := List.mem_flatMap.mp hx
  exact rule_replay g _ _ _ x hx

theorem Query.rule_problems (g : ConstraintGraph) (q : Query) :
    ∀ x ∈ q.problems g, x.problem.rule = .queryValidator := by
  intro x hx
  simp only [Query.problems, List.mem_append, List.mem_map] at hx
  rcases hx with (((((⟨_, _, rfl⟩ | ⟨_, _, rfl⟩) | ⟨_, _, rfl⟩) | ⟨_, _, rfl⟩) | ⟨_, _, rfl⟩) |
    ⟨_, _, rfl⟩) |
    ⟨_, _, rfl⟩ <;> rfl

theorem rule_queryProblems (g : ConstraintGraph) (d : Declarations) :
    ∀ x ∈ queryProblems g d, x.problem.rule = .queryValidator := by
  intro x hx
  obtain ⟨q, _, hx⟩ := List.mem_flatMap.mp hx
  exact q.rule_problems g x hx

end Archetype
