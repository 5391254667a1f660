import Archetype.Check.Composed
import Archetype.Proofs.AttachOrder

/-!
# Attaching components in an order

A template is replayed one component at a time, and each time it is reported what is missing and
what is in conflict. Here the reports are read off the list of components: nothing is missing if
dependencies stand first, and nothing is reported at all if besides no two components are in
conflict. Therefore the suggested order of a component is the least list with the component that
passes, and there is no such list where there is no order.

* `mem_attachProblems`         what is reported when one component is attached;
* `replay_concat`              the reports of a list that is one component longer;
* `supplied_iff`, `problems_eq_nil_iff`   the lists that pass;
* `attachable_iff_ordered`     the suggested order against all other lists.
-/

namespace Archetype

variable {g : ConstraintGraph}

/-! ## conflicts -/

namespace ConstraintGraph

theorem Built.not_mem_conflictsOf (h : g.Built) (a : String) : a ∉ g.conflictsOf a := by
  rw [mem_conflictsOf]
  rintro (ha | ⟨_, ha⟩) <;> exact h.conflicts_ne _ ha rfl

/-- if conflicts are symmetric, they can be looked up on either side -/
theorem conflictsOf_comm (hs : g.symmetric = true) (a b : String) :
    b ∈ g.conflictsOf a ↔ a ∈ g.conflictsOf b := by
  rw [mem_conflictsOf, mem_conflictsOf, or_comm]
  simp [hs]

theorem inConflict_iff (hs : g.symmetric = true) (a b : String) :
    g.inConflict a b = true ↔ a ∈ g.conflictsOf b := by
  unfold inConflict
  rw [Bool.or_eq_true, List.contains_iff_mem, List.contains_iff_mem, conflictsOf_comm hs, or_self]

end ConstraintGraph

/-! ## attaching one component -/

theorem mem_attachProblems (composite : Composite) (present : Names) (component : String)
    (p : Problem) :
    p ∈ attachProblems g composite present component ↔
      (∃ d, g.DependsOn component d ∧ d ∉ present ∧ p = .missingDependency composite component d) ∨
      (∃ c ∈ g.conflictsOf component, c ∈ present ∧
        p = .conflictingComponent composite component c) := by
  unfold attachProblems
  simp only [List.mem_append, List.mem_map, List.mem_filter, Names.mem_sorted,
    List.contains_iff_mem, Bool.not_eq_true', Bool.eq_false_iff, ne_eq, and_assoc]
  refine or_congr ?_ ?_
  · exact exists_congr fun d => and_congr_right fun _ => and_congr_right fun _ => eq_comm
  · exact exists_congr fun c => and_congr_right fun _ => and_congr_right fun _ => eq_comm

/-- nothing is missing just if all dependencies are present -/
theorem nothing_missing_iff (composite : Composite) (present : Names) (component : String) :
    (∀ p ∈ attachProblems g composite present component, p.kind ≠ .missingDependency) ↔
      ∀ d, g.DependsOn component d → d ∈ present := by
  constructor
  · intro h d hd
    by_contra hnot
    exact h _ ((mem_attachProblems ..).mpr (Or.inl ⟨d, hd, hnot, rfl⟩)) rfl
  · intro h p hp
    rcases (mem_attachProblems ..).mp hp with ⟨d, hd, hnot, _⟩ | ⟨c, _, _, rfl⟩
    · exact absurd (h d hd) hnot
    · exact Kind.noConfusion

theorem attachProblems_eq_nil_iff (composite : Composite) (present : Names) (component : String) :
    attachProblems g composite present component = [] ↔
      (∀ d, g.DependsOn component d → d ∈ present) ∧
      ∀ x ∈ present, x ∉ g.conflictsOf component := by
  rw [List.eq_nil_iff_forall_not_mem]
  simp only [mem_attachProblems]
  constructor
  · intro h
    refine ⟨fun d hd => ?_, fun x hx hc => h _ (Or.inr ⟨x, hc, hx, rfl⟩)⟩
    by_contra hnot
    exact h _ (Or.inl ⟨d, hd, hnot, rfl⟩)
  · rintro ⟨hdeps, hfree⟩ p (⟨d, hd, hnot, _⟩ | ⟨c, hc, hmem, _⟩)
    · exact hnot (hdeps d hd)
    · exact hfree c hmem hc

/-! ## attaching a list of components -/

/-- the last component is checked against all before it -/
theorem replay_concat (composite : Composite) (present : Names) (refs : List Reference)
    (r : Reference) :
    replay g composite present (refs ++ [r]) = replay g composite present refs
      ++ (attachProblems g composite (present.addAll (refs.map (·.name))) r.name).map fun p =>
        ⟨p, some r.pos⟩ := by
  induction refs generalizing present with
  | nil =>
    show (_ ++ [] : List Placed) = [] ++ _
    rw [List.append_nil, List.nil_append]
    rfl
  | cons s refs ih =>
    rw [List.cons_append, replay, ih, replay, List.append_assoc]
    rfl

namespace Template

/-- the components of a template, in order -/
def names (t : Template) : List String := t.components.map (·.name)

/-- what is reported of a template -/
def problems (g : ConstraintGraph) (t : Template) : List Placed := templateProblems g ⟨[], [t], []⟩

/-- nowhere in the template is a dependency missing -/
def Supplied (g : ConstraintGraph) (t : Template) : Prop :=
  ∀ x ∈ t.problems g, x.problem.kind ≠ .missingDependency

/-- a template that lists some components -/
def listing (names : List String) : Template := ⟨none, .start, names.map fun n => ⟨n, .start⟩⟩

theorem names_listing (names : List String) : (listing names).names = names := by
  show (names.map _).map _ = names
  rw [List.map_map]
  exact List.map_id names

theorem problems_eq (t : Template) :
    t.problems g = replay g (.template t.shownName) [] t.components := by
  unfold problems templateProblems
  rw [List.flatMap_singleton]

end Template

/-- a list passes as far as dependencies go just if it has dependencies first -/
theorem supplied_replay_iff (composite : Composite) (refs : List Reference) :
    (∀ x ∈ replay g composite [] refs, x.problem.kind ≠ .missingDependency) ↔
      g.DependencyFirst (refs.map (·.name)) := by
  induction refs using List.reverseRecOn with
  | nil =>
    exact iff_of_true (fun x hx => absurd hx List.not_mem_nil) ConstraintGraph.dependencyFirst_nil
  | append_singleton refs r ih =>
    rw [replay_concat, List.map_append, List.map_singleton,
      ConstraintGraph.dependencyFirst_concat, ← ih]
    simp only [List.forall_mem_append, List.forall_mem_map, nothing_missing_iff, Names.mem_addAll,
      List.not_mem_nil, false_or]

/-- nothing is reported just if besides no component is attached to one that it conflicts with -/
theorem replay_eq_nil_iff (composite : Composite) (refs : List Reference) :
    replay g composite [] refs = [] ↔ g.DependencyFirst (refs.map (·.name)) ∧
      (refs.map (·.name)).Pairwise fun a b => a ∉ g.conflictsOf b := by
  induction refs using List.reverseRecOn with
  | nil => exact iff_of_true rfl ⟨ConstraintGraph.dependencyFirst_nil, List.Pairwise.nil⟩
  | append_singleton refs r ih =>
    rw [replay_concat, List.append_eq_nil_iff, List.map_eq_nil_iff, attachProblems_eq_nil_iff, ih,
      List.map_append, List.map_singleton, ConstraintGraph.dependencyFirst_concat,
      List.pairwise_append]
    simp only [Names.mem_addAll, List.not_mem_nil, false_or, List.pairwise_singleton,
      List.mem_singleton, forall_eq, true_and]
    tauto

namespace Template

theorem supplied_iff (t : Template) : t.Supplied g ↔ g.DependencyFirst t.names := by
  unfold Supplied
  rw [problems_eq]
  exact supplied_replay_iff _ _

/-- if conflicts are symmetric, a template passes just if it has dependencies first and nothing in
conflict -/
theorem problems_eq_nil_iff (h : g.Built) (hs : g.symmetric = true) (t : Template) :
    t.problems g = [] ↔
      g.DependencyFirst t.names ∧ ∀ x ∈ t.names, ∀ y ∈ t.names, g.inConflict x y = false := by
  rw [problems_eq, replay_eq_nil_iff]
  refine and_congr_right fun _ => ?_
  simp only [← Bool.not_eq_true, ConstraintGraph.inConflict_iff hs]
  constructor
  · intro hpair
    have hsymm : Std.Symm fun a b => a ∉ g.conflictsOf b :=
      ⟨fun a b hab => (ConstraintGraph.conflictsOf_comm hs a b).not.mpr hab⟩
    exact hpair.forall_of_forall fun x _ => h.not_mem_conflictsOf x
  · exact List.pairwise_of_forall_mem_list

end Template

/-! ## the suggested order -/

/-- The suggested order is right, and there is no shorter way. Some template with `c` has no
dependency missing just if `c` is in its suggested order; then the order itself is such a template,
and all such templates have all of its members. If conflicts are symmetric, some template with `c`
has nothing reported just if `c` is in its order and no two members of the order are in conflict,
and then nothing is reported of the order. -/
theorem attachable_iff_ordered (h : g.Built) (c : String) :
    ((∃ t : Template, c ∈ t.names ∧ t.Supplied g) ↔ c ∈ g.attachOrder c) ∧
    (c ∈ g.attachOrder c →
      (∀ t : Template, t.names = g.attachOrder c → t.Supplied g) ∧
      ∀ t : Template, c ∈ t.names → t.Supplied g → ∀ x ∈ g.attachOrder c, x ∈ t.names) ∧
    (g.symmetric = true →
      ((∃ t : Template, c ∈ t.names ∧ t.problems g = []) ↔
        c ∈ g.attachOrder c ∧
        ∀ x ∈ g.attachOrder c, ∀ y ∈ g.attachOrder c, g.inConflict x y = false) ∧
      (c ∈ g.attachOrder c →
        (∀ x ∈ g.attachOrder c, ∀ y ∈ g.attachOrder c, g.inConflict x y = false) →
        ∀ t : Template, t.names = g.attachOrder c → t.problems g = [])) := by
  have horder := ConstraintGraph.dependencyFirst_attachOrder h c
  have hordered : ∀ t : Template, c ∈ t.names → g.DependencyFirst t.names → c ∈ g.attachOrder c :=
    fun t hc hfirst => (ConstraintGraph.self_mem_attachOrder_iff h c).mpr (hfirst.ends c hc)
  have hleast : ∀ t : Template, c ∈ t.names → g.DependencyFirst t.names →
      ∀ x ∈ g.attachOrder c, x ∈ t.names :=
    fun t hc hfirst x hx =>
      hfirst.mem_of_reaches hc ((ConstraintGraph.mem_attachOrder h c x).mp hx).1
  refine ⟨⟨?_, fun hc => ⟨.listing (g.attachOrder c), ?_, ?_⟩⟩, fun hc => ⟨?_, ?_⟩,
    fun hs => ⟨⟨?_, ?_⟩, ?_⟩⟩
  · rintro ⟨t, hc, hsup⟩
    exact hordered t hc (t.supplied_iff.mp hsup)
  · rwa [Template.names_listing]
  · rwa [Template.supplied_iff, Template.names_listing]
  · intro t ht
    rwa [Template.supplied_iff, ht]
  · intro t hc hsup
    exact hleast t hc (t.supplied_iff.mp hsup)
  · rintro ⟨t, hc, hnone⟩
    obtain ⟨hfirst, hfree⟩ := (t.problems_eq_nil_iff h hs).mp hnone
    refine ⟨hordered t hc hfirst, fun x hx y hy => ?_⟩
    exact hfree x (hleast t hc hfirst x hx) y (hleast t hc hfirst y hy)
  · rintro ⟨hc, hfree⟩
    refine ⟨.listing (g.attachOrder c), by rwa [Template.names_listing], ?_⟩
    rw [Template.problems_eq_nil_iff h hs, Template.names_listing]
    exact ⟨horder, hfree⟩
  · intro _ hfree t ht
    rw [Template.problems_eq_nil_iff h hs, ht]
    exact ⟨horder, hfree⟩

/-- `A` depends on `B` and must not be with `C` -/
def pickyPair : ConstraintGraph := .ofDeclared true [("A", ⟨["B"], ["C"]⟩)]

theorem attachable_iff_ordered_pickyPair :
    (Template.listing ["B", "A"]).problems pickyPair = [] ∧ "A" ∈ pickyPair.attachOrder "A" ∧
      (Template.listing (pickyPair.attachOrder "A")).problems pickyPair = [] := by
  have hpass : (Template.listing ["B", "A"]).problems pickyPair = [] := by decide +kernel
  obtain ⟨_, _, hsymm⟩ :=
    attachable_iff_ordered (ConstraintGraph.built_ofDeclared true [("A", ⟨["B"], ["C"]⟩)]) "A"
  obtain ⟨hiff, horder⟩ := hsymm rfl
  obtain ⟨hmem, hfree⟩ := hiff.mp ⟨.listing ["B", "A"], by decide, hpass⟩
  exact ⟨hpass, hmem, horder hmem hfree _ (Template.names_listing _)⟩

end Archetype
