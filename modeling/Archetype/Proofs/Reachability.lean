import Archetype.Constraint.Order
import Archetype.Proofs.CycleSearch

/-!
# What a component depends on in the end

The dependencies of a component are walked with a stack, on which a component can stand more than
once, and to which the first component can come back. Each pair of the graph is walked once, so the
walk ends whether the dependencies run in a circle or not; and it notes the same components in
whatever order the dependencies of a component are taken.

* `Built`              the graphs that come of putting pairs in, one after the other;
* `Walking`            what every step of the walk keeps: the invariant;
* `unwalked`           the pairs that are left, which bound the walk together with the stack;
* `mem_transitiveBy`   what is noted is what a chain of dependencies leads to;
* `transitive_reaches` the same for every order, with the bound of the walk;
* `mem_withDependencies`   the same with the component itself.
-/

namespace Archetype

open Relation (ReflTransGen TransGen)

/-! ## sets of names -/

theorem Names.nodup_add {s : Names} (h : s.Nodup) (name : String) : (s.add name).Nodup := by
  unfold Names.add
  split
  · exact h
  · rename_i hnew
    exact List.nodup_append.mpr ⟨h, List.nodup_singleton name, fun a ha b hb e =>
      hnew (List.mem_singleton.mp hb ▸ e ▸ ha)⟩

theorem Names.nodup_addAll {s : Names} (h : s.Nodup) (names : List String) :
    (s.addAll names).Nodup := by
  induction names generalizing s with
  | nil => exact h
  | cons n ns ih => exact ih (Names.nodup_add h n)

theorem Names.nodup_unique (names : List String) : (Names.unique names).Nodup :=
  Names.nodup_addAll List.nodup_nil names

theorem Names.nodup_sorted {s : List String} (h : s.Nodup) : (Names.sorted s).Nodup :=
  (List.mergeSort_perm s Names.le).nodup_iff.mpr h

theorem Names.mem_without (s t : Names) (x : String) : x ∈ s.without t ↔ x ∈ s ∧ x ∉ t := by
  unfold Names.without
  rw [List.mem_filter, decide_eq_true_iff]

namespace ConstraintGraph

variable {g : ConstraintGraph}

/-! ## graphs that are built -/

/-- a graph that comes of putting pairs into an empty one -/
inductive Built : ConstraintGraph → Prop
  | empty (symmetric : Bool) : Built (ConstraintGraph.empty symmetric)
  | dependency {g : ConstraintGraph} (a b : String) : Built g → Built (g.addDependency a b)
  | conflict {g : ConstraintGraph} (a b : String) : Built g → Built (g.addConflict a b)

theorem nodup_addEdge {edges : List Edge} (h : edges.Nodup) (a b : String) :
    (addEdge edges a b).Nodup := by
  unfold addEdge
  split
  · exact h
  · rename_i hnew
    refine List.nodup_append.mpr ⟨h, List.nodup_singleton _, fun e he e' he' heq => ?_⟩
    rw [heq, List.mem_singleton.mp he'] at he
    exact hnew (Or.inr (List.contains_iff_mem.mpr he))

/-- a pair is kept once -/
theorem Built.nodup_on (h : g.Built) (side : Side) : (g.on side).Nodup := by
  induction h with
  | empty _ => cases side <;> exact List.nodup_nil
  | dependency a b _ ih =>
    cases side with
    | dependency => exact nodup_addEdge ih a b
    | conflict => exact ih
  | conflict a b _ ih =>
    cases side with
    | dependency => exact ih
    | conflict => exact nodup_addEdge ih a b

/-- no component is paired with itself -/
theorem Built.ne_of_mem_on (h : g.Built) (side : Side) : ∀ e ∈ g.on side, e.1 ≠ e.2 := by
  induction h with
  | empty _ => cases side <;> exact fun e he => absurd he List.not_mem_nil
  | dependency a b _ ih =>
    cases side with
    | dependency =>
      intro e he
      rcases (mem_addEdge _ a b e).mp he with he | ⟨rfl, hne⟩
      · exact ih e he
      · exact hne
    | conflict => exact ih
  | conflict a b _ ih =>
    cases side with
    | dependency => exact ih
    | conflict =>
      intro e he
      rcases (mem_addEdge _ a b e).mp he with he | ⟨rfl, hne⟩
      · exact ih e he
      · exact hne

theorem Built.conflicts_ne (h : g.Built) : ∀ e ∈ g.conflicts, e.1 ≠ e.2 := h.ne_of_mem_on .conflict

theorem Built.dependsOn_ne (h : g.Built) {a b : String} (hab : g.DependsOn a b) : a ≠ b :=
  h.ne_of_mem_on .dependency (a, b) ((dependsOn_iff g a b).mp hab)

theorem Built.addDeclared (h : g.Built) (declared : List (String × Constraints)) :
    (g.addDeclared declared).Built := by
  have hdeps : ∀ (name : String) (bs : List String) (g : ConstraintGraph), g.Built →
      (bs.foldl (·.addDependency name) g).Built := by
    intro name bs
    induction bs with
    | nil => exact fun g hg => hg
    | cons b bs ih => exact fun g hg => ih _ (.dependency name b hg)
  have hconflicts : ∀ (name : String) (bs : List String) (g : ConstraintGraph), g.Built →
      (bs.foldl (·.addConflict name) g).Built := by
    intro name bs
    induction bs with
    | nil => exact fun g hg => hg
    | cons b bs ih => exact fun g hg => ih _ (.conflict name b hg)
  induction declared generalizing g with
  | nil => exact h
  | cons d ds ih =>
    rw [addDeclared_cons]
    exact ih (hconflicts d.1 _ _ (hdeps d.1 _ _ h))

/-- every graph of declared constraints is built -/
theorem built_ofDeclared (symmetric : Bool) (declared : List (String × Constraints)) :
    (ofDeclared symmetric declared).Built := Built.addDeclared (.empty symmetric) declared

/-- the second components of the pairs of `a` are named once each -/
theorem nodup_targets {edges : List Edge} (h : edges.Nodup) (a : String) :
    ((edges.filter (·.1 == a)).map Prod.snd).Nodup := by
  refine List.Nodup.map_on ?_ (h.filter _)
  intro e he e' he' hsnd
  have h1 : e.1 = a := beq_iff_eq.mp (List.mem_filter.mp he).2
  have h1' : e'.1 = a := beq_iff_eq.mp (List.mem_filter.mp he').2
  exact Prod.ext (h1.trans h1'.symm) hsnd

theorem Built.nodup_dependenciesOf (h : g.Built) (a : String) : (g.dependenciesOf a).Nodup :=
  nodup_targets (h.nodup_on .dependency) a

theorem Built.nodup_conflictsOf (h : g.Built) (a : String) : (g.conflictsOf a).Nodup := by
  have hdeclared := nodup_targets (h.nodup_on .conflict) a
  unfold conflictsOf
  cases g.symmetric with
  | false => exact hdeclared
  | true => exact Names.nodup_addAll hdeclared _

/-! ## one component from the stack -/

/-- `next` lists the dependencies of every component, in some order -/
def ListsDependencies (g : ConstraintGraph) (next : String → List String) : Prop :=
  ∀ a, (next a).Perm (g.dependenciesOf a)

/-- What holds during a walk from `start`: all that was noted or is on the stack can be reached, and
the dependencies of `start` and of all that was noted were noted or are on the stack. -/
structure Walking (g : ConstraintGraph) (start : String) (visited : Names) (stack : List String) :
    Prop where
  nodup : visited.Nodup
  reached : ∀ a, a ∈ visited ∨ a ∈ stack → TransGen g.DependsOn start a
  passed : ∀ a, a = start ∨ a ∈ visited → ∀ b, g.DependsOn a b → b ∈ visited ∨ b ∈ stack

/-- a component that was noted before can be taken off the stack -/
theorem Walking.skip {start a : String} {visited : Names} {stack : List String}
    (h : g.Walking start visited (a :: stack)) (ha : a ∈ visited) :
    g.Walking start visited stack where
  nodup := h.nodup
  reached b hb := h.reached b (hb.imp_right (List.mem_cons_of_mem a))
  passed b hb c hbc := by
    rcases h.passed b hb c hbc with hc | hc
    · exact Or.inl hc
    · rcases List.mem_cons.mp hc with rfl | hc
      · exact Or.inl ha
      · exact Or.inr hc

theorem mem_fresh {next : String → List String} (hnext : g.ListsDependencies next) (visited : Names)
    (a b : String) :
    b ∈ fresh next visited a ↔ g.DependsOn a b ∧ b ∉ a :: visited := by
  unfold fresh
  rw [Names.mem_without, (hnext a).mem_iff]
  rfl

theorem Walking.visit {next : String → List String} (hnext : g.ListsDependencies next)
    {start a : String} {visited : Names} {stack : List String}
    (h : g.Walking start visited (a :: stack)) (ha : a ∉ visited) :
    g.Walking start (a :: visited) ((fresh next visited a).reverse ++ stack) where
  nodup := List.nodup_cons.mpr ⟨ha, h.nodup⟩
  reached := by
    have hstart : TransGen g.DependsOn start a := h.reached a (Or.inr (List.mem_cons_self ..))
    rintro b (hb | hb)
    · rcases List.mem_cons.mp hb with rfl | hb
      · exact hstart
      · exact h.reached b (Or.inl hb)
    · rcases List.mem_append.mp hb with hb | hb
      · exact hstart.tail ((mem_fresh hnext visited a b).mp (List.mem_reverse.mp hb)).1
      · exact h.reached b (Or.inr (List.mem_cons_of_mem a hb))
  passed := by
    intro b hb c hbc
    by_cases hc : c ∈ a :: visited
    · exact Or.inl hc
    · refine Or.inr (List.mem_append.mpr ?_)
      by_cases hba : b = a
      · subst hba
        exact Or.inl (List.mem_reverse.mpr ((mem_fresh hnext visited b c).mpr ⟨hbc, hc⟩))
      · have hb' : b = start ∨ b ∈ visited :=
          hb.imp_right fun hb => (List.mem_cons.mp hb).resolve_left hba
        rcases h.passed b hb' c hbc with hseen | hstack
        · exact absurd (List.mem_cons_of_mem a hseen) hc
        · exact Or.inr ((List.mem_cons.mp hstack).resolve_left fun e =>
            hc (e ▸ List.mem_cons_self ..))

/-! ## the whole walk -/

/-- the pairs whose first component was not noted: what can still go on the stack -/
def unwalked (g : ConstraintGraph) (visited : Names) : List Edge :=
  g.dependencies.filter (·.1 ∉ visited)

/-- noting a component uses up the pairs that it is the first component of -/
theorem length_unwalked {visited : Names} {a : String} (ha : a ∉ visited) :
    (g.unwalked (a :: visited)).length + (g.dependenciesOf a).length
      = (g.unwalked visited).length := by
  unfold unwalked dependenciesOf
  induction g.dependencies with
  | nil => rfl
  | cons e edges ih =>
    rw [List.length_map] at ih ⊢
    by_cases he : e.1 = a
    · subst he
      simp only [List.filter_cons, List.mem_cons, true_or, not_true, decide_false, ha,
        not_false_iff, decide_true, beq_self_eq_true, if_true, List.length_cons, Bool.false_eq_true,
        if_false] at ih ⊢
      omega
    · have he' : (e.1 == a) = false := beq_eq_false_iff_ne.mpr he
      by_cases hv : e.1 ∈ visited
      · simpa [List.filter_cons, he, he', hv] using ih
      · simp only [List.filter_cons, List.mem_cons, he, hv, or_self, not_false_iff, decide_true,
          if_true, he', Bool.false_eq_true, if_false, List.length_cons] at ih ⊢
        omega

/-- what is on the stack and what can still go there get less when a component is noted -/
theorem length_stack_visit {next : String → List String} (hnext : g.ListsDependencies next)
    {visited : Names} {a : String} (ha : a ∉ visited) (stack : List String) :
    ((fresh next visited a).reverse ++ stack).length + (g.unwalked (a :: visited)).length
      ≤ stack.length + (g.unwalked visited).length := by
  have hfresh : (fresh next visited a).length ≤ (g.dependenciesOf a).length :=
    (List.length_filter_le _ _).trans (hnext a).length_eq.le
  have hused := g.length_unwalked ha
  rw [List.length_append, List.length_reverse]
  omega

theorem walk_cons (next : String → List String) (n : Nat) (visited : Names) (a : String)
    (stack : List String) :
    walk next (n + 1) visited (a :: stack) = if a ∈ visited then walk next n visited stack
      else walk next n (a :: visited) ((fresh next visited a).reverse ++ stack) := rfl

/-- The walk ends with nothing on the stack. Its length is not bounded by the stack, which can grow,
but by the stack together with the pairs that were not walked. -/
theorem Walking.walk {next : String → List String} (hnext : g.ListsDependencies next) (n : Nat)
    {start : String} {visited : Names} {stack : List String} (h : g.Walking start visited stack)
    (hn : stack.length + (g.unwalked visited).length ≤ n) :
    g.Walking start (ConstraintGraph.walk next n visited stack) [] := by
  induction n generalizing visited stack with
  | zero =>
    obtain rfl : stack = [] := List.length_eq_zero_iff.mp (by omega)
    exact h
  | succ n ih =>
    cases stack with
    | nil => exact h
    | cons a stack =>
      rw [List.length_cons] at hn
      rw [walk_cons]
      split
      · rename_i ha
        exact ih (h.skip ha) (by omega)
      · rename_i ha
        have hless := length_stack_visit hnext ha stack
        exact ih (h.visit hnext ha) (by omega)

/-- a walk that has come to its end is not cut off by its bound -/
theorem walk_succ {next : String → List String} (hnext : g.ListsDependencies next) (n : Nat)
    {visited : Names} {stack : List String} (hn : stack.length + (g.unwalked visited).length ≤ n) :
    walk next (n + 1) visited stack = walk next n visited stack := by
  induction n generalizing visited stack with
  | zero =>
    obtain rfl : stack = [] := List.length_eq_zero_iff.mp (by omega)
    rfl
  | succ n ih =>
    cases stack with
    | nil => rfl
    | cons a stack =>
      rw [List.length_cons] at hn
      rw [walk_cons next (n + 1), walk_cons next n]
      split
      · exact ih (by omega)
      · rename_i ha
        have hless := length_stack_visit hnext ha stack
        exact ih (by omega)

/-- twice the pairs are enough for a walk from the dependencies of a component -/
theorem length_start_le {next : String → List String} (hnext : g.ListsDependencies next)
    (a : String) :
    (next a).reverse.length + (g.unwalked []).length ≤ 2 * g.dependencies.length := by
  have hdeps : (g.dependenciesOf a).length ≤ g.dependencies.length := by
    unfold dependenciesOf
    rw [List.length_map]
    exact List.length_filter_le ..
  have hpairs : (g.unwalked []).length ≤ g.dependencies.length := List.length_filter_le ..
  rw [List.length_reverse, (hnext a).length_eq]
  omega

theorem walking_transitive {next : String → List String} (hnext : g.ListsDependencies next)
    (start : String) :
    g.Walking start (walk next (2 * g.dependencies.length) [] (next start).reverse) [] := by
  have hmem : ∀ b, b ∈ (next start).reverse ↔ g.DependsOn start b := fun b =>
    List.mem_reverse.trans (hnext start).mem_iff
  refine Walking.walk hnext _ ⟨List.nodup_nil, ?_, ?_⟩ (length_start_le hnext start)
  · rintro a (ha | ha)
    · exact absurd ha List.not_mem_nil
    · exact TransGen.single ((hmem a).mp ha)
  · rintro a (rfl | ha) b hab
    · exact Or.inr ((hmem b).mpr hab)
    · exact absurd ha List.not_mem_nil

/-- what the walk notes is what a chain of dependencies leads to; the component itself is left
out -/
theorem mem_transitiveBy {next : String → List String} (hnext : g.ListsDependencies next)
    (a b : String) :
    b ∈ g.transitiveBy next a ↔ b ≠ a ∧ TransGen g.DependsOn a b := by
  have h := walking_transitive hnext a
  have hclosed : ∀ b, TransGen g.DependsOn a b →
      b ∈ walk next (2 * g.dependencies.length) [] (next a).reverse := by
    intro b hab
    induction hab with
    | single hab => exact (h.passed a (Or.inl rfl) _ hab).resolve_right List.not_mem_nil
    | tail _ hbc ih => exact (h.passed _ (Or.inr ih) _ hbc).resolve_right List.not_mem_nil
  unfold transitiveBy
  rw [List.mem_filter, bne_iff_ne]
  exact ⟨fun hb => ⟨hb.2, h.reached b (Or.inl hb.1)⟩, fun hb => ⟨hclosed b hb.2, hb.1⟩⟩

theorem nodup_transitiveBy {next : String → List String} (hnext : g.ListsDependencies next)
    (a : String) :
    (g.transitiveBy next a).Nodup := List.Nodup.filter _ (walking_transitive hnext a).nodup

theorem listsDependencies_dependenciesOf (g : ConstraintGraph) :
    g.ListsDependencies g.dependenciesOf :=
  fun _ => List.Perm.refl _

/-- the dependencies of a component in the end are what a chain of dependencies leads to, without
the component -/
theorem mem_transitive (a b : String) : b ∈ g.transitive a ↔ b ≠ a ∧ TransGen g.DependsOn a b :=
  mem_transitiveBy g.listsDependencies_dependenciesOf a b

theorem mem_withDependencies (a b : String) :
    b ∈ g.withDependencies a ↔ ReflTransGen g.DependsOn a b := by
  unfold withDependencies
  rw [List.mem_cons, mem_transitive, Relation.reflTransGen_iff_eq_or_transGen]
  by_cases e : b = a <;> simp [e]

theorem nodup_withDependencies (a : String) : (g.withDependencies a).Nodup := by
  refine List.nodup_cons.mpr ⟨fun ha => ((mem_transitive a a).mp ha).1 rfl, ?_⟩
  exact nodup_transitiveBy g.listsDependencies_dependenciesOf a

/-! ## in whatever order -/

/-- The dependencies of a component in the end are what can be reached by one dependency or more,
without the component, in whatever order the walk takes the dependencies of each component. It notes
nothing twice, and a higher bound would change nothing: the walk has come to its end. -/
theorem transitive_reaches (g : ConstraintGraph) {next : String → List String}
    (hnext : g.ListsDependencies next) (a : String) :
    (∀ b, b ∈ g.transitiveBy next a ↔ b ≠ a ∧ TransGen g.DependsOn a b) ∧
    (g.transitiveBy next a).Nodup ∧
    (g.transitiveBy next a).Perm (g.transitive a) ∧
    ∀ n, 2 * g.dependencies.length ≤ n →
      (walk next n [] (next a).reverse).filter (· != a) = g.transitiveBy next a := by
  have hnodup := nodup_transitiveBy hnext a
  refine ⟨mem_transitiveBy hnext a, hnodup, ?_, fun n hn => ?_⟩
  · refine (List.perm_ext_iff_of_nodup hnodup
      (nodup_transitiveBy g.listsDependencies_dependenciesOf a)).mpr fun b => ?_
    rw [mem_transitiveBy hnext]
    exact (mem_transitive a b).symm
  · have hbound := length_start_le hnext a
    induction n, hn using Nat.le_induction with
    | base => rfl
    | succ n hn ih => rw [walk_succ hnext n (hbound.trans hn), ih]

/-- `A` needs `B` and `C`, and `C` needs `A` again -/
def roundabout : ConstraintGraph :=
  .ofDeclared true [("A", ⟨["B", "C"], []⟩), ("B", ⟨["D"], []⟩), ("C", ⟨["A", "D"], []⟩)]

/-- the dependencies are also taken from the last to the first -/
theorem transitive_reaches_roundabout :
    (roundabout.transitiveBy (fun a => (roundabout.dependenciesOf a).reverse) "A").Perm
      (roundabout.transitive "A") ∧
      roundabout.transitive "A" = ["B", "D", "C"] ∧ TransGen roundabout.DependsOn "A" "D" := by
  have hnoted : roundabout.transitive "A" = ["B", "D", "C"] ∧
      "D" ∈ roundabout.transitiveBy (fun a => (roundabout.dependenciesOf a).reverse) "A" := by
    decide +kernel
  have hbackwards : roundabout.ListsDependencies fun a => (roundabout.dependenciesOf a).reverse :=
    fun a => List.reverse_perm _
  obtain ⟨hmem, _, hperm, _⟩ := transitive_reaches roundabout hbackwards "A"
  exact ⟨hperm, hnoted.1, ((hmem "D").mp hnoted.2).2⟩

end ConstraintGraph

end Archetype
