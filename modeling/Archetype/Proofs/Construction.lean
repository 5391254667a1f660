import Archetype.Proofs.AttachOrder
import Archetype.Proofs.ProjectGraph
import Archetype.Proofs.SamePairs

/-!
# Graphs as they are put together

A graph is put together from the registry, the seed of a configuration and the declarations of a
unit, and more pairs can be put in later. In whatever order this is done, and however often a pair
is repeated, the graph holds what was declared and nothing else, and no answer tells the order.

* `SamePairs.answersAlike`   graphs with the same pairs answer every question alike;
* `Addition`                 a call that puts constraints into a graph;
* `Construction`             the sources of a graph, and the calls that follow;
* `Construction.Declares`    what any of them declares;
* `constructed_graph`        the answers of a graph in terms of what was declared.
-/

namespace Archetype

namespace ConstraintGraph

/-! ## graphs with the same pairs -/

namespace SamePairs

variable {g g' : ConstraintGraph} (h : SamePairs g g')
include h

theorem dependsOn_eq : g.DependsOn = g'.DependsOn :=
  funext₂ fun a b => propext (h.dependsOn_iff a b)

theorem mem_dependentsOf (a b : String) : b ∈ g.dependentsOf a ↔ b ∈ g'.dependentsOf a := by
  rw [ConstraintGraph.mem_dependentsOf, ConstraintGraph.mem_dependentsOf, h.dependsOn_iff]

theorem mem_contradictions (a b : String) : b ∈ g.contradictions a ↔ b ∈ g'.contradictions a := by
  rw [← Names.mem_sorted, h.sorted_contradictions, Names.mem_sorted]

theorem sorted_dependentsOf (a : String) :
    Names.sorted (g.dependentsOf a) = Names.sorted (g'.dependentsOf a) :=
  Names.sorted_eq (nodup_dependentsOf (h.built.nodup_on .dependency) a)
    (nodup_dependentsOf (h.built'.nodup_on .dependency) a) (h.mem_dependentsOf a)

/-! ## reaching and ordering -/

theorem mem_transitive (a b : String) : b ∈ g.transitive a ↔ b ∈ g'.transitive a := by
  rw [ConstraintGraph.mem_transitive, ConstraintGraph.mem_transitive, h.dependsOn_eq]

theorem mem_withDependencies (a b : String) :
    b ∈ g.withDependencies a ↔ b ∈ g'.withDependencies a := by
  rw [ConstraintGraph.mem_withDependencies, ConstraintGraph.mem_withDependencies, h.dependsOn_eq]

theorem isReady_eq : g.isReady = g'.isReady := by
  funext placed x
  rw [Bool.eq_iff_iff, isReady_iff, isReady_iff, h.dependsOn_eq]

theorem released_eq {members members' : Names} (hm : ∀ x, x ∈ members ↔ x ∈ members') :
    g.released members = g'.released members' := by
  funext placed node
  unfold released
  rw [h.sorted_dependentsOf, h.isReady_eq]
  refine List.filter_congr fun x _ => ?_
  rw [Bool.eq_iff_iff]
  simp only [Bool.and_eq_true, List.contains_iff_mem, hm]

theorem placeAll_eq {members members' : Names} (hm : ∀ x, x ∈ members ↔ x ∈ members') (n : Nat)
    (placed queue : List String) :
    g.placeAll members n placed queue = g'.placeAll members' n placed queue := by
  induction n generalizing placed queue with
  | zero => rfl
  | succ n ih =>
    cases queue with
    | nil => rfl
    | cons node queue => rw [placeAll, placeAll, h.released_eq hm, ih]

/-- components are placed in the same order: those that wait come in the order of their names -/
theorem attachOrder_eq (a : String) : g.attachOrder a = g'.attachOrder a := by
  have hm := h.mem_withDependencies a
  have hlen : (g.withDependencies a).length = (g'.withDependencies a).length :=
    ((List.perm_ext_iff_of_nodup (nodup_withDependencies a) (nodup_withDependencies a)).mpr
      hm).length_eq
  have hfirst : Names.sorted ((g.withDependencies a).filter (g.isReady []))
      = Names.sorted ((g'.withDependencies a).filter (g'.isReady [])) := by
    refine Names.sorted_eq ((nodup_withDependencies a).filter _)
      ((nodup_withDependencies a).filter _) fun x => ?_
    rw [List.mem_filter, List.mem_filter, hm, h.isReady_eq]
  rw [attachOrder_eq_placeAll h.built, attachOrder_eq_placeAll h.built', hfirst, hlen,
    h.placeAll_eq hm]

/-- graphs with the same pairs answer every question alike -/
theorem answersAlike : g.AnswersAlike g' where
  dependenciesOf := h.dependsOn_iff
  dependentsOf := h.mem_dependentsOf
  conflictsOf := h.mem_conflictsOf
  inConflict a b := by rw [h.inConflict_eq]
  contradictions := h.mem_contradictions
  nodes := h.sameEnds.nodes_eq
  edges := h.sameEnds.edges_eq
  pairs := h.sameEnds.pairs_eq
  cycles := h.sameEnds.cycles_eq
  transitive := h.mem_transitive
  attachOrder := h.attachOrder_eq

end SamePairs

/-! ## putting a graph together -/

/-- a call that puts constraints into a graph -/
inductive Addition where
  | dependency (a b : String)
  | conflict (a b : String)
  | constraints (name : String) (c : Constraints)

namespace Addition

/-- what the call makes of a graph -/
def apply (g : ConstraintGraph) : Addition → ConstraintGraph
  | dependency a b => g.addDependency a b
  | conflict a b => g.addConflict a b
  | constraints name c => g.addConstraints name c

/-- the call asks for `b` on that side of `a` -/
def Asks : Addition → Side → String → String → Prop
  | dependency x y, side, a, b => side = .dependency ∧ x = a ∧ y = b
  | conflict x y, side, a, b => side = .conflict ∧ x = a ∧ y = b
  | constraints name c, side, a, b => name = a ∧ b ∈ c.on side

theorem built_apply {g : ConstraintGraph} (h : g.Built) (x : Addition) : (x.apply g).Built := by
  cases x with
  | dependency a b => exact .dependency a b h
  | conflict a b => exact .conflict a b h
  | constraints name c => exact h.addDeclared [(name, c)]

theorem symmetric_apply (g : ConstraintGraph) (x : Addition) :
    (x.apply g).symmetric = g.symmetric := by
  cases x with
  | dependency a b => rfl
  | conflict a b => rfl
  | constraints name c => exact symmetric_addDeclared g [(name, c)]

theorem mem_on_apply (g : ConstraintGraph) (x : Addition) (side : Side) (a b : String) :
    (a, b) ∈ (x.apply g).on side ↔ (a, b) ∈ g.on side ∨ (a ≠ b ∧ x.Asks side a b) := by
  have hpair : ∀ (edges : List Edge) (x y : String),
      (a, b) ∈ addEdge edges x y ↔ (a, b) ∈ edges ∨ (a ≠ b ∧ x = a ∧ y = b) := by
    intro edges x y
    rw [mem_addEdge, Prod.mk.injEq]
    grind
  cases x with
  | dependency x y =>
    cases side with
    | dependency => exact (hpair g.dependencies x y).trans (by simp [Asks, on])
    | conflict => simp [Asks, apply, addDependency, on]
  | conflict x y =>
    cases side with
    | dependency => simp [Asks, apply, addConflict, on]
    | conflict => exact (hpair g.conflicts x y).trans (by simp [Asks, on])
  | constraints name c =>
    refine (mem_on_addDeclared g [(name, c)] side a b).trans ?_
    rw [asks_cons, or_iff_left (asks_nil side a b)]
    rfl

end Addition

/-- where the constraints of a graph come from: a registry, a seed, the declarations of a unit if
there is one, and the calls that follow -/
structure Construction where
  symmetric : Bool
  registry : Registry
  seed : Assoc Constraints
  unit : Option Declarations
  further : List Addition

namespace Construction

variable (k : Construction)

/-- the constraints that the graph is started from -/
def declared : List (String × Constraints) :=
  k.registry.constraints ++ k.seed ++ k.unit.elim [] Declarations.constraints

/-- the graph that is put together -/
def graph : ConstraintGraph := k.further.foldl Addition.apply (ofDeclared k.symmetric k.declared)

/-- some source declares `b` on that side of `a` -/
inductive Declares : Side → String → String → Prop
  | registry {side : Side} {a b : String} {c : Component} :
      (a, c) ∈ k.registry.components → b ∈ c.constraints.on side → Declares side a b
  | seed {side : Side} {a b : String} {c : Constraints} : (a, c) ∈ k.seed → b ∈ c.on side →
    Declares side a b
  | unit {side : Side} {b : String} {d : Declarations} {v : Validator} :
      d ∈ k.unit → v ∈ d.validators → b ∈ v.constraints.2.on side → Declares side v.subject.name b
  | further {side : Side} {a b : String} {x : Addition} : x ∈ k.further → x.Asks side a b →
    Declares side a b

end Construction

/-- the graph of a unit is put together from the registry, the seed and the declarations of the
unit -/
theorem unitGraph_eq_graph (registry : Registry) (config : Config) (d : Declarations) :
    unitGraph registry config d
      = (Construction.mk config.symmetricConflicts registry config.seed (some d) []).graph :=
  rfl

namespace Construction

variable (k : Construction)

theorem asks_declared (side : Side) (a b : String) :
    Archetype.Asks k.declared side a b ∨ (∃ x ∈ k.further, x.Asks side a b) ↔
      k.Declares side a b := by
  unfold declared
  rw [asks_append, asks_append, Registry.asks_constraints]
  constructor
  · rintro (((⟨c, hc, hb⟩ | ⟨c, hc, hb⟩) | hunit) | ⟨x, hx, hask⟩)
    · exact .registry hc hb
    · exact .seed hc hb
    · cases hd : k.unit with
      | none =>
        rw [hd] at hunit
        exact absurd hunit (asks_nil side a b)
      | some d =>
        rw [hd] at hunit
        obtain ⟨v, hv, rfl, hb⟩ := (asks_declarations d side a b).mp hunit
        exact .unit hd hv hb
    · exact .further hx hask
  · intro h
    cases h with
    | registry hc hb => exact Or.inl (Or.inl (Or.inl ⟨_, hc, hb⟩))
    | seed hc hb => exact Or.inl (Or.inl (Or.inr ⟨_, hc, hb⟩))
    | @unit _ d v hd hv hb =>
      have hd' : k.unit = some d := hd
      rw [hd']
      exact Or.inl (Or.inr ((asks_declarations d side _ b).mpr ⟨v, hv, rfl, hb⟩))
    | further hx hask => exact Or.inr ⟨_, hx, hask⟩

theorem built_graph : k.graph.Built := by
  have hrun : ∀ (l : List Addition) (g : ConstraintGraph), g.Built →
      (l.foldl Addition.apply g).Built := by
    intro l
    induction l with
    | nil => exact fun g hg => hg
    | cons x l ih => exact fun g hg => ih _ (Addition.built_apply hg x)
  exact hrun k.further _ (built_ofDeclared _ _)

theorem symmetric_graph : k.graph.symmetric = k.symmetric := by
  have hrun : ∀ (l : List Addition) (g : ConstraintGraph),
      (l.foldl Addition.apply g).symmetric = g.symmetric := by
    intro l
    induction l with
    | nil => exact fun g => rfl
    | cons x l ih => exact fun g => (ih _).trans (Addition.symmetric_apply g x)
  exact (hrun k.further _).trans (symmetric_ofDeclared _ _)

/-- the graph has the pairs that are declared, but for those of a component with itself -/
theorem mem_on_graph (side : Side) (a b : String) :
    (a, b) ∈ k.graph.on side ↔ a ≠ b ∧ k.Declares side a b := by
  have hrun := foldl_iff_or (P := fun g : ConstraintGraph => (a, b) ∈ g.on side)
    (fun g x => Addition.mem_on_apply g x side a b) k.further (ofDeclared k.symmetric k.declared)
  refine hrun.trans ?_
  rw [mem_on_ofDeclared, ← asks_declared]
  grind

theorem mem_dependenciesOf (a b : String) :
    b ∈ k.graph.dependenciesOf a ↔ b ≠ a ∧ k.Declares .dependency a b := by
  refine (dependsOn_iff k.graph a b).trans ?_
  rw [mem_on_graph, ne_comm]

theorem mem_conflictsOf (a b : String) : b ∈ k.graph.conflictsOf a ↔
    b ≠ a ∧ (k.Declares .conflict a b ∨ (k.symmetric = true ∧ k.Declares .conflict b a)) := by
  have hmem : ∀ x y, (x, y) ∈ k.graph.conflicts ↔ x ≠ y ∧ k.Declares .conflict x y :=
    k.mem_on_graph .conflict
  rw [ConstraintGraph.mem_conflictsOf, symmetric_graph, hmem, hmem]
  grind

theorem inConflict_iff (a b : String) : k.graph.inConflict a b = true ↔
    a ≠ b ∧ (k.Declares .conflict a b ∨ k.Declares .conflict b a) := by
  unfold inConflict
  rw [Bool.or_eq_true, List.contains_iff_mem, List.contains_iff_mem, mem_conflictsOf,
    mem_conflictsOf]
  grind

/-- constructions that declare the same, but for pairs of a component with itself, give graphs with
the same pairs -/
theorem samePairs {k k' : Construction} (hs : k.symmetric = k'.symmetric)
    (h : ∀ side a b, a ≠ b → (k.Declares side a b ↔ k'.Declares side a b)) :
    SamePairs k.graph k'.graph where
  symmetric := by rw [symmetric_graph, symmetric_graph, hs]
  built := k.built_graph
  built' := k'.built_graph
  mem_on := by
    rintro side ⟨a, b⟩
    rw [mem_on_graph, mem_on_graph]
    exact and_congr_right (h side a b)

end Construction

/-- A graph holds what was declared and nothing else. The dependencies of a component are the others
that some source declares as such, and the dependents the other way round; its conflicts are the
others that it declares, or that declare it if conflicts are symmetric. No component is its own
dependency or conflict, and two components are in conflict if either declares it, in both modes. So
graphs of which the same is declared, in any order and with any repetitions, answer every question
alike. -/
theorem constructed_graph (k : Construction) :
    (∀ a b, b ∈ k.graph.dependenciesOf a ↔ b ≠ a ∧ k.Declares .dependency a b) ∧
    (∀ a b, b ∈ k.graph.dependentsOf a ↔ a ∈ k.graph.dependenciesOf b) ∧
    (∀ a b, b ∈ k.graph.conflictsOf a ↔
      b ≠ a ∧ (k.Declares .conflict a b ∨ (k.symmetric = true ∧ k.Declares .conflict b a))) ∧
    (∀ a, (k.graph.dependenciesOf a).Nodup ∧ (k.graph.dependentsOf a).Nodup ∧
      (k.graph.conflictsOf a).Nodup) ∧
    (∀ a, a ∉ k.graph.dependenciesOf a ∧ a ∉ k.graph.conflictsOf a) ∧
    (∀ a b, k.graph.inConflict a b = true ↔
      a ≠ b ∧ (k.Declares .conflict a b ∨ k.Declares .conflict b a)) ∧
    (∀ a b, k.graph.inConflict a b = k.graph.inConflict b a) ∧
    ∀ k' : Construction, k.symmetric = k'.symmetric →
      (∀ side a b, a ≠ b → (k.Declares side a b ↔ k'.Declares side a b)) →
      k.graph.AnswersAlike k'.graph := by
  have hbuilt := k.built_graph
  refine ⟨k.mem_dependenciesOf, mem_dependentsOf, k.mem_conflictsOf, fun a => ?_, fun a => ?_,
    k.inConflict_iff, fun a b => Bool.or_comm .., fun k' hs h =>
      (Construction.samePairs hs h).answersAlike⟩
  · exact ⟨hbuilt.nodup_dependenciesOf a, nodup_dependentsOf (hbuilt.nodup_on .dependency) a,
      hbuilt.nodup_conflictsOf a⟩
  · exact ⟨fun h => ((k.mem_dependenciesOf a a).mp h).1 rfl,
      fun h => ((k.mem_conflictsOf a a).mp h).1 rfl⟩

/-- a registry in which one component asks for two others, and for itself -/
def recorded : Construction :=
  ⟨true, ⟨[("A", ⟨⟨["B", "C", "A"], ["D"]⟩, none, none⟩)], []⟩, [], none, []⟩

/-- the same pairs from a seed and from calls, in another order and repeated -/
def called : Construction :=
  ⟨true, .empty, [("A", ⟨["C"], []⟩)], none,
    [.conflict "A" "D", .dependency "A" "B", .constraints "A" ⟨["C", "B"], ["D"]⟩,
      .conflict "A" "A"]⟩

theorem constructed_graph_called :
    recorded.graph.dependencies ≠ called.graph.dependencies ∧
    recorded.graph.AnswersAlike called.graph ∧
      "B" ∈ called.graph.dependenciesOf "A" ∧ "A" ∈ called.graph.dependentsOf "B" ∧
      "A" ∈ called.graph.conflictsOf "D" := by
  have hsame : ∀ side a b, a ≠ b → (recorded.Declares side a b ↔ called.Declares side a b) := by
    intro side a b hne
    rw [← Construction.asks_declared, ← Construction.asks_declared]
    simp only [Construction.declared, recorded, called, Registry.constraints, Registry.empty,
      List.map_cons, List.map_nil, List.cons_append, List.nil_append, Option.elim_none, asks_cons,
      asks_nil, Addition.Asks, List.mem_cons, List.not_mem_nil]
    cases side <;> simp [Constraints.on] <;> grind
  obtain ⟨_, _, _, _, _, _, _, hgraphs⟩ := constructed_graph recorded
  exact ⟨by decide +kernel, hgraphs called rfl hsame,
    by decide +kernel, by decide +kernel, by decide +kernel⟩

end ConstraintGraph

end Archetype
