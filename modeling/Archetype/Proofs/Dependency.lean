import Archetype.Constraint.Graph
import Archetype.Rule.Problem
import Mathlib.Logic.Relation

/-!
# What a constraint graph holds

A graph is built from declared constraints one pair at a time. Here its pairs are read off the
declarations directly: a pair is in the graph if some declaration asks for it and it joins two
different components.

* `ConstraintGraph.DependsOn`   the dependency relation of a graph;
* `Asks`                        what a list of declared constraints asks for, on either side;
* `dependsOn_ofDeclared`        the relation of a graph in terms of the declarations that it was
                                built from;
* `ofDeclared_append_eq`        declarations that ask for nothing new leave the graph as it is.
-/

namespace Archetype

/-! ## pairs of one component -/

theorem addEdge_eq_self (edges : List Edge) (a b : String) (h : a = b ∨ (a, b) ∈ edges) :
    addEdge edges a b = edges := if_pos (h.imp_right List.contains_iff_mem.mpr)

/-- the pairs of `a` with each of `bs`, put in one after the other -/
def addEdges (edges : List Edge) (a : String) (bs : List String) : List Edge :=
  bs.foldl (fun es b => addEdge es a b) edges

theorem addEdges_cons (edges : List Edge) (a b : String) (bs : List String) :
    addEdges edges a (b :: bs) = addEdges (addEdge edges a b) a bs := rfl

theorem mem_addEdges (edges : List Edge) (a : String) (bs : List String) (e : Edge) :
    e ∈ addEdges edges a bs ↔ e ∈ edges ∨ (e.1 = a ∧ e.2 ∈ bs ∧ a ≠ e.2) := by
  induction bs generalizing edges with
  | nil => simp [addEdges]
  | cons b bs ih =>
    rw [addEdges_cons, ih, mem_addEdge]
    obtain ⟨x, y⟩ := e
    constructor
    · rintro ((h | ⟨h, hne⟩) | ⟨h1, h2, h3⟩)
      · exact Or.inl h
      · obtain ⟨rfl, rfl⟩ := Prod.mk.inj h
        exact Or.inr ⟨rfl, List.mem_cons_self .., hne⟩
      · exact Or.inr ⟨h1, List.mem_cons_of_mem _ h2, h3⟩
    · rintro (h | ⟨h1, h2, h3⟩)
      · exact Or.inl (Or.inl h)
      · rcases List.mem_cons.mp h2 with h2 | h2
        · exact Or.inl (Or.inr ⟨Prod.ext h1 h2, h2 ▸ h3⟩)
        · exact Or.inr ⟨h1, h2, h3⟩

theorem addEdges_eq_self (edges : List Edge) (a : String) (bs : List String)
    (h : ∀ b ∈ bs, a = b ∨ (a, b) ∈ edges) : addEdges edges a bs = edges := by
  induction bs with
  | nil => rfl
  | cons b bs ih =>
    rw [addEdges_cons, addEdge_eq_self edges a b (h b (List.mem_cons_self ..))]
    exact ih (fun b' h' => h b' (List.mem_cons_of_mem _ h'))

/-! ## declared constraints -/

/-- the list of one side of the constraints of a component -/
def Constraints.on (c : Constraints) : Side → Names
  | .dependency => c.dependencies
  | .conflict => c.conflicts

/-- some declaration of `a` asks for `b` on that side -/
def Asks (declared : List (String × Constraints)) (side : Side) (a b : String) : Prop :=
  ∃ c, (a, c) ∈ declared ∧ b ∈ c.on side

theorem asks_nil (side : Side) (a b : String) : ¬ Asks [] side a b := by
  rintro ⟨c, h, _⟩
  exact absurd h List.not_mem_nil

theorem asks_cons (d : String × Constraints) (declared : List (String × Constraints)) (side : Side)
    (a b : String) :
    Asks (d :: declared) side a b ↔ (d.1 = a ∧ b ∈ d.2.on side) ∨ Asks declared side a b := by
  constructor
  · rintro ⟨c, hc, hb⟩
    rcases List.mem_cons.mp hc with h | h
    · left
      rw [← h]
      exact ⟨rfl, hb⟩
    · exact Or.inr ⟨c, h, hb⟩
  · rintro (⟨rfl, hb⟩ | ⟨c, hc, hb⟩)
    · exact ⟨d.2, List.mem_cons_self .., hb⟩
    · exact ⟨c, List.mem_cons_of_mem _ hc, hb⟩

theorem asks_append (xs ys : List (String × Constraints)) (side : Side) (a b : String) :
    Asks (xs ++ ys) side a b ↔ Asks xs side a b ∨ Asks ys side a b := by
  induction xs with
  | nil => simp [asks_nil]
  | cons d xs ih => rw [List.cons_append, asks_cons, asks_cons, ih, or_assoc]

namespace ConstraintGraph

/-- the declared pairs of one side -/
def on (g : ConstraintGraph) : Side → List Edge
  | .dependency => g.dependencies
  | .conflict => g.conflicts

/-- `a` depends on `b`, with nothing between them -/
def DependsOn (g : ConstraintGraph) (a b : String) : Prop := b ∈ g.dependenciesOf a

theorem dependsOn_iff (g : ConstraintGraph) (a b : String) :
    g.DependsOn a b ↔ (a, b) ∈ g.on .dependency := by
  show b ∈ (g.dependencies.filter (·.1 == a)).map Prod.snd ↔ (a, b) ∈ g.dependencies
  simp

theorem mem_conflictsOf {g : ConstraintGraph} (a b : String) :
    b ∈ g.conflictsOf a ↔ (a, b) ∈ g.conflicts ∨ (g.symmetric = true ∧ (b, a) ∈ g.conflicts) := by
  have hdeclared : b ∈ (g.conflicts.filter (·.1 == a)).map Prod.snd ↔
      (a, b) ∈ g.conflicts := by simp
  have hother : b ∈ (g.conflicts.filter (·.2 == a)).map Prod.fst ↔ (b, a) ∈ g.conflicts := by simp
  unfold conflictsOf
  cases hs : g.symmetric with
  | false =>
    rw [if_neg Bool.false_ne_true, hdeclared]
    simp
  | true =>
    rw [if_pos rfl, Names.mem_addAll, hdeclared, hother]
    simp

theorem mem_contradictions {g : ConstraintGraph} (a b : String) :
    b ∈ g.contradictions a ↔ g.DependsOn a b ∧ b ∈ g.conflictsOf a := by
  unfold contradictions Names.both
  rw [List.mem_filter, decide_eq_true_iff]
  rfl

/-! ## the graph of declared constraints -/

theorem foldl_addDependency (g : ConstraintGraph) (name : String) (bs : List String) :
    bs.foldl (·.addDependency name) g
      = { g with dependencies := addEdges g.dependencies name bs } := by
  induction bs generalizing g with
  | nil => rfl
  | cons b bs ih => rw [List.foldl_cons, ih]; rfl

theorem foldl_addConflict (g : ConstraintGraph) (name : String) (bs : List String) :
    bs.foldl (·.addConflict name) g = { g with conflicts := addEdges g.conflicts name bs } := by
  induction bs generalizing g with
  | nil => rfl
  | cons b bs ih => rw [List.foldl_cons, ih]; rfl

theorem addConstraints_eq (g : ConstraintGraph) (name : String) (c : Constraints) :
    g.addConstraints name c = ⟨g.symmetric, addEdges g.dependencies name c.dependencies,
      addEdges g.conflicts name c.conflicts⟩ := by
  unfold addConstraints
  rw [foldl_addDependency, foldl_addConflict]

theorem on_addConstraints (g : ConstraintGraph) (name : String) (c : Constraints) (side : Side) :
    (g.addConstraints name c).on side = addEdges (g.on side) name (c.on side) := by
  rw [addConstraints_eq]
  cases side <;> rfl

/-- putting declarations into a graph one after the other -/
def addDeclared (g : ConstraintGraph) (declared : List (String × Constraints)) : ConstraintGraph :=
  declared.foldl (fun g d => g.addConstraints d.1 d.2) g

theorem addDeclared_cons (g : ConstraintGraph) (d : String × Constraints)
    (ds : List (String × Constraints)) :
    g.addDeclared (d :: ds) = (g.addConstraints d.1 d.2).addDeclared ds := rfl

theorem ofDeclared_append (symmetric : Bool) (xs ys : List (String × Constraints)) :
    ofDeclared symmetric (xs ++ ys) = (ofDeclared symmetric xs).addDeclared ys := by
  show List.foldl _ _ (xs ++ ys) = _
  rw [List.foldl_append]
  rfl

theorem symmetric_addDeclared (g : ConstraintGraph) (declared : List (String × Constraints)) :
    (g.addDeclared declared).symmetric = g.symmetric := by
  induction declared generalizing g with
  | nil => rfl
  | cons d ds ih => rw [addDeclared_cons, ih, addConstraints_eq]

theorem symmetric_ofDeclared (symmetric : Bool) (declared : List (String × Constraints)) :
    (ofDeclared symmetric declared).symmetric = symmetric :=
  symmetric_addDeclared (empty symmetric) declared

theorem mem_on_addDeclared (g : ConstraintGraph) (declared : List (String × Constraints))
    (side : Side) (a b : String) :
    (a, b) ∈ (g.addDeclared declared).on side ↔
      (a, b) ∈ g.on side ∨ (a ≠ b ∧ Asks declared side a b) := by
  induction declared generalizing g with
  | nil => simp [addDeclared, asks_nil]
  | cons d ds ih =>
    rw [addDeclared_cons, ih, on_addConstraints, mem_addEdges, asks_cons]
    constructor
    · rintro ((h | ⟨h1, h2, h3⟩) | ⟨h1, h2⟩)
      · exact Or.inl h
      · exact Or.inr ⟨fun e => h3 (h1 ▸ e), Or.inl ⟨h1.symm, h2⟩⟩
      · exact Or.inr ⟨h1, Or.inr h2⟩
    · rintro (h | ⟨hne, ⟨h1, h2⟩ | h2⟩)
      · exact Or.inl (Or.inl h)
      · exact Or.inl (Or.inr ⟨h1.symm, h2, fun e => hne (h1 ▸ e)⟩)
      · exact Or.inr ⟨hne, h2⟩

/-- the pairs of a graph are those that the declarations ask for, without the pairs of a component
with itself -/
theorem mem_on_ofDeclared (symmetric : Bool) (declared : List (String × Constraints)) (side : Side)
    (a b : String) :
    (a, b) ∈ (ofDeclared symmetric declared).on side ↔ a ≠ b ∧ Asks declared side a b := by
  have h0 : (a, b) ∉ (empty symmetric).on side := by cases side <;> exact List.not_mem_nil
  show (a, b) ∈ ((empty symmetric).addDeclared declared).on side ↔ _
  rw [mem_on_addDeclared]
  exact or_iff_right h0

theorem dependsOn_ofDeclared (symmetric : Bool) (declared : List (String × Constraints))
    (a b : String) :
    (ofDeclared symmetric declared).DependsOn a b ↔ a ≠ b ∧ Asks declared .dependency a b := by
  rw [dependsOn_iff, mem_on_ofDeclared]

/-- declarations that ask for nothing new leave a graph as it is -/
theorem addDeclared_eq_self (g : ConstraintGraph) (declared : List (String × Constraints))
    (h : ∀ side a b, Asks declared side a b → a = b ∨ (a, b) ∈ g.on side) :
    g.addDeclared declared = g := by
  induction declared with
  | nil => rfl
  | cons d ds ih =>
    have hd : ∀ side, ∀ b ∈ d.2.on side, d.1 = b ∨ (d.1, b) ∈ g.on side := fun side b hb =>
      h side d.1 b ((asks_cons ..).mpr (Or.inl ⟨rfl, hb⟩))
    have hg : g.addConstraints d.1 d.2 = g := by
      have h1 : addEdges g.dependencies d.1 d.2.dependencies = g.dependencies :=
        addEdges_eq_self _ _ _ (hd .dependency)
      have h2 : addEdges g.conflicts d.1 d.2.conflicts = g.conflicts :=
        addEdges_eq_self _ _ _ (hd .conflict)
      rw [addConstraints_eq, h1, h2]
    rw [addDeclared_cons, hg]
    exact ih (fun side a b hab => h side a b ((asks_cons ..).mpr (Or.inr hab)))

/-- the same for graphs of declared constraints: what was asked for before need not be asked for
again -/
theorem ofDeclared_append_eq (symmetric : Bool) (xs ys : List (String × Constraints))
    (h : ∀ side a b, Asks ys side a b → Asks xs side a b) :
    ofDeclared symmetric (xs ++ ys) = ofDeclared symmetric xs := by
  rw [ofDeclared_append]
  apply addDeclared_eq_self
  intro side a b hab
  by_cases e : a = b
  · exact Or.inl e
  · exact Or.inr ((mem_on_ofDeclared ..).mpr ⟨e, h side a b hab⟩)

end ConstraintGraph

end Archetype
