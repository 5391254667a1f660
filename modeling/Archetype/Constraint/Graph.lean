import Archetype.Declaration

/-!
# The constraint graph

Components are joined by two relations: one depends on another, and one is in conflict with another.
The graph keeps the declared pairs of either relation, each once, and no component is ever paired
with itself.

* `ConstraintGraph.ofDeclared`     the graph of a list of declared constraints;
* `dependenciesOf`, `dependentsOf` the two directions of the dependency relation;
* `conflictsOf`                    what a component conflicts with, from either side if conflicts
                                   are symmetric;
* `nodes`, `edges`, `pairs`        the graph in order, for showing it;
* `contradictions`, `repeated`     what a declaration must not hold.
-/

namespace Archetype

/-- what a component asks for: components that must be there before it, and components that must
not -/
structure Constraints where
  dependencies : Names
  conflicts : Names
  deriving Repr, DecidableEq, Inhabited

/-- a pair of components, read from the first to the second -/
abbrev Edge := String × String

/-- the order of pairs: by the first component, then by the second -/
def Edge.le (a b : Edge) : Bool := decide (a.1 < b.1) || (a.1 == b.1 && Names.le a.2 b.2)

/-- dependencies and conflicts between components -/
structure ConstraintGraph where
  /-- does a conflict declared by one side bind the other too? -/
  symmetric : Bool
  /-- declared pairs of a component and a dependency of it -/
  dependencies : List Edge
  /-- declared pairs of a component and one that it conflicts with -/
  conflicts : List Edge
  deriving Repr, DecidableEq, Inhabited

/-- puts a pair in, unless it is there or joins a component with itself -/
def addEdge (edges : List Edge) (a b : String) : List Edge :=
  if a = b ∨ edges.contains (a, b) then edges else edges ++ [(a, b)]

theorem mem_addEdge (edges : List Edge) (a b : String) (e : Edge) :
    e ∈ addEdge edges a b ↔ e ∈ edges ∨ (e = (a, b) ∧ a ≠ b) := by
  unfold addEdge
  split
  · rename_i h
    constructor
    · exact Or.inl
    · rintro (h' | ⟨rfl, h'⟩)
      · exact h'
      · exact List.contains_iff_mem.mp (h.resolve_left h')
  · rename_i h
    have h' : a ≠ b := fun e => h (Or.inl e)
    simp [h']

namespace ConstraintGraph

/-! ## building -/

/-- the graph without any pair -/
def empty (symmetric : Bool) : ConstraintGraph := ⟨symmetric, [], []⟩

/-- `a` depends on `b` -/
def addDependency (g : ConstraintGraph) (a b : String) : ConstraintGraph :=
  { g with dependencies := addEdge g.dependencies a b }

/-- `a` conflicts with `b` -/
def addConflict (g : ConstraintGraph) (a b : String) : ConstraintGraph :=
  { g with conflicts := addEdge g.conflicts a b }

/-- all that `name` asks for -/
def addConstraints (g : ConstraintGraph) (name : String) (c : Constraints) : ConstraintGraph :=
  c.conflicts.foldl (·.addConflict name) (c.dependencies.foldl (·.addDependency name) g)

/-- the graph of a list of declared constraints -/
def ofDeclared (symmetric : Bool) (declared : List (String × Constraints)) : ConstraintGraph :=
  declared.foldl (fun g d => g.addConstraints d.1 d.2) (empty symmetric)

/-! ## the relations -/

/-- the components that `name` depends on -/
def dependenciesOf (g : ConstraintGraph) (name : String) : Names :=
  (g.dependencies.filter (·.1 == name)).map Prod.snd

/-- the components that depend on `name` -/
def dependentsOf (g : ConstraintGraph) (name : String) : Names :=
  (g.dependencies.filter (·.2 == name)).map Prod.fst

/-- the components that `name` conflicts with; if conflicts are symmetric, also those that conflict
with it -/
def conflictsOf (g : ConstraintGraph) (name : String) : Names :=
  let declared : Names := (g.conflicts.filter (·.1 == name)).map Prod.snd
  if g.symmetric then declared.addAll ((g.conflicts.filter (·.2 == name)).map Prod.fst)
  else declared

/-- was a conflict between the two declared from either side? -/
def inConflict (g : ConstraintGraph) (a b : String) : Bool :=
  (g.conflictsOf a).contains b || (g.conflictsOf b).contains a

/-! ## the graph in order -/

/-- every component of any pair -/
def nodes (g : ConstraintGraph) : List String :=
  Names.sorted (Names.unique ((g.dependencies ++ g.conflicts).flatMap fun e => [e.1, e.2]))

/-- the dependency pairs in order -/
def edges (g : ConstraintGraph) : List Edge := g.dependencies.mergeSort Edge.le

/-- a pair with its smaller component first -/
def unordered (e : Edge) : Edge := if Names.le e.1 e.2 then e else (e.2, e.1)

/-- the conflicts as unordered pairs, each listed once -/
def pairs (g : ConstraintGraph) : List Edge :=
  ((g.conflicts.map unordered).eraseDups).mergeSort Edge.le

/-! ## what must not be -/

/-- the components that `name` both depends on and conflicts with -/
def contradictions (g : ConstraintGraph) (name : String) : Names :=
  (g.dependenciesOf name).both (g.conflictsOf name)

end ConstraintGraph

/-- the names that come up again, besides those that did before (`found`); `seen` are the earlier
names -/
def repeatedFrom (seen found : Names) : List String → Names
  | [] => found
  | n :: rest => repeatedFrom (seen.add n) (if n ∈ seen then found.add n else found) rest

/-- the names that stand in a list more than once -/
def repeated (names : List String) : Names := repeatedFrom [] [] names

/-! ## the constraints of one unit -/

/-- what a constraint declaration asks for -/
def Validator.constraints (v : Validator) : String × Constraints :=
  (v.subject.name, ⟨v.dependencies.map (·.name), v.conflicts.map (·.name)⟩)

/-- the constraints that a unit declares -/
def Declarations.constraints (d : Declarations) : List (String × Constraints) :=
  d.validators.map Validator.constraints

end Archetype
