import Archetype.Constraint.Graph

/-!
# Dependency cycles

A cycle is a closed path: its first component stands again at its end. The components are searched
depth first, in order, and no component is entered twice; a dependency on a component of the current
path closes a cycle.

* `cycleKey?`   the rotation of a cycle that starts at its smallest name: what makes two cycles the
                same;
* `cycles`      the cycles of a graph, each once.
-/

namespace Archetype

/-- the smallest of some names -/
def leastName : List String → Option String
  | [] => none
  | n :: ns =>
    match leastName ns with
    | none => some n
    | some m => if Names.le n m then some n else some m

/-- the ring of a closed path, turned so that its smallest name comes first; a path of one name or
none has no ring -/
def cycleKey? (cycle : List String) : Option (List String) :=
  let ring := cycle.dropLast
  (leastName ring).map fun m => ring.dropWhile (· != m) ++ ring.takeWhile (· != m)

/-- what a search has seen: the components that were entered, and the cycles in the order in which
they closed -/
structure Sweep where
  visited : Names
  cycles : List (List String)
  deriving Repr, Inhabited

namespace Sweep

/-- notes that a component was entered -/
def enter (s : Sweep) (name : String) : Sweep := { s with visited := name :: s.visited }

/-- notes a cycle, unless it is a rotation of one that was noted before -/
def report (s : Sweep) (cycle : List String) : Sweep :=
  if cycleKey? cycle ∈ s.cycles.map cycleKey? then s else { s with cycles := s.cycles ++ [cycle] }

end Sweep

namespace ConstraintGraph

/-- the cycle that a dependency on `name` closes, `name` being on the path (innermost component
first) -/
def closing (path : List String) (name : String) : List String :=
  name :: (path.takeWhile (· != name)).reverse ++ [name]

/-- Searches below the first component of the path. A path never repeats a component, so the number
of components bounds its length. -/
def explore (g : ConstraintGraph) : Nat → List String → Sweep → Sweep
  | 0, _, s => s
  | _ + 1, [], s => s
  | n + 1, node :: above, s =>
    (Names.sorted (g.dependenciesOf node)).foldl
      (fun s dep =>
        if dep ∈ node :: above then s.report (closing (node :: above) dep)
        else if dep ∈ s.visited then s
        else g.explore n (dep :: node :: above) (s.enter dep))
      s

/-- searches from one component, unless it was entered before -/
def sweepFrom (g : ConstraintGraph) (s : Sweep) (start : String) : Sweep :=
  if start ∈ s.visited then s else g.explore g.nodes.length [start] (s.enter start)

/-- the components that depend on something, in order -/
def dependers (g : ConstraintGraph) : List String :=
  Names.sorted (Names.unique (g.dependencies.map Prod.fst))

/-- the cycles of the dependency relation -/
def cycles (g : ConstraintGraph) : List (List String) :=
  (g.dependers.foldl g.sweepFrom ⟨[], []⟩).cycles

end ConstraintGraph

end Archetype
