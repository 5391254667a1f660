import Archetype.Constraint.Graph

/-!
# Reaching and ordering dependencies

* `walk`          the components that a stack of components leads to;
* `transitive`    all that a component depends on, over any number of steps;
* `Schedule`      the components that are placed, that can be placed next, and that wait for others;
* `attachOrder`   an order in which a component and its dependencies can be attached.

The order takes a component when all its dependencies have been taken, so that components from which
a cycle can be reached are left out.
-/

namespace Archetype

namespace ConstraintGraph

/-! ## reaching -/

/-- what follows on a component that is about to be noted, but for what was noted before -/
def fresh (next : String → List String) (visited : Names) (name : String) : Names :=
  Names.without (next name) (name :: visited)

/-- Takes components from the top of a stack, no more than `n` of them. A component that comes up
for the first time is noted, and what is fresh behind it goes on the stack. -/
def walk (next : String → List String) : Nat → Names → List String → Names
  | 0, visited, _ => visited
  | _ + 1, visited, [] => visited
  | n + 1, visited, name :: stack =>
    if name ∈ visited then walk next n visited stack
    else walk next n (name :: visited) ((fresh next visited name).reverse ++ stack)

/-- Every component that can be reached from `name` by dependencies, `name` itself left out; the
dependencies of a component are taken in the order in which `next` lists them. A dependency goes on
the stack once for each component that has it, and those of `name` also at the start, which bounds
the walk. -/
def transitiveBy (g : ConstraintGraph) (next : String → List String) (name : String) : Names :=
  (walk next (2 * g.dependencies.length) [] (next name).reverse).filter (· != name)

/-- every component that can be reached from `name` by dependencies, `name` itself left out -/
def transitive (g : ConstraintGraph) (name : String) : Names := g.transitiveBy g.dependenciesOf name

/-- `name` and all that it depends on -/
def withDependencies (g : ConstraintGraph) (name : String) : Names := name :: g.transitive name

end ConstraintGraph

/-! ## ordering -/

/-- where placing components has come to: those that are placed, those that can be placed next, and
for each member how many of its dependencies it still waits for -/
structure Schedule where
  placed : List String
  queue : List String
  waiting : Assoc Int

namespace Schedule

/-- one dependency less to wait for; a member that waits for nothing more joins the queue -/
def release (s : Schedule) (name : String) : Schedule :=
  match s.waiting.get? name with
  | none => s
  | some count =>
    { s with
      waiting := s.waiting.insert name (count - 1)
      queue := if count - 1 = 0 then s.queue ++ [name] else s.queue }

/-- nothing is placed, and the members that wait for nothing are in the queue -/
def start (g : ConstraintGraph) (members : Names) : Schedule :=
  let waiting : Assoc Int := members.map fun m => (m, ((g.dependenciesOf m).both members).length)
  ⟨[], Names.sorted ((waiting.filter (·.2 == 0)).map Prod.fst), waiting⟩

/-- places a component, `queue` being what is left behind it, and releases what depends on it -/
def place (g : ConstraintGraph) (s : Schedule) (name : String) (queue : List String) : Schedule :=
  (Names.sorted (g.dependentsOf name)).foldl release
    { s with placed := s.placed ++ [name], queue := queue }

/-- places the components of the queue, and behind them those that they release; no more than `n` of
them -/
def run (g : ConstraintGraph) : Nat → Schedule → Schedule
  | 0, s => s
  | n + 1, s =>
    match s.queue with
    | [] => s
    | name :: queue => run g n (s.place g name queue)

end Schedule

/-- dependencies first: the order in which `name` and its dependencies can be attached -/
def ConstraintGraph.attachOrder (g : ConstraintGraph) (name : String) : List String :=
  let members := g.withDependencies name
  ((Schedule.start g members).run g members.length).placed

end Archetype
