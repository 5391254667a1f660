import Archetype.Constraint.Order
import Archetype.Registry
import Archetype.Report.Console

/-!
# One component and its constraints

* `traceLines`    what a component depends on, what conflicts with it, what needs it, and an order
                  to attach it.
-/

namespace Archetype.Report

/-- a title with a count, and names below it -/
def countedNames (title : String) (names : List String) : Except MarkupError (List String) := do
  let shown ← names.mapM fun n => shownMarked ("    - " ++ n)
  return ("  " ++ title ++ " (" ++ toString names.length ++ "):") :: shown.flatten

/-- a title with a count and names below it, if there are any -/
def namesIfAny (title : String) (names : List String) : Except MarkupError (List String) :=
  if names.isEmpty then .ok [] else countedNames title names

/-- what a component depends on, at once and in the end -/
def dependencyLines (g : ConstraintGraph)
    (component : String) : Except MarkupError (List String) := do
  let direct := Names.sorted (g.dependenciesOf component)
  if direct.isEmpty then return ["  No dependencies"]
  let directLines ← countedNames "Direct dependencies" direct
  let indirect := Names.sorted ((g.transitive component).filter fun n => !direct.contains n)
  return directLines ++ (← namesIfAny "Transitive dependencies" indirect)

/-- an order to attach a component -/
def orderLines (g : ConstraintGraph) (component : String) : Except MarkupError (List String) :=
  let order := g.attachOrder component
  if order.contains component then shownMarked
    ("  Suggested attach order: " ++ Text.joinWith " -> " order)
  else .ok ["  No valid attach order: a dependency cycle is involved"]

/-- where a component is declared, if that is known -/
def declaredLines (r : Registry) (component : String) : Except MarkupError (List String) :=
  match (r.components.get? component).bind (·.qualifiedName) with
  | none => .ok []
  | some name => if name = "" then .ok [] else shownMarked ("  Declared as " ++ name)

/-- a component and its constraints -/
def traceLines (r : Registry) (g : ConstraintGraph) (component : String) :
    Except MarkupError (List String) := do
  let head ← shownMarked ("Constraint trace for: " ++ component)
  let declared ← declaredLines r component
  let dependencies ← dependencyLines g component
  let conflicts ← namesIfAny "Conflicts with" (Names.sorted (g.conflictsOf component))
  let dependents ← namesIfAny "Required by" (Names.sorted (g.dependentsOf component))
  let order ← orderLines g component
  return "" :: head ++ declared ++ "" :: dependencies ++ conflicts ++ dependents ++ "" :: order

/-- is a component named anywhere? -/
def isTraceable (r : Registry) (g : ConstraintGraph) (component : String) : Bool :=
  r.isKnown component || g.nodes.contains component

end Archetype.Report
