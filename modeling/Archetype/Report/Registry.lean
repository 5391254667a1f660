import Archetype.Registry
import Archetype.Report.Json
import Archetype.Report.Table

/-!
# The components of a program

* `registryLines`   a table of the components with constraints, and the names of the others;
* `registryJson`    the same as a JSON value.
-/

namespace Archetype.Report

/-- the components with constraints, by name -/
def sortedComponents (r : Registry) : List (String × Component) :=
  r.components.mergeSort fun a b => !decide (b.1 < a.1)

/-- a component with its constraints; its file is seen from `root` if there is one -/
def componentJson (root : Option Path) (c : Component) : Json :=
  let seen (file : Path) : Path := (root.map file.relativeTo).getD file
  .object [
    ("dependencies", .texts (Names.sorted c.constraints.dependencies)),
    ("conflicts", .texts (Names.sorted c.constraints.conflicts)),
    ("qualified_name", .optional .text c.qualifiedName),
    ("source", .optional (fun file => .text (seen file).text) c.source)]

/-- all components -/
def registryJson (root : Option Path) (r : Registry) : Json :=
  .object [
    ("components",
      .object ((sortedComponents r).map fun (name, c) => (name, componentJson root c))),
    ("known_components", .texts (Names.sorted r.known))]

/-- a text, or another in place of the empty one -/
def orElse (other s : String) : String := if s = "" then other else s

/-- the components with constraints -/
def registryTable (r : Registry) : Table :=
  { title := "Component Registry"
    hasHead := true
    columns := ["Component", "Depends on", "Conflicts with", "Declared in"].map (⟨·, .left⟩)
    rows := (sortedComponents r).map fun (name, c) =>
      [name,
        orElse "-" (Text.joinWith ", " (Names.sorted c.constraints.dependencies)),
        orElse "-" (Text.joinWith ", " (Names.sorted c.constraints.conflicts)),
        orElse "(unresolved)" (c.qualifiedName.getD "")] }

/-- the names of components without constraints -/
def unconstrained (r : Registry) : List String :=
  (Names.sorted r.known).filter fun name => !r.components.contains name

/-- all components -/
def registryLines (r : Registry) : Except MarkupError (List String) := do
  let others := unconstrained r
  let table ←
    if r.components.isEmpty then pure ["No register_validator declarations found."]
      else (registryTable r).lines
  return table
    ++ (if others.isEmpty then []
      else
        "" :: ("Known without constraints (" ++ toString others.length ++ "):")
          :: shown ("  " ++ Text.joinWith ", " others))

end Archetype.Report
