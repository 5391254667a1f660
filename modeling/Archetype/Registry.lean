import Archetype.Constraint.Graph
import Archetype.Program

/-!
# The registry of a program

The registry unites what all units of a program declare: for each component its constraints, and
besides them every component that is named anywhere. Templates and queries name components and
constrain none.

* `Registry.record`      takes in the declarations of a unit;
* `Registry.ofProgram`   the registry of a program.
-/

namespace Archetype

/-- what is known of a component with constraints -/
structure Component where
  constraints : Constraints
  /-- the module and the name of its declaration, if it was resolved -/
  qualifiedName : Option String
  /-- the file of its declaration -/
  source : Option Path

/-- the components of a program -/
structure Registry where
  /-- the components with constraints -/
  components : Assoc Component
  /-- all components that are named -/
  known : Names

namespace Registry

def empty : Registry := ⟨[], []⟩

instance : Inhabited Registry := ⟨empty⟩

/-- takes in declared constraints; a subject that resolves tells where the component is declared -/
def recordValidator (r : Registry) (resolver : Resolver) (v : Validator) : Registry :=
  let dependencies := v.dependencies.map (·.name)
  let conflicts := v.conflicts.map (·.name)
  let symbol := resolver.symbol? (some v.subjectExpr)
  { components := r.components.update v.subject.name ⟨⟨[], []⟩, none, none⟩ fun c =>
      { constraints :=
          ⟨Names.addAll c.constraints.dependencies dependencies,
            Names.addAll c.constraints.conflicts conflicts⟩
        qualifiedName := (symbol.map (·.qualifiedName)).or c.qualifiedName
        source := (symbol.map (·.path)).or c.source }
    known := Names.addAll r.known (v.subject.name :: dependencies ++ conflicts) }

/-- the components that a query names -/
def queryNames (q : Query) : List String := (q.all ++ q.any ++ q.none).map (·.name)

/-- takes in the declarations of a unit -/
def record (r : Registry) (resolver : Resolver) (d : Declarations) : Registry :=
  let constrained := d.validators.foldl (·.recordValidator resolver) r
  let named :=
    d.templates.flatMap (fun t => t.components.map (·.name)) ++ d.queries.flatMap queryNames
  { constrained with known := Names.addAll constrained.known named }

/-- the registry of a program, whose names are resolved by `index` if there is one -/
def ofProgram (p : Program) (index : Option Index) : Registry :=
  p.analyzable.foldl
    (fun r u =>
      let resolver : Resolver := ⟨u.module, index⟩
      r.record resolver (Declarations.ofUnit u resolver))
    empty

/-- is the component named anywhere? -/
def isKnown (r : Registry) (name : String) : Bool := r.known.contains name

/-- the constraints of all components -/
def constraints (r : Registry) : List (String × Constraints) :=
  r.components.map fun (name, c) => (name, c.constraints)

end Registry

end Archetype
