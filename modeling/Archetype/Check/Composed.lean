import Archetype.Check.Placed
import Archetype.Constraint.Graph

/-!
# Checking compositions

Components are attached one after the other. Each must come after all that it depends on, and must
not join what it conflicts with; either way it counts as attached from then on.

* `attachProblems`     what is wrong with attaching one component;
* `replay`             what is wrong with attaching a list of components;
* `templateProblems`   the problems of the templates of a unit.
-/

namespace Archetype

/-- what is wrong with attaching a component where `present` are attached -/
def attachProblems (g : ConstraintGraph) (composite : Composite) (present : Names)
    (component : String) :
    List Problem :=
  ((Names.sorted (g.dependenciesOf component)).filter fun d => !present.contains d).map
      (Problem.missingDependency composite component)
    ++ ((Names.sorted (g.conflictsOf component)).filter fun c => present.contains c).map
      (Problem.conflictingComponent composite component)

/-- what is wrong with attaching components one after the other where `present` are attached -/
def replay (g : ConstraintGraph) (composite : Composite) (present : Names) :
    List Reference → List Placed
  | [] => []
  | r :: rest =>
    (attachProblems g composite present r.name).map (fun p => ⟨p, some r.pos⟩)
      ++ replay g composite (present.add r.name) rest

/-- the name of a template in messages -/
def Template.shownName (t : Template) : String :=
  match t.name with
  | none => "<unnamed>"
  | some name => if name = "" then "<unnamed>" else name

/-- the problems of the templates of a unit -/
def templateProblems (g : ConstraintGraph) (d : Declarations) : List Placed :=
  d.templates.flatMap fun t => replay g (.template t.shownName) [] t.components

end Archetype
