import Archetype.Check.Placed
import Archetype.Constraint.Cycle

/-!
# Checking declared constraints

A component must not depend on itself or be in conflict with itself, must not require what it
forbids, and should list nothing twice; and dependencies must not run in a circle. All but the last
is checked declaration by declaration. A contradiction is reported with the first declaration of its
component, and a cycle with the first declaration of the first of its members that the unit
declares.
-/

namespace Archetype

open Code (Position)

/-- the mentions that are the first to repeat their names; `seen` are the earlier names, and `told`
those of them that were repeated before -/
def secondsFrom {κ : Type} [DecidableEq κ] (seen told : List κ) :
    List (Mention κ) → List (Mention κ)
  | [] => []
  | r :: rest =>
    if r.name ∈ seen ∧ r.name ∉ told then r :: secondsFrom (r.name :: seen) (r.name :: told) rest
    else secondsFrom (r.name :: seen) told rest

/-- the second occurrence of each repeated name, in order -/
def seconds {κ : Type} [DecidableEq κ] (refs : List (Mention κ)) : List (Mention κ) :=
  secondsFrom [] [] refs

/-- the first mention of a name that has been met before; `met` tells whether it has -/
def againFrom? (name : String) : (met : Bool) → List Reference → Option Reference
  | _, [] => none
  | met, r :: rest =>
    if r.name = name then
      if met then some r else againFrom? name true rest
    else againFrom? name met rest

/-- the mention that repeats a name; if none does, what the list starts with -/
def repeatOf? (refs : List Reference) (name : String) : Option Reference :=
  (againFrom? name false refs).or refs.head?

/-- the names that a list has more than once, in order, each with the mention that repeats it -/
def repeats (refs : List Reference) : List (String × Reference) :=
  (Names.sorted (repeated (refs.map (·.name)))).filterMap fun name =>
    (repeatOf? refs name).map (name, ·)

/-- the first occurrence of a name -/
def firstOf? (refs : List Reference) (name : String) : Option Reference :=
  refs.find? (·.name == name)

namespace Validator

/-- a component that is in its own lists; reported where the list starts -/
def selfReferences (v : Validator) : List Placed :=
  let name := v.subject.name
  let own (side : Side) (refs : List Reference) (pos : Option Position) : List Placed :=
    if (refs.map (·.name)).contains name then [⟨.selfReference side name, pos⟩] else []
  own .dependency v.dependencies v.dependenciesPos ++ own .conflict v.conflicts v.conflictsPos

/-- the place for a contradiction: the conflict that the declaration lists, else the dependency,
else its call -/
def contradictionPos (v : Validator) (target : String) : Position :=
  (((firstOf? v.conflicts target).or (firstOf? v.dependencies target)).map (·.pos)).getD v.call

/-- what the component both depends on and conflicts with, but for the pairs that were reported
before -/
def contradicted (v : Validator) (g : ConstraintGraph) (reported : List Edge) : List String :=
  (Names.sorted (g.contradictions v.subject.name)).filter fun target =>
    !reported.contains (v.subject.name, target)

theorem mem_contradicted (v : Validator) (g : ConstraintGraph) (reported : List Edge)
    (target : String) :
    target ∈ v.contradicted g reported ↔
      target ∈ g.contradictions v.subject.name ∧ (v.subject.name, target) ∉ reported := by
  unfold contradicted
  rw [List.mem_filter, Names.mem_sorted, Bool.not_eq_true', ← Bool.not_eq_true,
    List.contains_iff_mem]

/-- the contradictions with some targets -/
def contradictions (v : Validator) (targets : List String) : List Placed :=
  targets.map fun target => ⟨.contradiction v.subject.name target, some (v.contradictionPos target)⟩

/-- what the lists name more than once, each at its second occurrence -/
def repetitions (v : Validator) : List Placed :=
  let within (side : Side) (refs : List Reference) : List Placed :=
    (repeats refs).map fun e => ⟨.repeatedEntry side e.1, some e.2.pos⟩
  within .dependency v.dependencies ++ within .conflict v.conflicts

end Validator

/-- the problems of declarations one after the other; `reported` are the contradictions of those
before -/
def declaredFrom (g : ConstraintGraph) (reported : List Edge) : List Validator → List Placed
  | [] => []
  | v :: rest =>
    let targets := v.contradicted g reported
    v.selfReferences ++ v.contradictions targets ++ v.repetitions
      ++ declaredFrom g (reported ++ targets.map (v.subject.name, ·)) rest

/-- the first declaration of a component -/
def registration? (validators : List Validator) (name : String) : Option Validator :=
  validators.find? (·.subject.name == name)

/-- the declaration with which a cycle is reported -/
def cycleOwner? (validators : List Validator) (cycle : List String) : Option Validator :=
  cycle.dropLast.findSome? (registration? validators)

/-- the cycles that have a member which the unit declares -/
def cycleProblems (g : ConstraintGraph) (validators : List Validator) : List Placed :=
  g.cycles.filterMap fun cycle =>
    (cycleOwner? validators cycle).map fun v => ⟨.cycle cycle, some v.call⟩

/-- the problems of the constraints that a unit declares -/
def declaredProblems (g : ConstraintGraph) (checkCycles : Bool) (d : Declarations) : List Placed :=
  declaredFrom g [] d.validators ++ (if checkCycles then cycleProblems g d.validators else [])

end Archetype
