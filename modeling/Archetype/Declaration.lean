import Archetype.Declaration.Shape
import Archetype.Resolve.Symbol

/-!
# Declarations

What a unit declares: the constraints of components, templates and queries, each list in the order
of the positions of their calls.

* `Mention`                a component or a tag that was named, and where;
* `Declarations.ofUnit`    the declarations of a unit.
-/

namespace Archetype

open Code (Expr CallSite Position)
open Text (CodePoints)

/-- something that was named, and the place of the expression that names it -/
structure Mention (κ : Type) where
  name : κ
  pos : Position
  deriving DecidableEq

/-- a component that was named -/
abbrev Reference := Mention String

/-- a tag that was named -/
abbrev TagMention := Mention CodePoints

/-- declared constraints of the component `subject` -/
structure Validator where
  subject : Reference
  /-- the expression of the subject -/
  subjectExpr : Expr
  call : Position
  dependencies : List Reference
  conflicts : List Reference
  /-- the place of the expression that lists the dependencies -/
  dependenciesPos : Option Position
  conflictsPos : Option Position

/-- a declared template -/
structure Template where
  name : Option String
  call : Position
  components : List Reference

/-- a declared query -/
structure Query where
  name : Option String
  call : Position
  all : List Reference
  any : List Reference
  none : List Reference
  tags : List TagMention
  withoutTags : List TagMention

/-- what a unit declares -/
structure Declarations where
  validators : List Validator
  templates : List Template
  queries : List Query

/-- the component that an expression means; an empty name is none -/
def Resolver.component? (r : Resolver) (e : Option Expr) : Option String :=
  (r.name? e).filter (· != "")

/-- the components of a display; what does not resolve is left out -/
def Resolver.references (r : Resolver) (e : Option Expr) : List Reference :=
  ((e.bind displayItems?).getD []).filterMap fun item =>
    (r.component? (some item)).map fun name => ⟨name, item.pos⟩

/-- the tags of a display: its string constants -/
def tagMentions (e : Option Expr) : List TagMention :=
  ((e.bind displayItems?).getD []).filterMap fun item =>
    (constant? item).map fun value => ⟨value, item.pos⟩

/-- the component of an entry of a template: the entry itself, or what its dictionary has as type -/
def Resolver.templateEntry? (r : Resolver) (entry : Expr) : Option Reference :=
  let means :=
    match entry with
    | .dict _ _ => dictValue? (some entry) ["type"]
    | e => some e
  (r.component? means).map fun name => ⟨name, entry.pos⟩

/-- the constraints that a call declares, if its subject resolves -/
def Resolver.validator? (r : Resolver) (call : Position) (s : ValidatorShape) : Option Validator :=
  match s.subject, r.component? s.subject with
  | some e, some name =>
    some ⟨⟨name, e.pos⟩, e, call, r.references s.dependencies, r.references s.conflicts,
      s.dependencies.map Expr.pos, s.conflicts.map Expr.pos⟩
  | _, _ => none

/-- the template that a call declares, if its components are a display -/
def Resolver.template? (r : Resolver) (call : Position) (s : TemplateShape) : Option Template :=
  (s.components.bind displayItems?).map fun items =>
    ⟨s.name, call, items.filterMap r.templateEntry?⟩

/-- the query that a call declares -/
def Resolver.query (r : Resolver) (call : Position) (s : QueryShape) : Query :=
  ⟨s.name, call, r.references s.all, r.references s.any, r.references s.none, tagMentions s.tags,
    tagMentions s.withoutTags⟩

namespace Declarations

/-- the calls that have a shape, in source order; calls at one place stay breadth first -/
def orderedShapes (body : List Code.Stmt) : List (CallSite × Shape) :=
  (shapesOf body).mergeSort fun a b => a.1.pos.le b.1.pos

/-- the declarations of a unit -/
def ofUnit (u : SourceUnit) (r : Resolver) : Declarations :=
  let shapes := orderedShapes u.body
  { validators := shapes.filterMap fun (c, s) =>
      match s with
      | .validator shape => r.validator? c.pos shape
      | _ => none
    templates := shapes.filterMap fun (c, s) =>
      match s with
      | .template shape => r.template? c.pos shape
      | _ => none
    queries := shapes.filterMap fun (c, s) =>
      match s with
      | .query shape => some (r.query c.pos shape)
      | _ => none }

end Declarations

end Archetype
