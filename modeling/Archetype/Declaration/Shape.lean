import Archetype.Code.Levels

/-!
# Shapes of calls

The calls that matter are known by the name of what is called, whoever it is called on. `classify?`
gives the shape of a call: what it declares or does, and the expressions that say so. Options stand
in a dictionary display or are given by name.
-/

namespace Archetype

open Code (Expr Keyword Entry CallSite Row)
open Text (CodePoints)

/-- calls that declare the constraints of a component -/
def validatorNames : List String :=
  ["register_validator", "register_component_validator", "registerValidator",
    "registerComponentValidator"]

/-- calls that declare a template -/
def templateNames : List String :=
  ["register_template", "register_prefab", "registerTemplate", "registerPrefab"]

/-- calls that declare a query -/
def queryNames : List String := ["create_query", "create_system", "createQuery", "createSystem"]

/-- calls that create an entity -/
def createNames : List String := ["create_entity", "createEntity"]

/-- calls that attach a component to what they are called on -/
def attachNames : List String := ["attach", "add_component", "addComponent"]

/-- the expressions of a call that declares constraints -/
structure ValidatorShape where
  subject : Option Expr
  dependencies : Option Expr
  conflicts : Option Expr

/-- the name and the expression of a call that declares a template -/
structure TemplateShape where
  name : Option String
  components : Option Expr

/-- the name and the expressions of a call that declares a query -/
structure QueryShape where
  name : Option String
  all : Option Expr
  any : Option Expr
  none : Option Expr
  tags : Option Expr
  withoutTags : Option Expr

/-- what a call declares or does -/
inductive Shape where
  | validator (shape : ValidatorShape)
  | template (shape : TemplateShape)
  | query (shape : QueryShape)
  /-- creates an entity -/
  | create
  /-- attaches a component to the receiver -/
  | attach (receiver : Expr) (component : Option Expr)

/-- the name of what is called -/
def calledName? (c : CallSite) : Option String :=
  match c.func with
  | .member _ _ attr => some attr
  | .name _ id => some id
  | _ => none

/-- the value of a string constant -/
def constant? : Expr → Option CodePoints
  | .str _ value => some value
  | _ => none

/-- the text of a string constant -/
def stringValue? (e : Expr) : Option String := (constant? e).map CodePoints.text

/-- the items of a list, tuple or set display, without the starred ones -/
def displayItems? : Expr → Option (List Expr)
  | .row _ _ items => some (items.filter fun e => !e matches .starred _ _)
  | _ => none

/-- the value of an entry whose key is one of the texts `keys` -/
def entryValue? (keys : List String) : Entry → Option Expr
  | .pair (.str _ key) value => if key.text ∈ keys then some value else none
  | _ => none

/-- the value of the first entry of a dictionary display whose key is one of `keys` -/
def dictValue? (e : Option Expr) (keys : List String) : Option Expr :=
  match e with
  | some (.dict _ entries) => entries.findSome? (entryValue? keys)
  | _ => none

/-- the argument at a place, unless it is starred -/
def Code.CallSite.place? (c : CallSite) (i : Nat) : Option Expr :=
  match c.args[i]? with
  | some (.starred _ _) => none
  | found => found

/-- the value of the first argument with one of the names `keys` -/
def Code.CallSite.keyword? (c : CallSite) (keys : List String) : Option Expr :=
  (c.keywords.find? fun k => k.name.any (· ∈ keys)).map Keyword.value

/-- an option, in the dictionary or by name -/
def Code.CallSite.option? (c : CallSite) (options : Option Expr) (keys : List String) :
    Option Expr :=
  (dictValue? options keys).or (c.keyword? keys)

/-- the shape of a call that declares a query: its name and then its options, or its options
alone -/
def queryShape (c : CallSite) : QueryShape :=
  let first := c.place? 0
  let (name, options) :=
    match first with
    | some (.dict _ _) => (none, first)
    | _ => (first.bind stringValue?, c.place? 1)
  ⟨name, c.option? options ["all"], c.option? options ["any"],
    c.option? options ["none"], c.option? options ["tags"],
    c.option? options ["without_tags", "withoutTags"]⟩

/-- the shape of a call, if it is one that matters -/
def classify? (c : CallSite) : Option Shape :=
  match calledName? c with
  | none => none
  | some name =>
    let options := c.place? 1
    if name ∈ validatorNames then
      some (.validator ⟨c.place? 0, c.option? options ["dependencies"],
        c.option? options ["conflicts"]⟩)
    else if name ∈ templateNames then
      some (.template ⟨(c.place? 0).bind stringValue?,
        c.option? options ["components"]⟩)
    else if name ∈ queryNames then some (.query (queryShape c))
    else if name ∈ createNames then some .create
    else if name ∈ attachNames then
      match c.func with
      | .member _ receiver _ => some (.attach receiver (c.place? 0))
      | _ => none
    else none

/-- the calls of a module that have a shape, breadth first -/
def shapesOf (body : List Code.Stmt) : List (CallSite × Shape) :=
  (Code.callsOf body).filterMap fun c => (classify? c).map fun s => (c, s)

end Archetype
