import Archetype.Check.Composed

/-!
# Following entities through code

Code creates entities, gives them names and attaches components to them. The code is read once, from
top to bottom: a name that is bound to a new entity stands for it until it is bound to something
else, and every attach is checked against what was attached to the entity before. A function, a
lambda and a comprehension have names of their own, and see none of those around them.

* `Tracker`          which entity a name stands for, and what each entity has;
* `Expr.track` …     what reading a part of the code does to it;
* `trackProblems`    the problems of the attaches of a unit.
-/

namespace Archetype

open Code

/-- what is known while code is read -/
structure Tracker where
  /-- the entities that names stand for, by number -/
  names : Assoc Nat
  /-- the components of each entity -/
  entities : List Names
  found : List Placed
  deriving Inhabited

/-- what attaches are checked against -/
structure TrackingContext where
  graph : ConstraintGraph
  resolver : Resolver

namespace Tracker

/-- what is known before any code is read -/
def start : Tracker := ⟨[], [], []⟩

/-- the name stands for no entity -/
def drop (t : Tracker) (name : String) : Tracker := { t with names := t.names.erase name }

def dropAll (t : Tracker) (names : List String) : Tracker := names.foldl drop t

/-- the name, if there is one, stands for no entity -/
def drop? (t : Tracker) : Option String → Tracker
  | none => t
  | some name => t.drop name

/-- a new entity, without components -/
def create (t : Tracker) : Tracker × Nat :=
  ({ t with entities := t.entities ++ [[]] }, t.entities.length)

/-- attaches a component to an entity; problems are reported at `pos` -/
def attach (t : Tracker) (g : ConstraintGraph) (entity : Nat) (component : String)
    (pos : Position) : Tracker :=
  let present := t.entities.getD entity []
  { t with
    entities := t.entities.set entity (present.add component)
    found := t.found ++ (attachProblems g .entity present component).map fun p => ⟨p, some pos⟩ }

/-- reads code whose names are its own -/
def apart (t : Tracker) (read : Tracker → Tracker) : Tracker :=
  { read { t with names := [] } with names := t.names }

end Tracker

mutual

/-- the names that a target binds, through tuples, lists and stars -/
def boundNames : Expr → List String
  | .name _ id => [id]
  | .row _ .tuple items => listBoundNames items
  | .row _ .list items => listBoundNames items
  | .starred _ value => boundNames value
  | _ => []

/-- the names that a row of targets binds -/
def listBoundNames : List Expr → List String
  | [] => []
  | e :: es => boundNames e ++ listBoundNames es

end

/-- the entity that an expression means, if `result` is what its own calls gave: only a call or a
name means one -/
def entityOf? (t : Tracker) (e : Expr) (result : Option Nat) : Option Nat :=
  match e with
  | .call _ _ _ _ => result
  | .name _ id => t.names.get? id
  | _ => none

/-- binds a target to the value of an expression. Unpacking never gives an entity. -/
def bindTarget (t : Tracker) (value : Expr) (result : Option Nat) (target : Expr) : Tracker :=
  match target with
  | .name _ id =>
    match entityOf? t value result with
    | some entity => { t with names := t.names.insert id entity }
    | none => t.drop id
  | target => t.dropAll (boundNames target)

/-- What a call does once its parts have been read: it creates an entity, or attaches a component to
the entity of its receiver, which it then stands for. `result` is the entity that the receiver's own
calls gave. -/
def TrackingContext.call (ctx : TrackingContext) (t : Tracker) (c : CallSite)
    (result : Option Nat) :
    Tracker × Option Nat :=
  match classify? c with
  | some .create =>
    let (t, entity) := t.create
    (t, some entity)
  | some (.attach receiver component) =>
    match entityOf? t receiver result with
    | none => (t, none)
    | some entity =>
      match ctx.resolver.name? component with
      | none => (t, some entity)
      | some name => (t.attach ctx.graph entity name c.pos, some entity)
  | _ => (t, none)

/-! ## expressions -/

mutual

/-- reads an expression. The number is the entity that a call gave, or for a member of something the
entity that a call gave there. -/
def Code.Expr.track (ctx : TrackingContext) : Expr → Tracker → Tracker × Option Nat
  | .name _ _, t => (t, none)
  | .str _ _, t => (t, none)
  | .member _ value _, t => value.track ctx t
  | .call pos func args keywords, t =>
    let (t, result) := func.track ctx t
    let t := Expr.trackAll ctx args t
    let t := Keyword.trackAll ctx keywords t
    ctx.call t ⟨pos, func, args, keywords⟩ result
  | .row _ _ items, t => (Expr.trackAll ctx items t, none)
  | .dict _ entries, t => (Entry.trackValues ctx entries (Entry.trackKeys ctx entries t), none)
  | .starred _ value, t => ((value.track ctx t).1, none)
  | .subscript _ value index, t => ((index.track ctx (value.track ctx t).1).1, none)
  | .named _ target value, t =>
    let (t, result) := value.track ctx (target.track ctx t).1
    (bindTarget t value result target, none)
  | .lambda _ parameters body, t =>
    (t.apart fun t => (body.track ctx (Parameter.trackAll ctx parameters t)).1, none)
  | .comprehension _ yields clauses, t =>
    (t.apart fun t => Clause.trackAll ctx clauses (Expr.trackAll ctx yields t), none)
  | .other _ operands, t => (Expr.trackAll ctx operands t, none)

def Code.Expr.trackAll (ctx : TrackingContext) : List Expr → Tracker → Tracker
  | [], t => t
  | e :: es, t => Expr.trackAll ctx es (e.track ctx t).1

def Code.Keyword.trackAll (ctx : TrackingContext) : List Keyword → Tracker → Tracker
  | [], t => t
  | .mk _ value :: ks, t => Keyword.trackAll ctx ks (value.track ctx t).1

def Code.Entry.trackKeys (ctx : TrackingContext) : List Entry → Tracker → Tracker
  | [], t => t
  | .pair key _ :: es, t => Entry.trackKeys ctx es (key.track ctx t).1
  | .spread _ :: es, t => Entry.trackKeys ctx es t

def Code.Entry.trackValues (ctx : TrackingContext) : List Entry → Tracker → Tracker
  | [], t => t
  | .pair _ value :: es, t => Entry.trackValues ctx es (value.track ctx t).1
  | .spread value :: es, t => Entry.trackValues ctx es (value.track ctx t).1

def Code.Clause.trackAll (ctx : TrackingContext) : List Clause → Tracker → Tracker
  | [], t => t
  | .mk target iter conditions :: cs, t =>
    Clause.trackAll ctx cs (Expr.trackAll ctx conditions (iter.track ctx (target.track ctx t).1).1)

def Code.Parameter.trackAll (ctx : TrackingContext) : List Parameter → Tracker → Tracker
  | [], t => t
  | .hint value :: ps, t => Parameter.trackAll ctx ps (value.track ctx t).1
  | .default value :: ps, t => Parameter.trackAll ctx ps (value.track ctx t).1

end

/-- reads an expression that may be missing -/
def trackOption (ctx : TrackingContext) : Option Expr → Tracker → Tracker
  | none, t => t
  | some e, t => (e.track ctx t).1

/-- reads the contexts of a `with` statement, whose targets are bound one after the other -/
def trackItems (ctx : TrackingContext) : List WithItem → Tracker → Tracker
  | [], t => t
  | item :: items, t =>
    let t := (item.context.track ctx t).1
    trackItems ctx items (t.dropAll ((item.target.map boundNames).getD []))

/-- the name that an import binds: its own, or the first part of what is imported -/
def Code.Import.boundName (i : Import) : String :=
  i.asName.getD ((Text.splitOn '.' i.name).headD "")

/-! ## patterns -/

mutual

/-- reads a pattern; what it binds is no entity -/
def Code.Pattern.track (ctx : TrackingContext) : Pattern → Tracker → Tracker
  | .value e, t => (e.track ctx t).1
  | .constant, t => t
  | .sequence parts, t => Pattern.trackAll ctx parts t
  | .mapping keys parts others, t =>
    (Pattern.trackAll ctx parts (Expr.trackAll ctx keys t)).drop? others
  | .record cls parts named, t =>
    Pattern.trackAll ctx named (Pattern.trackAll ctx parts (cls.track ctx t).1)
  | .rest name, t => t.drop? name
  | .capture none name, t => t.drop? name
  | .capture (some inner) name, t => (inner.track ctx t).drop? name
  | .choice parts, t => Pattern.trackAll ctx parts t

def Code.Pattern.trackAll (ctx : TrackingContext) : List Pattern → Tracker → Tracker
  | [], t => t
  | p :: ps, t => Pattern.trackAll ctx ps (p.track ctx t)

end

/-! ## statements -/

mutual

/-- reads a statement -/
def Code.Stmt.track (ctx : TrackingContext) : Stmt → Tracker → Tracker
  | .function _ name parameters body decorators returns, t =>
    (t.drop name).apart fun t =>
      trackOption ctx returns
        (Expr.trackAll ctx decorators
          (Stmt.trackAll ctx body (Parameter.trackAll ctx parameters t)))
  | .class_ name bases keywords body decorators, t =>
    Expr.trackAll ctx decorators
      (Stmt.trackAll ctx body
        (Keyword.trackAll ctx keywords (Expr.trackAll ctx bases (t.drop name))))
  | .assign _ targets value, t =>
    let (t, result) := value.track ctx (Expr.trackAll ctx targets t)
    targets.foldl (fun t target => bindTarget t value result target) t
  | .declare _ target hint value, t =>
    let t := (hint.track ctx (target.track ctx t).1).1
    match value with
    | none => t
    | some value =>
      let (t, result) := value.track ctx t
      bindTarget t value result target
  | .augment target value, t =>
    (value.track ctx (target.track ctx t).1).1.dropAll (boundNames target)
  | .delete targets, t => (Expr.trackAll ctx targets t).dropAll (listBoundNames targets)
  | .for_ target iter body otherwise, t =>
    Stmt.trackAll ctx otherwise
      (Stmt.trackAll ctx body ((iter.track ctx t).1.dropAll (boundNames target)))
  | .while_ test body otherwise, t =>
    Stmt.trackAll ctx otherwise (Stmt.trackAll ctx body (test.track ctx t).1)
  | .if_ test body otherwise, t =>
    Stmt.trackAll ctx otherwise (Stmt.trackAll ctx body (test.track ctx t).1)
  | .with_ items body, t => Stmt.trackAll ctx body (trackItems ctx items t)
  | .try_ _ body handlers otherwise final, t =>
    Stmt.trackAll ctx final
      (Stmt.trackAll ctx otherwise (Handler.trackAll ctx handlers (Stmt.trackAll ctx body t)))
  | .import_ names, t => t.dropAll (names.map Import.boundName)
  | .importFrom _ names _, t => t.dropAll (names.map Import.boundName)
  | .match_ subject cases, t => Case.trackAll ctx cases (subject.track ctx t).1
  | .evaluate values, t => Expr.trackAll ctx values t

def Code.Stmt.trackAll (ctx : TrackingContext) : List Stmt → Tracker → Tracker
  | [], t => t
  | s :: ss, t => Stmt.trackAll ctx ss (s.track ctx t)

/-- reads handlers; the name of one is bound on entry and unbound on exit -/
def Code.Handler.trackAll (ctx : TrackingContext) : List Handler → Tracker → Tracker
  | [], t => t
  | .mk type name body :: hs, t =>
    Handler.trackAll ctx hs
      ((Stmt.trackAll ctx body (trackOption ctx type (t.drop? name))).drop? name)

def Code.Case.trackAll (ctx : TrackingContext) : List Case → Tracker → Tracker
  | [], t => t
  | .mk pattern guard body :: cs, t =>
    Case.trackAll ctx cs (Stmt.trackAll ctx body (trackOption ctx guard (pattern.track ctx t)))

end

/-- The problems of the attaches in the body of a unit. No limit is set to how deep statements and
expressions stand inside each other, beyond those that the tokens have for brackets and blocks. -/
def trackProblems (g : ConstraintGraph) (resolver : Resolver) (body : List Stmt) : List Placed :=
  (Stmt.trackAll ⟨g, resolver⟩ body .start).found

end Archetype
