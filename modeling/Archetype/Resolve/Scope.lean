import Archetype.Program

/-!
# What a module binds

The scope of a module is what its top level binds: classes, functions, assignments and imports, also
those inside `if` and `try` at the top level. Later bindings of a name take the place of earlier
ones.

* `relativeModule?`   the module that a `from` import with dots means;
* `topLevel`          the statements of the top level;
* `Scope.ofUnit`      the bindings of a unit.
-/

namespace Archetype

open Text (splitOn joinWith beforeLast)

/-- what a name is bound to -/
inductive Binding where
  | class_ (name : String)
  /-- a module as a whole -/
  | module (name : String)
  /-- a name of another module -/
  | imported (module name : String)
  /-- another name, or a member of one -/
  | alias (value : Code.Expr)
  /-- a function or a value, by the line of its statement -/
  | other (line : Nat)

/-- the names that a module binds, and the modules of which it takes all names -/
structure Scope where
  bindings : Assoc Binding
  stars : List String

/-- the package that a unit belongs to -/
def SourceUnit.package (u : SourceUnit) : String :=
  if u.isPackage then u.module else beforeLast '.' u.module

/-- the module that a `from` import means: the package one level up for each dot but the first, and
the module below that; `none` if there are not so many levels. There is nothing to go up below level
one. -/
def relativeModule? (u : SourceUnit) (level : Int) (module : Option String) : Option String :=
  if level = 0 then module
  else
    let base := if u.package = "" then [] else splitOn '.' u.package
    let up := (level - 1).toNat
    if base.length < up then none
    else
      let kept := base.take (base.length - up)
      match module with
      | none => some (joinWith "." kept)
      | some m => some (joinWith "." (if m = "" then kept else kept ++ splitOn '.' m))

mutual

/-- a statement of the top level and those that it holds -/
def Code.Stmt.topLevel : Code.Stmt → List Code.Stmt
  | .if_ test body otherwise =>
    .if_ test body otherwise :: (Code.Stmt.topLevelAll body ++ Code.Stmt.topLevelAll otherwise)
  | .try_ false body handlers otherwise final =>
    .try_ false body handlers otherwise final ::
      (Code.Stmt.topLevelAll body ++ Code.Handler.topLevelAll handlers
        ++ Code.Stmt.topLevelAll otherwise ++ Code.Stmt.topLevelAll final)
  | s => [s]

/-- the statements of the top level -/
def Code.Stmt.topLevelAll : List Code.Stmt → List Code.Stmt
  | [] => []
  | s :: ss => s.topLevel ++ Code.Stmt.topLevelAll ss

/-- the statements in handlers -/
def Code.Handler.topLevelAll : List Code.Handler → List Code.Stmt
  | [] => []
  | .mk _ _ body :: hs => Code.Stmt.topLevelAll body ++ Code.Handler.topLevelAll hs

end

namespace Scope

/-- binds a name -/
def bind (s : Scope) (name : String) (b : Binding) : Scope :=
  { s with bindings := s.bindings.insert name b }

/-- the first name of a dotted one -/
def firstName (dotted : String) : String := (splitOn '.' dotted).headD ""

/-- an imported module: under its new name, or else by its first name -/
def importModule (s : Scope) (i : Code.Import) : Scope :=
  match i.asName with
  | some name => s.bind name (.module i.name)
  | none => s.bind (firstName i.name) (.module (firstName i.name))

/-- a name imported from a module -/
def importName (target : String) (s : Scope) (i : Code.Import) : Scope :=
  if i.name = "*" then { s with stars := s.stars ++ [target] }
  else s.bind (i.asName.getD i.name) (.imported target i.name)

/-- what a value at `line` makes of a name that it is assigned to -/
def valueBinding (line : Nat) : Option Code.Expr → Binding
  | some (.name pos id) => .alias (.name pos id)
  | some (.member pos e attr) => .alias (.member pos e attr)
  | _ => .other line

/-- an assigned target; only plain names are bound -/
def assignTo (b : Binding) (s : Scope) : Code.Expr → Scope
  | .name _ id => s.bind id b
  | _ => s

/-- takes in a statement of the top level -/
def add (u : SourceUnit) (s : Scope) : Code.Stmt → Scope
  | .class_ name _ _ _ _ => s.bind name (.class_ name)
  | .function pos name _ _ _ _ => s.bind name (.other pos.line)
  | .import_ names => names.foldl importModule s
  | .importFrom module names level =>
    match relativeModule? u level module with
    | none => s
    | some target => names.foldl (importName target) s
  | .assign pos targets value => targets.foldl (assignTo (valueBinding pos.line (some value))) s
  | .declare pos target _ value => assignTo (valueBinding pos.line value) s target
  | _ => s

/-- the scope of a unit -/
def ofUnit (u : SourceUnit) : Scope := (Code.Stmt.topLevelAll u.body).foldl (add u) ⟨[], []⟩

end Scope

end Archetype
