import Archetype.Resolve.Scope

/-!
# From names to declarations

A name is resolved by following imports, aliases and modules until a declaration is met. Lookups
stand inside each other when one binding refers to another name; a lookup that stands inside itself
is a cycle, and more than `maxDepth` lookups inside each other are too deep.

* `Index`                the scopes of all modules of a program;
* `Index.resolveName`    what a name means in a module;
* `Index.resolve`        the declaration that an expression names;
* `Resolver`             resolution inside one unit, which falls back on the spelling.
-/

namespace Archetype

open Text (beginsWith)

/-- the declaration that a reference resolves to -/
structure Symbol where
  name : String
  module : String
  path : Path
  isClass : Bool
  isStub : Bool
  deriving DecidableEq

/-- the name of a declaration in the whole program -/
def Symbol.qualifiedName (s : Symbol) : String := s.module ++ ":" ++ s.name

/-- what a name means -/
inductive Meaning where
  | declaration (symbol : Symbol)
  | module (name : String)
  deriving DecidableEq

/-- why a name cannot be resolved -/
inductive ResolutionError where
  | cycle (name module : String)
  | tooDeep (name module : String)
  deriving DecidableEq

/-- the wording of an error -/
def ResolutionError.message : ResolutionError → String
  | cycle name module => "Alias cycle while resolving '" ++ name ++ "' in '" ++ module ++ "'"
  | tooDeep name module => "Resolution of '" ++ name ++ "' in '" ++ module ++ "' is too deep"

/-- a module of the program: its file and its scope -/
structure IndexEntry where
  path : Path
  isStub : Bool
  scope : Scope

/-- the modules of a program -/
abbrev Index := Assoc IndexEntry

namespace Index

/-- the index of a program -/
def ofProgram (p : Program) : Index :=
  p.byModule.map fun (module, u) => (module, ⟨u.path, u.isStub, Scope.ofUnit u⟩)

/-- is it a module of the program, or a package around one? -/
def isModule (index : Index) (name : String) : Bool :=
  index.contains name || index.keys.any (beginsWith (name ++ "."))

/-- the module that a name would be inside a module -/
def submodule? (index : Index) (module name : String) : Option Meaning :=
  let inner := module ++ "." ++ name
  if index.isModule inner then some (.module inner) else none

/-- what a lookup gives: nothing if the name means nothing in the program -/
abbrev Lookup := Except ResolutionError (Option Meaning)

/-- the first of the modules in which a lookup finds something -/
def firstFound (lookup : String → Lookup) : List String → Lookup
  | [] => .ok none
  | m :: ms =>
    match lookup m with
    | .ok none => firstFound lookup ms
    | found => found

/-- what an expression means in a module: a name, or a member of what means a module -/
def resolveExprWith (lookup : String → String → Lookup) (module : String) : Code.Expr → Lookup
  | .name _ id => lookup module id
  | .member _ value attr =>
    match resolveExprWith lookup module value with
    | .ok (some (.module m)) => lookup m attr
    | .ok _ => .ok none
    | .error e => .error e
  | _ => .ok none

/-- what a binding of `name` means, with `lookup` for the lookups inside it -/
def follow (index : Index) (entry : IndexEntry) (module name : String)
    (lookup : String → String → Lookup) : Binding → Lookup
  | .class_ declared => .ok (some (.declaration ⟨declared, module, entry.path, true, entry.isStub⟩))
  | .other _ => .ok (some (.declaration ⟨name, module, entry.path, false, entry.isStub⟩))
  | .module m => .ok (if index.isModule m then some (.module m) else none)
  | .imported m name' => if index.isModule m then lookup m name' else .ok none
  | .alias value => resolveExprWith lookup module value

/-- what a name means in a module, with `lookup` for the lookups inside it -/
def step (index : Index) (module name : String) (lookup : String → String → Lookup) : Lookup :=
  match index.get? module with
  | none => .ok (index.submodule? module name)
  | some entry =>
    match entry.scope.bindings.get? name with
    | some b => index.follow entry module name lookup b
    | none =>
      match firstFound (fun m => lookup m name) entry.scope.stars with
      | .ok none => .ok (index.submodule? module name)
      | found => found

/-- the number of lookups that can stand inside each other -/
def maxDepth : Nat := 64

/-- what a name means in a module; `seen` are the lookups around this one, and `depth` more can
stand inside each other -/
def resolveName (index : Index) : (depth : Nat) → (seen : List (String × String)) →
    (module name : String) → Lookup
  | 0, seen, module, name =>
    .error (if (module, name) ∈ seen then .cycle name module else .tooDeep name module)
  | depth + 1, seen, module, name =>
    if (module, name) ∈ seen then .error (.cycle name module)
    else index.step module name (resolveName index depth ((module, name) :: seen))

/-- the declaration that an expression names in a module, if it names one -/
def resolve (index : Index) (module : String) (e : Code.Expr) :
    Except ResolutionError (Option Symbol) :=
  match resolveExprWith (resolveName index maxDepth []) module e with
  | .ok (some (.declaration s)) => .ok (some s)
  | .ok _ => .ok none
  | .error e => .error e

end Index

/-- the name that an expression ends in: that of a name, or of a member -/
def Code.Expr.spelledName? : Code.Expr → Option String
  | .name _ id => some id
  | .member _ _ attr => some attr
  | _ => none

/-- resolution inside one unit, by the index if there is one -/
structure Resolver where
  module : String
  index : Option Index

namespace Resolver

/-- the declaration that an expression names; `none` also where the index cannot tell -/
def symbol? (r : Resolver) (e : Option Code.Expr) : Option Symbol :=
  match r.index, e with
  | some index, some e =>
    match index.resolve r.module e with
    | .ok found => found
    | .error _ => none
  | _, _ => none

/-- the name of the component that an expression means: that of the declaration, or else the one
that it spells -/
def name? (r : Resolver) (e : Option Code.Expr) : Option String :=
  match r.symbol? e with
  | some s => some s.name
  | none => e.bind Code.Expr.spelledName?

end Resolver

end Archetype
