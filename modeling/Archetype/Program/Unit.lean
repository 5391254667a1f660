import Archetype.Code.Grammar.Statement
import Archetype.Path
import Archetype.Text.Quoted

/-!
# Source units

A unit is one source file of a program: its path, the dotted name of its module, its text and its
statements. A file whose name ends in `.pyi` is a stub: it declares, and is not searched for calls.

* `moduleName`   the name of the module at a path;
* `parseUnit`    a unit from a text, or nothing if the text is not a module.
-/

namespace Archetype

open Text (joinWith quoted)

/-- why a text cannot be made a unit at all, which is more than being no module -/
inductive SourceError where
  /-- the path holds the character with code zero -/
  | nullInPath
  /-- the text holds the character with code zero -/
  | nullCharacter
  /-- the path has no last name that a module could be called by -/
  | emptyName (path : Path)
  deriving DecidableEq

/-- the wording of an error -/
def SourceError.message : SourceError → String
  | nullInPath => "embedded null character"
  | nullCharacter => "source code string cannot contain null bytes"
  | emptyName path => "PosixPath(" ++ quoted path.text ++ ") has an empty name"

/-- one source file -/
structure SourceUnit where
  path : Path
  module : String
  text : String
  body : List Code.Stmt

namespace SourceUnit

/-- does the unit only declare? -/
def isStub (u : SourceUnit) : Bool := u.path.suffix = ".pyi"

/-- is it the file of a package? -/
def isPackage (u : SourceUnit) : Bool := u.path.stem = "__init__"

end SourceUnit

/-- the dotted name of the module at `path` in the tree below `root`: the names on the way without
the suffix; the file of a package stands for the package -/
def moduleName (path root : Path) : Except SourceError String :=
  let rel := path.relativeTo root
  match rel.withoutSuffix? with
  | none => .error (.emptyName rel)
  | some p =>
    let parts := p.parts
    .ok (joinWith "." (if parts.getLast? = some "__init__" then parts.dropLast else parts))

/-- the unit of a text, or nothing if the text is not a module -/
def parseUnit (path : Path) (text : String) (root : Path) :
    Except SourceError (Option SourceUnit) :=
  if path.text.toList.contains (Char.ofNat 0) then .error .nullInPath
  else if text.toList.contains (Char.ofNat 0) then .error .nullCharacter
  else
    match Code.parseModule? text.toList with
    | none => .ok none
    | some body => do
      let module ← moduleName path root
      return some ⟨path, module, text, body⟩

end Archetype
