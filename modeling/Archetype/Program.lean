import Archetype.Assoc
import Archetype.Names
import Archetype.Program.Unit
import Archetype.Text.Digest

/-!
# Programs

A program is the units below one root, and whether names in it are resolved by their meaning or by
their spelling alone.

* `Program.get?`          the unit of a module: real sources come before stubs;
* `Program.analyzable`    the units that are searched for calls;
* `Program.fingerprint`   what identifies the contents of a program;
* `Program.ofSources`     a program from texts in memory.
-/

namespace Archetype

/-- the units below a root -/
structure Program where
  root : Path
  units : List SourceUnit
  semantic : Bool

namespace Program

/-- takes a unit as that of its module, unless a real source has it -/
def addModule (table : Assoc SourceUnit) (u : SourceUnit) : Assoc SourceUnit :=
  match table.get? u.module with
  | none => table.insert u.module u
  | some old => if old.isStub then table.insert u.module u else table

/-- the units by their modules -/
def byModule (p : Program) : Assoc SourceUnit := p.units.foldl addModule []

/-- the unit of a module -/
def get? (p : Program) (module : String) : Option SourceUnit := p.byModule.get? module

/-- the modules of the program -/
def modules (p : Program) : List String := p.byModule.keys

/-- the units that are searched for calls -/
def analyzable (p : Program) : List SourceUnit := p.units.filter (!·.isStub)

/-- the units in the order of their written paths -/
def ordered (p : Program) : List SourceUnit :=
  p.units.mergeSort fun u v => Names.le u.path.text v.path.text

/-- the text that is digested: for each unit its path below the root and its source, each closed by
the character with code zero -/
def fingerprintText (p : Program) : String :=
  let zero := String.singleton (Char.ofNat 0)
  String.join (p.ordered.map fun u => (u.path.relativeTo p.root).text ++ zero ++ u.text ++ zero)

/-- what identifies the contents of the program -/
def fingerprint (p : Program) : String := Text.Digest.sha256 p.fingerprintText.toUTF8.toList

/-- the units of texts with their paths, in that order; texts that are not modules are left out -/
def unitsOf (root : Path) : List (Path × String) → Except SourceError (List SourceUnit)
  | [] => .ok []
  | (path, text) :: rest => do
    let unit ← parseUnit path text root
    let units ← unitsOf root rest
    return unit.toList ++ units

/-- the root of programs in memory -/
def memoryRoot : Path := ⟨"/", ["virtual"]⟩

/-- a program from texts in memory, by their paths below the root; they are taken in the order of
the paths as they are written -/
def ofSources (sources : List (String × String))
    (semantic : Bool) : Except SourceError Program := do
  let ordered := sources.mergeSort fun a b => Names.le a.1 b.1
  let units ← unitsOf memoryRoot (ordered.map fun s => (memoryRoot.join (.ofString s.1), s.2))
  return ⟨memoryRoot, units, semantic⟩

end Program

end Archetype
