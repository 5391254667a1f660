import Archetype.FileTree
import Archetype.Program
import Archetype.Text.Glob

/-!
# Programs on disk

The program below a root is made of all source files there, in the order of their paths, except
those in hidden directories and directories of foreign code, and those that a pattern excludes. A
file that is no text or no module is left out.

* `isExcluded`      is a file left out because of where it is?
* `Program.load`    the program below a root.
-/

namespace Archetype

/-- directories whose files are never taken -/
def foreignDirectories : List String :=
  ["__pycache__", "site-packages", "node_modules", "venv", ".venv"]

/-- suffixes of source files -/
def sourceSuffixes : List String := [".py", ".pyi"]

/-- is one of the directories on the way hidden or foreign? -/
def passesForeign (parts : List String) : Bool :=
  parts.dropLast.any fun part => Text.beginsWith "." part || foreignDirectories.contains part

/-- is the file left out because of where it is? -/
def isExcluded (path root : Path) (patterns : List String) : Bool :=
  let rel := path.relativeTo root
  passesForeign rel.parts || patterns.any (Text.globMatch · rel.text)

/-- the source files below a root, in order -/
def sourceFiles (t : FileTree) (root : Path) (patterns : List String) : List (Path × ByteArray) :=
  ((t.filesBelow root.names).filter fun (path, _) =>
    sourceSuffixes.contains path.suffix && !isExcluded path root patterns).mergeSort
      fun a b => a.1.le b.1

/-- the program below a root -/
def Program.load (t : FileTree) (root : Path) (patterns : List String) (semantic : Bool) :
    Except SourceError Program := do
  let root := root.settled
  let texts := (sourceFiles t root patterns).filterMap fun (path, bytes) =>
    (FileTree.textOf? bytes).map (path, ·)
  return ⟨root, ← unitsOf root texts, semantic⟩

end Archetype
