import Std.Time.DateTime.Timestamp
import Archetype.Command
import Archetype.Watch.Loop

/-!
# The program

Reads the files that a command line can be about, lets the library decide, and writes what it says.

* `survey`   the files below the project and those that arguments name;
* `watch`    looks for changes four times a second;
* `run`      runs a command line.
-/

namespace Archetype.Disk

open Command (Outcome Project)

/-- what is at places of the disk -/
abbrev Found := List (Place × FileNode)

/-- the bytes of a file, if they can matter: those of other files are not read -/
def bytesAt (path : Path) : IO ByteArray := do
  if sourceSuffixes.contains path.suffix || path.suffix = ".toml" then
    try IO.FS.readBinFile path.text catch _ => return .empty
  else return .empty

/-- what a path leads to -/
def look (path : Path) : IO Found := do
  let here ← IO.currentDir
  try
    match (← (here / path.text).metadata).type with
    | .dir => return [(path.names, .directory)]
    | _ => return [(path.names, .file (← bytesAt path))]
  catch _ => return []

/-- a directory with all that is below it, except hidden directories and directories of foreign
code -/
partial def lookBelow (path : Path) : IO Found := do
  let here ← IO.currentDir
  let entries ← try (here / path.text).readDir catch _ => pure #[]
  let below ← entries.toList.mapM fun entry => do
    let child := path.child entry.fileName
    let isDirectory ← try pure ((← entry.path.symlinkMetadata).type == .dir) catch _ => pure false
    if isDirectory then
      if passesForeign [entry.fileName, ""] then return [(child.names, FileNode.directory)]
      else lookBelow child
    else look child
  return (path.names, .directory) :: below.flatten

/-- the texts in an argument that can be paths -/
def pathsIn (arg : String) : List String :=
  [arg, String.ofList ((arg.toList.dropWhile (· != '=')).drop 1),
    String.ofList (arg.toList.drop 2)].filter (· != "")

/-- the directories from the root down to a path -/
def above (path : Path) : Found := path.upward.map fun p => (p.names, .directory)

/-- is a place found by going down from one of the directories? -/
def isBelow (dirs : List Path) (place : Place) : Bool :=
  dirs.any fun dir => dir.names.isPrefixOf place && !passesForeign (place.drop dir.names.length)

/-- the directories that are not found by going down from others -/
def outermost (dirs : List Path) : List Path :=
  dirs.eraseDups.filter fun dir => !isBelow (dirs.filter (· != dir)) (dir.names ++ [""])

/-- the files that a command line can be about, when paths are found from `base`; each is there
once -/
def survey (base : Path) (args : List String) : IO FileTree := do
  let settings := base.upward.flatMap fun dir => [dir.child projectName, dir.child configName]
  let named := (args.flatMap pathsIn).map fun arg => (base.join (.ofString arg)).settled
  let near := (← (settings ++ named ++ named.map (·.parent)).eraseDups.mapM look).flatten
  let tree : FileTree := ⟨near ++ above base⟩
  let roots :=
    outermost (projectRoot tree base :: named.filter fun path => tree.isDirectory path.names)
  let below ← roots.mapM lookBelow
  return ⟨(near ++ above base).filter (fun e => !isBelow roots e.1) ++ below.flatten⟩

/-- the files that differ between two trees -/
def changedFiles (old new : FileTree) : List (Path × Option ByteArray) :=
  let kept := new.filesBelow [] |>.filterMap fun (path, bytes) =>
    match old.node? path.names with
    | some (.file before) => if before == bytes then none else some (path, some bytes)
    | _ => some (path, some bytes)
  let lost := old.filesBelow [] |>.filterMap fun (path, _) =>
    if new.isFile path.names then none else some (path, none)
  kept ++ lost

/-- writes the files that a command has changed, and what it says -/
def finish (t : FileTree) (o : Outcome) : IO UInt32 := do
  for (path, bytes) in changedFiles t o.tree do
    if let some bytes := bytes then IO.FS.writeBinFile path.text bytes
  IO.print o.out
  IO.eprint o.err
  return o.exit.toUInt32

/-- a number in two digits -/
def twoDigits (n : Nat) : String := toString (n / 10 % 10) ++ toString (n % 10)

/-- the time of day -/
def timeOfDay : IO String := do
  let seconds := ((← Std.Time.Timestamp.now).toSecondsSinceUnixEpoch.val % 86400).toNat
  return twoDigits (seconds / 3600) ++ ":" ++ twoDigits (seconds / 60 % 60) ++ ":"
    ++ twoDigits (seconds % 60)

/-- the seconds of a running clock -/
def runningSeconds : IO Float := return (← IO.monoMsNow).toFloat / 1000

/-- looks for changes until the program is stopped -/
partial def watchFrom (base : Path) (args : List String) (w : Watching) (t : FileTree) :
    IO UInt32 := do
  IO.sleep 250
  let new ← survey base args
  let now ← runningSeconds
  let w := (changedFiles t new).foldl (fun w (path, _) => w.note now ⟨false, path.text, ""⟩) w
  match w.poll new now (← timeOfDay) with
  | .error e =>
    IO.eprintln e.message
    return 1
  | .ok (w, lines) =>
    IO.eprint (Command.textOf lines)
    watchFrom base args w new

/-- watches a project -/
def watch (base : Path) (args : List String) (t : FileTree) (p : Project) (flat : Bool) :
    IO UInt32 := do
  match Watching.start t base p flat with
  | .error e =>
    IO.eprintln e.message
    return 1
  | .ok (w, lines) =>
    IO.eprint (Command.textOf lines)
    watchFrom base args w t

/-- runs a command line -/
def run (args : List String) : IO UInt32 := do
  let base := Path.ofString (← IO.currentDir).toString
  let t ← survey base args
  match Command.plan t base args with
  | .ok (.done o) => finish t o
  | .ok (.watch p flat) => watch base args t p flat
  | .error e =>
    IO.eprintln e.message
    return 1

end Archetype.Disk

def main (args : List String) : IO UInt32 := Archetype.Disk.run args
