import Archetype.Path
import Archetype.Text.Quoted

/-!
# File trees

A file tree says what is at each place below its root: a directory, a file with its bytes, or
nothing. A place is a row of names; a path leads to it from the root, and two dots in a path lead
one step up, out of a directory that must be there.

* `FileTree.locate`      the place that a path leads to;
* `written?`             what a path leads to that was written by hand;
* `read`, `readText`     the bytes and the text of a file;
* `put`, `write`         a file with all directories above it, and a file in a directory that is
                         there;
* `filesBelow`           the files below a place.
-/

namespace Archetype

/-- what is at a place -/
inductive FileNode where
  | directory
  | file (bytes : ByteArray)

/-- why a file cannot be read or written -/
inductive Unreadable where
  | missing
  | notDirectory
  | isDirectory
  | nameTooLong
  deriving DecidableEq, Repr

/-- the reason in a message -/
def Unreadable.reason : Unreadable → String
  | missing => "[Errno 2] No such file or directory"
  | notDirectory => "[Errno 20] Not a directory"
  | isDirectory => "[Errno 21] Is a directory"
  | nameTooLong => "[Errno 36] File name too long"

/-- the message on a path -/
def Unreadable.message (why : Unreadable) (path : Path) : String :=
  why.reason ++ ": " ++ Text.quoted path.text

/-- a row of names from the root -/
abbrev Place := List String

/-- what is where; the root is always a directory -/
structure FileTree where
  entries : List (Place × FileNode)

namespace FileTree

/-- a tree with nothing in it -/
def empty : FileTree := ⟨[]⟩

/-- what is at a place -/
def node? (t : FileTree) (place : Place) : Option FileNode :=
  if place.isEmpty then some .directory else t.entries.lookup place

def isDirectory (t : FileTree) (place : Place) : Bool := t.node? place matches some .directory

def isFile (t : FileTree) (place : Place) : Bool := t.node? place matches some (.file _)

/-- the bytes that a name can have -/
def maxNameBytes : Nat := 255

/-- the place that a name leads to from a directory: two dots lead up, a dot and no name lead
nowhere else -/
def step (place : Place) (name : String) : Place :=
  if name = ".." then place.dropLast else if name = "." || name = "" then place else place ++ [name]

/-- goes on from a place by names; every step but the last must end in a directory -/
def walk (t : FileTree) (place : Place) : List String → Except Unreadable Place
  | [] => .ok place
  | name :: rest =>
    match t.node? place with
    | some .directory =>
      if maxNameBytes < name.utf8ByteSize then .error .nameTooLong
        else t.walk (step place name) rest
    | some (.file _) => .error .notDirectory
    | none => .error .missing

/-- the place that a path leads to from the root -/
def locate (t : FileTree) (path : Path) : Except Unreadable Place := t.walk [] path.names

/-- what a path as it was written leads to from `base`. Unlike in a path that was read, a dot and a
slash at the end lead somewhere only behind a directory. -/
def written? (t : FileTree) (base : Path) (written : String) : Option FileNode :=
  let start : Path := if Text.beginsWith "/" written then ⟨"/", []⟩ else base
  if written = "" then none
  else
    match t.locate start with
    | .error _ => none
    | .ok place =>
      match t.walk place (Text.splitOn '/' written) with
      | .ok place => t.node? place
      | .error _ => none

/-- what a path leads to -/
def at? (t : FileTree) (path : Path) : Option FileNode :=
  match t.locate path with
  | .ok place => t.node? place
  | .error _ => none

/-! ## reading -/

/-- the bytes of a file -/
def read (t : FileTree) (path : Path) : Except Unreadable ByteArray := do
  match t.node? (← t.locate path) with
  | none => throw .missing
  | some .directory => throw .isDirectory
  | some (.file bytes) => return bytes

/-- the text of bytes, whose lines all end alike; nothing if they are no text -/
def textOf? (bytes : ByteArray) : Option String :=
  (String.fromUTF8? bytes).map fun s => String.ofList (Text.unifyNewlines s.toList)

/-- the files below a place, by their paths -/
def filesBelow (t : FileTree) (place : Place) : List (Path × ByteArray) :=
  t.entries.filterMap fun (p, node) =>
    match node with
    | .file bytes => if place.isPrefixOf p then some (⟨"/", p⟩, bytes) else none
    | .directory => none

/-! ## writing -/

/-- what is at a place from now on -/
def set (t : FileTree) (place : Place) (node : FileNode) : FileTree :=
  if place.isEmpty then t else ⟨t.entries.filter (·.1 != place) ++ [(place, node)]⟩

/-- a directory with all directories above it -/
def makeDirectory (t : FileTree) (place : Place) : FileTree :=
  ((List.range (place.length + 1)).map place.take).foldl
    (fun t p => if t.isDirectory p then t else t.set p .directory) t

/-- a file with all directories above it -/
def put (t : FileTree) (place : Place) (bytes : ByteArray) : FileTree :=
  (t.makeDirectory place.dropLast).set place (.file bytes)

/-- a file in a directory that is there -/
def write (t : FileTree) (path : Path) (bytes : ByteArray) : Except Unreadable FileTree := do
  let place ← t.locate path
  if t.isDirectory place then throw .isDirectory
  else
    match t.node? place.dropLast with
    | none => throw .missing
    | some (.file _) => throw .notDirectory
    | some .directory => return t.set place (.file bytes)

/-- nothing is at the place from now on -/
def remove (t : FileTree) (place : Place) : FileTree := ⟨t.entries.filter (·.1 != place)⟩

end FileTree

/-! ## paths without steps up -/

/-- a path without its steps up: each takes back the name before it -/
def Path.settled (p : Path) : Path :=
  ⟨p.anchor, p.names.foldl (fun names n => if n = ".." then names.dropLast else names ++ [n]) []⟩

/-- a path and the paths above it, nearest first -/
def Path.upward (p : Path) : List Path :=
  ((List.range (p.names.length + 1)).reverse).map fun n => ⟨p.anchor, p.names.take n⟩

end Archetype
