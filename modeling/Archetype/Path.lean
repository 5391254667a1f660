import Archetype.Text.Split

/-!
# Paths

A path is an anchor and a row of names. Doubled slashes and single dots are not kept, two dots are.
The anchor is empty for a relative path, and otherwise one slash, or two if the path was written
with exactly two.

* `Path.ofString`, `Path.text`   reading and writing;
* `join`, `relativeTo?`          going down from a path, and back;
* `name`, `suffix`, `stem`       the last name and its parts;
* `le`                           the order of paths, name by name.
-/

namespace Archetype

open Text (splitOn joinWith)

/-- a path in a file tree -/
structure Path where
  anchor : String
  names : List String
  deriving DecidableEq

namespace Path

/-- the anchor of a written path -/
def anchorOf : List Char → String
  | '/' :: '/' :: '/' :: _ => "/"
  | '/' :: '/' :: _ => "//"
  | '/' :: _ => "/"
  | _ => ""

/-- reads a path -/
def ofString (s : String) : Path :=
  ⟨anchorOf s.toList, (splitOn '/' s).filter fun n => n != "" && n != "."⟩

/-- the path as a text; that of nothing is a dot -/
def text (p : Path) : String :=
  if p.anchor = "" && p.names.isEmpty then "." else p.anchor ++ joinWith "/" p.names

/-- the path `q` seen from `p`; an anchored path stays -/
def join (p q : Path) : Path := if q.anchor = "" then ⟨p.anchor, p.names ++ q.names⟩ else q

/-- the path of `name` in `p` -/
def child (p : Path) (name : String) : Path := ⟨p.anchor, p.names ++ [name]⟩

/-- the path one step up -/
def parent (p : Path) : Path := ⟨p.anchor, p.names.dropLast⟩

/-- the parts that an order compares: the anchor, if there is one, and the names -/
def parts (p : Path) : List String := if p.anchor = "" then p.names else p.anchor :: p.names

/-- paths are ordered part by part -/
def le (p q : Path) : Bool := !decide (q.parts < p.parts)

/-- the path as seen from `root`, if it lies below `root` -/
def relativeTo? (p root : Path) : Option Path :=
  if p.anchor = root.anchor && root.names.isPrefixOf p.names then
    some ⟨"", p.names.drop root.names.length⟩
  else none

/-- the path as seen from `root`, or as it is if it does not lie below `root` -/
def relativeTo (p root : Path) : Path := (p.relativeTo? root).getD p

/-- the last name, which is empty if there is none -/
def name (p : Path) : String := p.names.getLastD ""

/-- the part of a name before its last dot and the part from there on. A dot that comes first or
last divides nothing. -/
def splitName (name : String) : String × String :=
  let cs := name.toList
  let tail := (cs.reverse.takeWhile (· != '.')).reverse
  let head := cs.take (cs.length - tail.length - 1)
  if tail.isEmpty || head.isEmpty || tail.length = cs.length then (name, "")
  else (String.ofList head, String.ofList ('.' :: tail))

/-- the part of the last name from its last dot on -/
def suffix (p : Path) : String := (splitName p.name).2

/-- the last name without its suffix -/
def stem (p : Path) : String := (splitName p.name).1

/-- the path without the suffix of its last name; `none` if it has no last name -/
def withoutSuffix? (p : Path) : Option Path :=
  if p.names.isEmpty then none else some ⟨p.anchor, p.names.dropLast ++ [p.stem]⟩

end Path

end Archetype
