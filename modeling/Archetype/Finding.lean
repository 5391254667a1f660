import Archetype.Code.Position
import Archetype.Path
import Archetype.Rule.Message
import Archetype.Text.Case

/-!
# Findings

A finding is a problem at a place, with the level of its rule.

* `Location.text`   the file name, the line and the column, counted from one;
* `Finding.text`    a finding on a line.
-/

namespace Archetype

/-- a place in a file. Without a line it is the file as a whole. -/
structure Location where
  path : Path
  line : Option Int
  column : Option Int
  deriving DecidableEq

namespace Location

/-- the place of a position in a file -/
def of (path : Path) : Option Code.Position → Location
  | none => ⟨path, none, none⟩
  | some pos => ⟨path, some pos.line, some pos.column⟩

@[simp] theorem path_of (path : Path) (pos : Option Code.Position) : (of path pos).path = path := by
  cases pos <;> rfl

/-- the line in a text; no line, or line zero, is left out, and the column with it -/
def text (l : Location) : String :=
  match l.line with
  | none => l.path.name
  | some line =>
    if line = 0 then l.path.name
    else
      match l.column with
      | none => l.path.name ++ ":" ++ toString line
      | some column => l.path.name ++ ":" ++ toString line ++ ":" ++ toString (column + 1)

end Location

/-- a problem at a place -/
structure Finding where
  problem : Problem
  location : Location
  level : Level
  deriving DecidableEq

namespace Finding

/-- a finding on a line, from its parts -/
def line (level rule : String) (location : Location) (message : String) : String :=
  Text.upper level ++ ": [" ++ rule ++ "] " ++ location.text ++ " - " ++ message

def rule (f : Finding) : Rule := f.problem.rule

def message (f : Finding) : String := f.problem.message

/-- the finding on a line -/
def text (f : Finding) : String := line f.level.name f.rule.id f.location f.message

/-- the order of a report: by the path's text, then line, column and rule -/
def le (a b : Finding) : Bool :=
  let key (f : Finding) : String × Int × Int × String :=
    (f.location.path.text, f.location.line.getD 0, f.location.column.getD 0, f.rule.id)
  let x := key a
  let y := key b
  decide (x.1 < y.1) || (x.1 == y.1 && (decide (x.2.1 < y.2.1) || (x.2.1 == y.2.1 &&
    (decide (x.2.2.1 < y.2.2.1) || (x.2.2.1 == y.2.2.1 && !decide (y.2.2.2 < x.2.2.2))))))

end Finding

end Archetype
