import Archetype.Code.Tree

/-!
# Parameter lists

The parameters of a function are written in a row with signs between them: `/` ends those that are
given by place only, `*` starts those that are given by name only. `arrange?` checks that the row is
in order and lists its type hints and defaults in the order in which they are visited.
-/

namespace Archetype.Code

/-- one part of a parameter list as it is written -/
inductive ParameterPart where
  | plain (hint value : Option Expr)
  | slash
  | star
  /-- `*name` -/
  | rest (hint : Option Expr)
  /-- `**name` -/
  | names (hint : Option Expr)

namespace ParameterPart

/-- a parameter list read so far: whether `/`, a default, a star and `**` were seen, whether a star
still waits for a parameter by name, and the hints and defaults -/
structure Reading where
  slashed : Bool := false
  defaulted : Bool := false
  starred : Bool := false
  waiting : Bool := false
  closed : Bool := false
  count : Nat := 0
  hints : List Expr := []
  restHint : List Expr := []
  nameHints : List Expr := []
  nameDefaults : List Expr := []
  namesHint : List Expr := []
  defaults : List Expr := []

/-- takes one more part; `none` if it is out of order. Before the star, a parameter without default
does not follow one with a default; `**` comes last. -/
def read? (r : Reading) : ParameterPart → Option Reading
  | plain hint value =>
    if r.closed then none
    else if r.starred then
      some { r with waiting := false, nameHints := r.nameHints ++ hint.toList
                    nameDefaults := r.nameDefaults ++ value.toList }
    else if r.defaulted && value.isNone then none
    else
      some { r with count := r.count + 1, defaulted := value.isSome, hints := r.hints ++ hint.toList
                    defaults := r.defaults ++ value.toList }
  | slash =>
    if r.closed || r.starred || r.slashed || r.count = 0 then none
    else some { r with slashed := true }
  | star =>
    if r.closed || r.starred then none else some { r with starred := true, waiting := true }
  | rest hint =>
    if r.closed || r.starred then none else some { r with starred := true, restHint := hint.toList }
  | names hint =>
    if r.closed || r.waiting then none else some { r with closed := true, namesHint := hint.toList }

/-- the hints and defaults of a parameter list -/
def Reading.listed (r : Reading) : List Parameter :=
  (r.hints ++ r.restHint ++ r.nameHints).map .hint ++ r.nameDefaults.map .default
    ++ r.namesHint.map .hint ++ r.defaults.map .default

/-- the hints and defaults of a parameter list in the order in which they are visited, if its parts
are in order -/
def arrange? (parts : List ParameterPart) : Option (List Parameter) := do
  let r ← parts.foldlM read? {}
  if r.waiting then none else some r.listed

end ParameterPart

end Archetype.Code
