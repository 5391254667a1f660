import Archetype.Finding

/-!
# Problems at places

A check gives problems, each with the position in the unit at which it is to be reported, in the
order in which it comes upon them.
-/

namespace Archetype

/-- a problem at a position of the unit that is being checked, or in the unit as a whole -/
structure Placed where
  problem : Problem
  pos : Option Code.Position
  deriving DecidableEq

namespace Placed

/-- the finding of a placed problem in a file, unless the rule of the problem is off -/
def finding? (severity : Rule → Severity) (path : Path) (p : Placed) : Option Finding :=
  (severity p.problem.rule).level?.map fun level => ⟨p.problem, .of path p.pos, level⟩

end Placed

end Archetype
