import Archetype.Check.Queried
import Archetype.Check.Tracked
import Archetype.Config
import Archetype.Registry

/-!
# Analysing units and programs

Every unit is checked against the constraints of the whole program, those of the configuration and
its own.

* `unitProblems`     what the checks find in a unit;
* `analyzeUnit`      the findings of a unit, in the order of the checks;
* `programFindings`  the findings of a program, in the order of a report.
-/

namespace Archetype

/-- the constraints that a unit is checked against -/
def unitGraph (registry : Registry) (config : Config) (d : Declarations) : ConstraintGraph :=
  ConstraintGraph.ofDeclared config.symmetricConflicts
    (registry.constraints ++ config.seed ++ d.constraints)

/-- what the checks find in a unit: in its declared constraints, its code, its templates and its
queries -/
def unitProblems (u : SourceUnit) (resolver : Resolver) (g : ConstraintGraph) (checkCycles : Bool)
    (d : Declarations) : List Placed :=
  declaredProblems g checkCycles d
    ++ trackProblems g resolver u.body
    ++ templateProblems g d
    ++ queryProblems g d

/-- the findings of a unit -/
def analyzeUnit (u : SourceUnit) (registry : Registry) (index : Option Index) (config : Config) :
    List Finding :=
  let resolver : Resolver := ⟨u.module, index⟩
  let d := Declarations.ofUnit u resolver
  (unitProblems u resolver (unitGraph registry config d) config.checkCycles d).filterMap
    (Placed.finding? config.severityOf u.path)

/-- the findings of a program -/
def programFindings (p : Program) (registry : Registry) (index : Option Index) (config : Config) :
    List Finding :=
  (p.analyzable.flatMap fun u => analyzeUnit u registry index config).mergeSort Finding.le

/-- the findings of one state of a program -/
structure ProgramReport where
  /-- the number of the state -/
  snapshot : Nat
  registry : Registry
  findings : List Finding
  /-- how many units were analysed -/
  units : Nat

namespace ProgramReport

/-- how many findings have a level -/
def count (r : ProgramReport) (level : Level) : Nat := r.findings.countP (·.level == level)

/-- the findings of a rule -/
def ofRule (r : ProgramReport) (rule : Rule) : List Finding := r.findings.filter (·.rule == rule)

end ProgramReport

end Archetype
