import Archetype.Analysis
import Archetype.Report.Json
import Archetype.Report.Table

/-!
# The report of an analysis

A report is written for people, as lines with a table of counts at the end, or for other programs.

* `reportLines`   the report as lines: the findings rule by rule, or one below the other;
* `reportJson`    the report as a JSON value.
-/

namespace Archetype.Report

/-- the level in front of a finding -/
def levelLabel : Level → String
  | .error => "ERROR"
  | .warning => "WARN"
  | .info => "INFO"

/-- a finding below its rule -/
def groupedFinding (f : Finding) : List String :=
  shown ("    " ++ levelLabel f.level ++ ": " ++ f.location.text ++ " - " ++ f.message)

/-- a finding with its rule -/
def flatFinding (f : Finding) : List String :=
  shown (levelLabel f.level ++ ": [" ++ f.rule.id ++ "] " ++ f.location.text ++ " - " ++ f.message)

/-- the findings one below the other -/
def flatLines (findings : List Finding) : List String := "" :: findings.flatMap flatFinding

/-- how bad the worst findings of a rule are -/
def ruleMark (errors warnings : Nat) : String :=
  if errors > 0 then "✗" else if warnings > 0 then "⚠" else "✓"

/-- a rule with its findings -/
def ruleLines (rule : Rule) (findings : List Finding) : List String :=
  let count (level : Level) : Nat := findings.countP (·.level == level)
  let head := ruleMark (count .error) (count .warning) ++ " " ++ rule.id ++ ": " ++ rule.summary
  if findings.isEmpty then ["", head, "  ✓ No problems"]
  else
    "" :: head
      :: ("  " ++ toString (count .error) ++ " error(s), " ++ toString (count .warning)
        ++ " warning(s), "
        ++ toString (count .info) ++ " info(s)")
      :: findings.flatMap groupedFinding

/-- the findings rule by rule -/
def groupedLines (r : ProgramReport) : List String :=
  Rule.all.flatMap fun rule => ruleLines rule (r.ofRule rule)

/-- the counts of a report -/
def summaryTable (r : ProgramReport) : Table :=
  { title := "Lint Summary"
    hasHead := false
    columns := [⟨"Metric", .left⟩, ⟨"Count", .right⟩]
    rows := [
      ["Files", toString r.units],
      ["Constrained components", toString r.registry.components.length],
      ["Known components", toString r.registry.known.length],
      ["Errors", toString (r.count .error)],
      ["Warnings", toString (r.count .warning)],
      ["Info", toString (r.count .info)]] }

/-- the counts of a report, and a last word if there is nothing to mend -/
def summaryLines (r : ProgramReport) : Except MarkupError (List String) := do
  return "" :: (← (summaryTable r).lines)
    ++ (if r.count .error = 0 ∧ r.count .warning = 0 then ["", "✓ No problems found"] else [])

/-- the report as lines -/
def reportLines (flat : Bool) (r : ProgramReport) : Except MarkupError (List String) := do
  return (if flat then flatLines r.findings else groupedLines r) ++ (← summaryLines r)

/-! ## for other programs -/

/-- a finding as a JSON value; columns count from one -/
def findingJson (f : Finding) : Json :=
  .object [
    ("level", .text f.level.name),
    ("rule", .text f.rule.id),
    ("kind", .text f.problem.kind.name),
    ("file", .text f.location.path.text),
    ("line", .optional .number f.location.line),
    ("column", .optional (fun c => .number (c + 1)) f.location.column),
    ("message", .text f.message),
    ("data", .object (f.problem.data.map fun (field, value) => (field.name, .text value)))]

/-- the rules that have findings, in the order of their first -/
def rulesFound (findings : List Finding) : List Rule :=
  findings.foldl (fun rules f => if rules.contains f.rule then rules else rules ++ [f.rule]) []

/-- the report as a JSON value -/
def reportJson (r : ProgramReport) : Json :=
  let ofLevel (level : Level) : Json :=
    .list ((r.findings.filter (·.level == level)).map findingJson)
  .object [
    ("errors", ofLevel .error),
    ("warnings", ofLevel .warning),
    ("info", ofLevel .info),
    ("by_rule", .object ((rulesFound r.findings).map fun rule =>
      (rule.id, .list ((r.ofRule rule).map findingJson)))),
    ("summary", .object [
      ("snapshot", .number r.snapshot),
      ("files", .number r.units),
      ("components", .number r.registry.components.length),
      ("known_components", .number r.registry.known.length),
      ("errors", .number (r.count .error)),
      ("warnings", .number (r.count .warning)),
      ("info", .number (r.count .info))])]

end Archetype.Report
