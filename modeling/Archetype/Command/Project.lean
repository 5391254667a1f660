import Archetype.Command.Arguments
import Archetype.Config.Load
import Archetype.Constraint.Order
import Archetype.Program.Load
import Archetype.Report.Graph
import Archetype.Report.Lint
import Archetype.Report.Registry
import Archetype.Report.Trace
import Archetype.Rule.Explanation
import Archetype.Session

/-!
# What can be done with a project

A project is a root with a configuration. A command reads the files below the root and ends with an
outcome: an exit code and two texts, one to read on and one about the run. Some failures have no
outcome.

* `lint`, `explain`     the findings of the project, and what a rule is about;
* `listComponents`      the components of the project;
* `exportGraph`         the constraints of the project, as text or in a file;
* `trace`               the constraints of a component.
-/

namespace Archetype.Command

/-- a project with its configuration -/
structure Project where
  root : Path
  config : Config
  /-- the file of the configuration, if it was chosen -/
  configPath : Option Path

/-- how a command ends -/
structure Outcome where
  exit : Nat
  /-- the text to read on -/
  out : String
  /-- the text about the run -/
  err : String
  /-- the files after the run -/
  tree : FileTree

/-- what ends the program without an outcome -/
inductive Failure where
  | source (e : SourceError)
  /-- a file of settings is no text -/
  | notText
  /-- a file cannot be written, or a directory cannot be looked for -/
  | unusable (path : Path) (why : Unreadable)
  /-- a path holds a character that no name can have -/
  | nullInPath
  /-- an integer has too many digits -/
  | long (e : LongInteger)
  /-- a text has tags that do not fit -/
  | markup (e : Report.MarkupError)

def Failure.message : Failure → String
  | source e => e.message
  | notText => "a file of settings is not text"
  | unusable path why => why.message path
  | nullInPath => "embedded null byte"
  | long e => e.message
  | markup e => e.message

/-- a text that could be shown -/
def showing {α : Type} (text : Except Report.MarkupError α) : Except Failure α :=
  text.mapError .markup

/-- lines as a text -/
def textOf (lines : List String) : String := Text.joinWith "" (lines.map (· ++ "\n"))

/-- the program of a project -/
def Project.program (p : Project) (t : FileTree) : Except Failure Program :=
  (Program.load t p.root p.config.exclude p.config.semantic).mapError .source

/-- the registry of a project -/
def Project.registry (p : Project) (t : FileTree) : Except Failure Registry := do
  return (Session.start.registryOf (← p.program t)).2.value

/-- the constraints of a registry and of the configuration -/
def Project.graph (p : Project) (r : Registry) : ConstraintGraph :=
  ConstraintGraph.ofDeclared p.config.symmetricConflicts (r.constraints ++ p.config.seed)

/-! ## findings -/

/-- the least level that makes an analysis fail -/
inductive Threshold where
  | error
  | warning
  deriving DecidableEq

namespace Threshold

def name : Threshold → String
  | error => "error"
  | warning => "warning"

def all : List Threshold := [error, warning]

def ofName? (s : String) : Option Threshold := all.find? (·.name == s)

/-- does a report reach the threshold? -/
def reached (threshold : Threshold) (r : ProgramReport) : Bool :=
  match threshold with
  | error => r.count .error > 0
  | warning => r.count .error > 0 || r.count .warning > 0

/-- the exit code after a report -/
def exit (threshold : Threshold) (r : ProgramReport) : Nat := if threshold.reached r then 1 else 0

end Threshold

/-- how the findings are written -/
inductive ReportStyle where
  | grouped
  | flat
  | json
  deriving DecidableEq

/-- the findings of the project -/
def lint (p : Project) (t : FileTree) (threshold : Threshold) (style : ReportStyle) :
    Except Failure Outcome := do
  if style = .json then
    let report := analyzeProgram (← p.program t) p.config
    return ⟨threshold.exit report, textOf [(Report.reportJson report).render], "", t⟩
  else
    let loading ← showing (Report.shownMarked ("Loading sources from " ++ p.root.text ++ "..."))
    let report := analyzeProgram (← p.program t) p.config
    let lines ← showing (Report.reportLines (style = .flat) report)
    return ⟨threshold.exit report, "", textOf (loading ++ lines), t⟩

/-- what a rule is about; its name may be written in large letters and between blanks -/
def explain (t : FileTree) (written : String) : Except Failure Outcome := do
  let id := Text.strip (Text.lower written)
  match Rule.ofId? id with
  | none =>
    let unknown ← showing (Report.shownMarked ("Unknown rule: " ++ id))
    return ⟨1, textOf (unknown ++ "" :: "Known rules:"
      :: Rule.all.map fun r => "  - " ++ r.id ++ ": " ++ r.summary), "", t⟩
  | some rule =>
    return ⟨0, textOf (rule.explanation.plain ++ "" :: "Finding kinds:" :: rule.kinds.map fun k =>
      "  - " ++ k.name), "", t⟩

/-! ## components and their constraints -/

/-- the components of the project -/
def listComponents (p : Project) (t : FileTree) (json : Bool) : Except Failure Outcome := do
  let r ← p.registry t
  let lines ←
    if json then pure [(Report.registryJson (some p.root) r).render]
      else showing (Report.registryLines r)
  return ⟨0, textOf lines, "", t⟩

/-- how the constraints are written -/
inductive GraphFormat where
  | dot
  | json
  deriving DecidableEq

namespace GraphFormat

def name : GraphFormat → String
  | dot => "dot"
  | json => "json"

def all : List GraphFormat := [dot, json]

def ofName? (s : String) : Option GraphFormat := all.find? (·.name == s)

end GraphFormat

/-- the constraints in a format -/
def graphText (root : Path) (g : ConstraintGraph) : GraphFormat → String
  | .dot => Report.dot g ("Component constraints: " ++ root.name)
  | .json => textOf [(Report.graphJson g).render]

/-- the constraints of the project, as text or in a file that is found from `base` -/
def exportGraph (p : Project) (t : FileTree) (base : Path) (format : GraphFormat)
    (file : Option Path) :
    Except Failure Outcome := do
  let text := graphText p.root (p.graph (← p.registry t)) format
  match file with
  | none => return ⟨0, text, "", t⟩
  | some path =>
    match t.write (base.join path) text.toUTF8 with
    | .error why => throw (.unusable path why)
    | .ok t =>
      let written ← showing (Report.shownMarked ("Wrote graph output to " ++ path.text))
      return ⟨0, "", textOf written, t⟩

/-- the constraints of a component -/
def trace (p : Project) (t : FileTree) (component : String) : Except Failure Outcome := do
  let r ← p.registry t
  let g := p.graph r
  if Report.isTraceable r g component then
    return ⟨0, textOf (← showing (Report.traceLines r g component)), "", t⟩
  else
    let missing ← showing (Report.shownMarked ("Component not found: " ++ component))
    return ⟨1, textOf missing, "", t⟩

end Archetype.Command
