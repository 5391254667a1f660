import Archetype.Command.Project

/-!
# The command line

The command line names options of the whole program, a command, and its arguments. The options of
the program are understood first and the project is opened with them; then the command reads its own
arguments.

* `plan`   what a command line asks for: an outcome, or to watch a project.
-/

namespace Archetype.Command

/-- the name of the program -/
def programName : String := "ecslint"

def version : String := "0.1.0"

/-! ## options -/

def helpSwitch : Switch := ⟨["--help"], none, "Show this message and exit."⟩

def versionSwitch : Switch := ⟨["--version"], none, "Show the version and exit."⟩

def rootSwitch : Switch :=
  ⟨["--root", "-r"], some "DIRECTORY",
    "Project root (defaults to the nearest directory with pyproject.toml or ecslint.toml)"⟩

def configSwitch : Switch :=
  ⟨["--config"], some "FILE",
    "Configuration file (defaults to ecslint.toml or [tool.ecslint] in pyproject.toml)"⟩

def verboseSwitch : Switch := ⟨["--verbose"], none, "Enable debug logging"⟩

/-- the options of the program -/
def programSwitches : List Switch :=
  [versionSwitch, rootSwitch, configSwitch, verboseSwitch, helpSwitch]

def failOnSwitch : Switch :=
  ⟨["--fail-on"], some "[error|warning]", "Exit with error if this level or higher found"⟩

def jsonSwitch : Switch := ⟨["--json"], none, "Output as JSON"⟩

def flatSwitch : Switch := ⟨["--flat"], none, "One line per finding instead of rule-grouped output"⟩

def explainSwitch : Switch := ⟨["--explain"], some "RULE_ID", "Explain a specific rule and exit"⟩

def formatSwitch : Switch := ⟨["--format"], some "[dot|json]", "Output format"⟩

def outSwitch : Switch := ⟨["--out"], some "FILE", "Write output to a file"⟩

/-- the commands -/
inductive Verb where
  | lint
  | registry
  | graph
  | trace
  | watch
  deriving DecidableEq

namespace Verb

def name : Verb → String
  | lint => "lint"
  | registry => "registry"
  | graph => "graph"
  | trace => "trace"
  | watch => "watch"

def all : List Verb := [graph, lint, registry, trace, watch]

def ofName? (s : String) : Option Verb := all.find? (·.name == s)

/-- what the command is for -/
def purpose : Verb → String
  | lint => "Check component declarations, builders, templates and queries."
  | registry => "List every constrained component and every known component."
  | graph => "Export the dependency/conflict graph."
  | trace => "Show dependencies, conflicts and a valid attach order for COMPONENT."
  | watch => "Re-run lint whenever a .py or .toml file changes."

/-- the options of the command -/
def switches : Verb → List Switch
  | lint => [failOnSwitch, jsonSwitch, flatSwitch, explainSwitch, helpSwitch]
  | registry => [jsonSwitch, helpSwitch]
  | graph => [formatSwitch, outSwitch, helpSwitch]
  | trace => [helpSwitch]
  | watch => [flatSwitch, helpSwitch]

/-- the words that the command takes -/
def words : Verb → List String
  | trace => ["COMPONENT"]
  | _ => []

end Verb

/-! ## help -/

/-- names and what they mean, in two columns -/
def glossary (entries : List (String × String)) : List String :=
  let width := (entries.map (Text.cellWidth ·.1)).foldl max 0
  entries.map fun (name, meaning) => "  " ++ Text.padRight (width + 2) name ++ meaning

/-- options and what they are for -/
def switchLines (options : List Switch) : List String :=
  "Options:" :: glossary (options.map fun o =>
    (Text.joinWith ", " o.names ++ (o.value.map (" " ++ ·)).getD "", o.purpose))

/-- how the program is called -/
def programUsage : String := "Usage: " ++ programName ++ " [OPTIONS] COMMAND [ARGS]..."

/-- how a command is called -/
def Verb.usage (v : Verb) : String :=
  Text.joinWith " " (["Usage: " ++ programName, v.name, "[OPTIONS]"] ++ v.words)

def programHelp : List String :=
  [programUsage, "", "  Static checks for ECS component constraints.", ""]
    ++ switchLines programSwitches
    ++ "" :: "Commands:" :: glossary (Verb.all.map fun v => (v.name, v.purpose))

def Verb.help (v : Verb) : List String :=
  [v.usage, "", "  " ++ v.purpose, ""] ++ switchLines v.switches

/-! ## values -/

/-- what ends a command line early -/
inductive Stop where
  | usage (v : Option Verb) (e : UsageError)
  | config (e : ConfigError)
  | failure (f : Failure)

/-- how messages name an option -/
def Switch.hint (option : Switch) : String := Text.joinWith " / " (option.names.map Text.quoted)

/-- the options whose values are paths -/
def pathSwitches : List Switch := [rootSwitch, configSwitch, outSwitch]

/-- checks that the value of an option can be used -/
def checkValue (t : FileTree) (base : Path) (v : Option Verb) (option : Switch) (value : String) :
    Except Stop Unit :=
  let refuse (bad : BadValue) : Except Stop Unit := .error (.usage v (.badValue option.hint bad))
  if pathSwitches.contains option && value.toList.contains (Char.ofNat 0) then .error
    (.failure .nullInPath)
  else if option = rootSwitch then
    match t.written? base value with
    | some (.file _) => refuse (.directoryIsFile value)
    | _ => .ok ()
  else if option = configSwitch then
    match t.written? base value with
    | none => refuse (.noFile value)
    | some .directory => refuse (.fileIsDirectory value)
    | some (.file _) => .ok ()
  else if option = outSwitch then
    match t.written? base value with
    | some .directory => refuse (.fileIsDirectory value)
    | _ => .ok ()
  else if option = failOnSwitch then
    if (Threshold.ofName? value).isSome then .ok ()
      else refuse (.notOneOf value (Threshold.all.map (·.name)))
  else if option = formatSwitch then
    if (GraphFormat.ofName? value).isSome then .ok ()
      else refuse (.notOneOf value (GraphFormat.all.map (·.name)))
  else .ok ()

/-- checks the values of all options, in the order in which they were first given -/
def checkValues (t : FileTree) (base : Path) (v : Option Verb) (a : Arguments) : Except Stop Unit :=
  a.order.forM fun option => (a.value? option).forM (checkValue t base v option)

/-! ## what is asked for -/

/-- what a command line asks for -/
inductive Plan where
  | done (o : Outcome)
  | watch (p : Project) (flat : Bool)

/-- a text to read on, and nothing else -/
def say (t : FileTree) (lines : List String) : Plan := .done ⟨0, textOf lines, "", t⟩

/-- the outcome of arguments that cannot be understood -/
def usageOutcome (t : FileTree) (v : Option Verb) (e : UsageError) : Outcome :=
  let call := programName ++ (v.map (" " ++ ·.name)).getD ""
  ⟨2, "", textOf [(v.map Verb.usage).getD programUsage, "Try '" ++ call ++ " --help' for help.", "",
    "Error: " ++ e.message], t⟩

/-- opens the project that the options of the program name -/
def openProject (t : FileTree) (base : Path) (a : Arguments) : Except Stop Project := do
  let root := ((a.value? rootSwitch).map Path.ofString).getD (projectRoot t base)
  match t.locate (base.join root) with
  | .error .nameTooLong => throw (.failure (.unusable root .nameTooLong))
  | found =>
    if !(found.toOption.any t.isDirectory) then
      throw (.usage none
        (.badValue (Text.joinWith " / " rootSwitch.names) (.noDirectory root.text)))
  let root := (base.join root).settled
  let chosen := (a.value? configSwitch).map Path.ofString
  let found : Except LoadError (Option Path) :=
    match chosen with
    | some path => .ok (some path)
    | none => Config.find t root
  match found.bind (Config.load t base) with
  | .ok config => return ⟨root, config, chosen⟩
  | .error (.settings (.config e)) => throw (.config e)
  | .error (.settings (.long e)) => throw (.failure (.long e))
  | .error .notText => throw (.failure .notText)

/-- runs a command whose arguments are understood -/
def runVerb (t : FileTree) (base : Path) (p : Project) (v : Verb) (a : Arguments) :
    Except Failure Plan :=
  match v with
  | .lint =>
    let rule := (a.value? explainSwitch).getD ""
    if rule = "" then
      let threshold := ((a.value? failOnSwitch).bind Threshold.ofName?).getD .error
      let style := if a.has jsonSwitch then .json else if a.has flatSwitch then .flat else .grouped
      (lint p t threshold style).map .done
    else (explain t rule).map .done
  | .registry => (listComponents p t (a.has jsonSwitch)).map .done
  | .graph =>
    let format := ((a.value? formatSwitch).bind GraphFormat.ofName?).getD .dot
    (exportGraph p t base format ((a.value? outSwitch).map Path.ofString)).map .done
  | .trace => (trace p t (a.words.headD "")).map .done
  | .watch => .ok (.watch p (a.has flatSwitch))

/-- reads the arguments of a command and runs it -/
def planVerb (t : FileTree) (base : Path) (p : Project) (v : Verb) (args : List String) :
    Except Stop Plan := do
  let refuse (e : UsageError) : Stop := .usage (some v) e
  let a ← (readArguments v.switches true args).mapError refuse
  if a.has helpSwitch then return say t v.help
  checkValues t base (some v) a
  match v.words.drop a.words.length with
  | missing :: _ => throw (refuse (.missingWord missing))
  | [] => pure ()
  match a.words.drop v.words.length with
  | [] => (runVerb t base p v a).mapError .failure
  | extra => throw (refuse (.extraWords extra))

/-- the arguments of the program, with values that can be used, or the text that they ask for -/
def readProgram (t : FileTree) (base : Path) (args : List String) :
    Except Stop (Arguments ⊕ Plan) := do
  let a ← (readArguments programSwitches false args).mapError (.usage none)
  match a.order.find? fun o => o = versionSwitch || o = helpSwitch with
  | some o =>
    return .inr (say t
      (if o = versionSwitch then [programName ++ ", version " ++ version] else programHelp))
  | none =>
    checkValues t base none a
    return .inl a

/-- what is asked for when there is no command of the name in front of `args`. If the name begins as
options do, the arguments are read once more from there on, and what is wrong with them counts. -/
def planUnknown (t : FileTree) (base : Path) (name : String) (args : List String) :
    Except Stop Plan := do
  let refusal : Stop :=
    .usage none (.noSuchCommand name (Text.closest name (Verb.all.map Verb.name)))
  if Text.beginsWith "-" name then
    match ← readProgram t base args with
    | .inr asked => return asked
    | .inl _ => throw refusal
  else throw refusal

/-- reads the options of the program, opens the project and goes on with the command -/
def planProgram (t : FileTree) (base : Path) (args : List String) : Except Stop Plan := do
  match ← readProgram t base args with
  | .inr asked => return asked
  | .inl a =>
    match a.words with
    | [] => throw (.usage none .missingCommand)
    | name :: rest =>
      match Verb.ofName? name with
      | none => planUnknown t base name a.words
      | some v => planVerb t base (← openProject t base a) v rest

/-- what a command line asks for, when paths are found from `base`; without any argument it is
help -/
def plan (t : FileTree) (base : Path) (args : List String) : Except Failure Plan :=
  if args.isEmpty then .ok (.done ⟨2, "", textOf programHelp, t⟩)
  else
    match planProgram t base args with
    | .ok p => .ok p
    | .error (.usage v e) => .ok (.done (usageOutcome t v e))
    | .error (.config e) => .ok (.done ⟨1, "", textOf ["Error: " ++ e.message], t⟩)
    | .error (.failure f) => .error f

end Archetype.Command
