import Archetype.Constraint.Graph
import Archetype.FileTree
import Archetype.Rule
import Archetype.Setting
import Archetype.Text.Blank
import Archetype.Text.Case

/-!
# Configuration

What can be configured: the severities of the rules, whether conflicts bind both sides, whether
cycles are searched for, whether names are resolved across modules, which files are left out, and
constraints besides those declared in code.

* `Config.ofSettings`   reads and checks a table of settings;
* `ConfigError`         why a configuration cannot be used;
* `SettingsError`       why settings make no configuration;
* `Config.seed`         the constraints that the configuration declares.
-/

namespace Archetype

/-- a configuration that was checked -/
structure Config where
  preset : Preset
  symmetricConflicts : Bool
  checkCycles : Bool
  semantic : Bool
  exclude : List String
  /-- severities that override the preset, by the names of the rules -/
  severity : Assoc Severity
  dependencies : Assoc (List String)
  conflicts : Assoc (List String)
  /-- the file that the configuration was read from -/
  source : Option Path

/-- why a configuration cannot be used -/
inductive ConfigError where
  | unknownPreset (name : String)
  | unknownRule (id : String)
  | badSeverity (id : String)
  | notFlag (key : String)
  | notTexts (key : String)
  | notTable (key : String)
  | unreadable (path : Path) (why : Unreadable)
  | malformed (path : Path)

namespace ConfigError

def message : ConfigError → String
  | unknownPreset name =>
    "unknown preset '" ++ name ++ "' (expected one of: "
      ++ Text.joinWith ", " (Preset.all.map (·.name)) ++ ")"
  | unknownRule id => "unknown rule '" ++ id ++ "' in [severity]"
  | badSeverity id =>
    "severity for '" ++ id ++ "' must be one of: " ++ Text.joinWith ", " (Severity.all.map (·.name))
  | notFlag key => key ++ " must be true or false"
  | notTexts key => key ++ " must be a list of strings"
  | notTable key => "[" ++ key ++ "] must be a table of component = [names]"
  | unreadable path why => "cannot read " ++ path.text ++ ": " ++ why.message path
  | malformed path => "invalid TOML in " ++ path.text

end ConfigError

/-- an integer with more digits than can be read or written -/
inductive LongInteger where
  /-- it cannot be read, as it has so many decimal digits -/
  | read (digits : Nat)
  /-- it cannot be written in decimal digits -/
  | write
  deriving DecidableEq, Repr

/-- what a long integer breaks; how many digits it has is known only if they were to be read -/
def LongInteger.message (e : LongInteger) : String :=
  "Exceeds the limit (" ++ toString Setting.maxDigits ++ " digits) for integer string conversion"
    ++ (match e with
      | .read digits => ": value has " ++ toString digits ++ " digits"
      | .write => "")
    ++ "; use sys.set_int_max_str_digits() to increase the limit"

/-- why settings make no configuration: what they say cannot be used, or they hold an integer that
is too long -/
inductive SettingsError where
  | config (e : ConfigError)
  | long (e : LongInteger)

namespace Config

/-- the configuration without any settings -/
def default : Config := ⟨.recommended, true, true, true, [], [], [], [], none⟩

instance : Inhabited Config := ⟨default⟩

/-! ## reading -/

/-- a truth value, which is `true` if it is not given -/
def flag (t : Assoc Setting) (key : String) : Except SettingsError Bool :=
  match t.get? key with
  | none => .ok true
  | some (.flag b) => .ok b
  | some _ => .error (.config (.notFlag key))

/-- a list of texts without the white space around them; what is blank is left out -/
def textList (key : String) (s : Setting) : Except SettingsError (List String) :=
  match s.texts? with
  | none => .error (.config (.notTexts key))
  | some texts => .ok ((texts.map Text.strip).filter (· != ""))

/-- a table of lists of texts -/
def textTable (t : Assoc Setting) (key : String) : Except SettingsError (Assoc (List String)) :=
  match t.get? key with
  | none => .ok []
  | some (.table entries) =>
    entries.mapM fun (name, targets) => return (name, ← textList (key ++ "." ++ name) targets)
  | some _ => .error (.config (.notTable key))

/-- the text of a setting without the white space around it -/
def strippedText (s : Setting) : Except SettingsError String :=
  match s.shown? with
  | none => .error (.long .write)
  | some text => .ok (Text.strip text)

/-- the preset; a blank one is the recommended one -/
def presetOf (t : Assoc Setting) : Except SettingsError Preset :=
  match t.get? "preset" with
  | none => .ok .recommended
  | some s => do
    let name ← strippedText s
    if name = "" then .ok .recommended
    else
      match Preset.ofName? name with
      | none => .error (.config (.unknownPreset name))
      | some p => .ok p

/-- the severity of one rule; capitals and white space around it do not count -/
def severityEntry (entry : String × Setting) : Except SettingsError (String × Severity) :=
  match Rule.ofId? entry.1 with
  | none => .error (.config (.unknownRule entry.1))
  | some _ => do
    let text ← strippedText entry.2
    match Severity.ofName? (Text.lower text) with
    | none => .error (.config (.badSeverity entry.1))
    | some s => .ok (entry.1, s)

/-- reads a table of settings -/
def ofSettings (t : Assoc Setting) (source : Option Path) : Except SettingsError Config := do
  let preset ← presetOf t
  let severity ← ((t.get? "severity").map Setting.entries |>.getD []).mapM severityEntry
  let symmetricConflicts ← flag t "symmetric_conflicts"
  let checkCycles ← flag t "check_cycles"
  let semantic ← flag t "semantic"
  let exclude ← textList "exclude" ((t.get? "exclude").getD (.list []))
  let dependencies ← textTable t "dependencies"
  let conflicts ← textTable t "conflicts"
  return { preset, symmetricConflicts, checkCycles, semantic, exclude, severity, dependencies,
           conflicts, source }

/-! ## using -/

/-- the severity of a rule -/
def severityOf (c : Config) (r : Rule) : Severity := Archetype.severityOf c.preset c.severity r.id

/-- the constraints that the configuration declares, by component -/
def seed (c : Config) : Assoc Constraints :=
  let withDependencies : Assoc Constraints :=
    c.dependencies.foldl
      (fun m (name, targets) =>
        m.update name ⟨[], []⟩ fun k =>
          { k with dependencies := Names.addAll k.dependencies targets })
      []
  c.conflicts.foldl
    (fun m (name, targets) =>
      m.update name ⟨[], []⟩ fun k => { k with conflicts := Names.addAll k.conflicts targets })
    withDependencies

end Config

end Archetype
