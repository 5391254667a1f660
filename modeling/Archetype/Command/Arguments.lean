import Archetype.Text.Quoted
import Archetype.Text.Similarity
import Archetype.Text.Split

/-!
# Arguments

The arguments of a command are options and words. An option begins with two hyphens, or with one if
its name is a single letter; several letters can stand behind one hyphen. The value of an option is
the next argument, whatever it looks like, or stands behind an equals sign; behind a letter it
follows directly. After two hyphens alone there are only words.

* `Switch`             an option that a command takes;
* `UsageError`         why arguments cannot be understood;
* `readArguments`      tells options from words.
-/

namespace Archetype.Command

/-- an option that a command takes -/
structure Switch where
  /-- its names, with their hyphens -/
  names : List String
  /-- what its value is called, if it has one -/
  value : Option String
  /-- what it is for -/
  purpose : String
  deriving DecidableEq

/-- why a value cannot be used -/
inductive BadValue where
  | notOneOf (value : String) (choices : List String)
  | noFile (path : String)
  | fileIsDirectory (path : String)
  | directoryIsFile (path : String)
  | noDirectory (path : String)
  deriving DecidableEq

def BadValue.reason : BadValue → String
  | notOneOf value choices =>
    Text.quoted value ++ " is not one of " ++ Text.joinWith ", " (choices.map Text.quoted) ++ "."
  | noFile path => "File " ++ Text.quoted path ++ " does not exist."
  | fileIsDirectory path => "File " ++ Text.quoted path ++ " is a directory."
  | directoryIsFile path => "Directory " ++ Text.quoted path ++ " is a file."
  | noDirectory path => "Directory '" ++ path ++ "' does not exist."

/-- why arguments cannot be understood -/
inductive UsageError where
  /-- there are options with names that are close -/
  | noSuchOption (name : String) (close : List String)
  | needsValue (name : String)
  | takesNoValue (name : String)
  /-- the option is given as it is named in the message -/
  | badValue (option : String) (bad : BadValue)
  | missingCommand
  /-- there are commands with names that are close -/
  | noSuchCommand (name : String) (close : List String)
  | missingWord (name : String)
  | extraWords (words : List String)
  deriving DecidableEq

/-- names that could have been meant -/
def suggestion : List String → String
  | [] => ""
  | [name] => " Did you mean " ++ Text.quoted name ++ "?"
  | names => " (Did you mean one of: " ++ Text.joinWith ", " (names.map Text.quoted) ++ "?)"

def UsageError.message : UsageError → String
  | noSuchOption name close => "No such option " ++ Text.quoted name ++ "." ++ suggestion close
  | needsValue name => "Option " ++ Text.quoted name ++ " requires an argument."
  | takesNoValue name => "Option " ++ Text.quoted name ++ " does not take a value."
  | badValue option bad => "Invalid value for " ++ option ++ ": " ++ bad.reason
  | missingCommand => "Missing command."
  | noSuchCommand name close => "No such command " ++ Text.quoted name ++ "." ++ suggestion close
  | missingWord name => "Missing argument " ++ Text.quoted name ++ "."
  | extraWords words =>
    "Got unexpected extra argument" ++ (if words.length = 1 then "" else "s")
      ++ " (" ++ Text.joinWith " " words ++ ")"

/-- an option that was given, with its value if it has one -/
structure Given where
  option : Switch
  value : Option String
  deriving DecidableEq

/-- options and words in the order in which they were given -/
structure Arguments where
  options : List Given
  words : List String
  deriving DecidableEq

/-- what an argument that is an option asks for: options are complete, or the last one needs the
next argument -/
inductive Asked where
  | complete (given : List Given)
  | wanting (given : List Given) (option : Switch) (name : String)

/-- the option of a name -/
def option? (options : List Switch) (name : String) : Option Switch :=
  options.find? (·.names.contains name)

/-- reads the letters behind one hyphen -/
def readLetters (options : List Switch) (given : List Given) : List Char → Except UsageError Asked
  | [] => .ok (.complete given)
  | c :: cs =>
    let name := String.ofList ['-', c]
    match option? options name with
    | none => .error (.noSuchOption name [])
    | some option =>
      if option.value.isNone then readLetters options (given ++ [⟨option, none⟩]) cs
      else if cs.isEmpty then .ok (.wanting given option name)
      else .ok (.complete (given ++ [⟨option, some (String.ofList cs)⟩]))

/-- the long names of options -/
def longNames (options : List Switch) : List String :=
  (options.flatMap (·.names)).filter (Text.beginsWith "--")

/-- reads an argument that is an option -/
def readOption (options : List Switch) (arg : String) : Except UsageError Asked :=
  let cs := arg.toList
  let name := String.ofList (cs.takeWhile (· != '='))
  let explicit : Option String :=
    match cs.dropWhile (· != '=') with
    | [] => none
    | _ :: value => some (String.ofList value)
  match (if Text.beginsWith "--" name then option? options name else none) with
  | none =>
    if Text.beginsWith "--" arg then .error
      (.noSuchOption name (Text.closest name (longNames options)))
    else readLetters options [] (cs.drop 1)
  | some option =>
    match option.value.isSome, explicit with
    | true, some value => .ok (.complete [⟨option, some value⟩])
    | true, none => .ok (.wanting [] option name)
    | false, some _ => .error (.takesNoValue name)
    | false, none => .ok (.complete [⟨option, none⟩])

/-- is the argument an option? A hyphen alone is a word. -/
def isOption (arg : String) : Bool := Text.beginsWith "-" arg && arg != "-"

/-- options in front of what was read -/
def Arguments.after (given : List Given) (a : Arguments) : Arguments :=
  { a with options := given ++ a.options }

/-- Tells options from words. If they cannot be `mixed` there are only words from the first word
on. -/
def readArguments (options : List Switch) (mixed : Bool) : List String → Except UsageError Arguments
  | [] => .ok ⟨[], []⟩
  | arg :: rest =>
    if arg = "--" then .ok ⟨[], rest⟩
    else if isOption arg then
      match readOption options arg with
      | .error e => .error e
      | .ok (.complete given) => (readArguments options mixed rest).map (·.after given)
      | .ok (.wanting given option name) =>
        match rest with
        | [] => .error (.needsValue name)
        | value :: rest =>
          (readArguments options mixed rest).map (·.after (given ++ [⟨option, some value⟩]))
    else if mixed then (readArguments options mixed rest).map fun a =>
      { a with words := arg :: a.words }
    else .ok ⟨[], arg :: rest⟩

namespace Arguments

/-- was the option given? -/
def has (a : Arguments) (option : Switch) : Bool := a.options.any (·.option = option)

/-- the value of an option: the one given last counts -/
def value? (a : Arguments) (option : Switch) : Option String :=
  ((a.options.filter (·.option = option)).getLast?).bind (·.value)

/-- the options in the order in which they were first given -/
def order (a : Arguments) : List Switch :=
  a.options.foldl (fun seen g => if seen.contains g.option then seen else seen ++ [g.option]) []

end Arguments

end Archetype.Command
