import Archetype.Assoc
import Archetype.Toml.Number
import Archetype.Toml.Text

/-!
# Keys and values in TOML

A key is a row of names with dots between them. A value is a text, a truth value, a number, a date
or time, an array, or a table on one line.

* `readKey`     a key;
* `readValue`   a value;
* `within`      changes the table behind a key.
-/

namespace Archetype.Toml

/-- a row of names -/
abbrev Key := List String

/-- may the character stand in a name without quotes? -/
def isBareChar (c : Char) : Bool := c.isAlphanum || c == '-' || c == '_'

/-- a name -/
def readName : Reader String := do
  let bare ← Reader.takeWhile isBareChar
  if bare.isEmpty then return String.ofList (← readLineText) else return String.ofList bare

/-- the names behind the first dot of a key, of which there are at most `n` -/
def readNames : Nat → Reader Key
  | 0 => return []
  | n + 1 => do
    skipSpaces
    if ← Reader.accept ['.'] then
      skipSpaces
      let name ← readName
      return name :: (← readNames n)
    else return []

/-- a key, and the blanks behind it -/
def readKey : Reader Key := do
  let name ← readName
  return name :: (← readNames (← get).length)

/-- Changes the table that a key leads to from `t`, by tables that are made if they are missing. If
`lists` holds, a list on the way stands for its last item. Anything else on the way refuses. -/
def within (lists : Bool) (change : Assoc Setting → Option (Assoc Setting)) :
    Key → Assoc Setting → Option (Assoc Setting)
  | [], t => change t
  | name :: key, t =>
    match t.get? name with
    | none => do return t.insert name (.table (← within lists change key []))
    | some (.table inner) => do return t.insert name (.table (← within lists change key inner))
    | some (.list items) =>
      match lists, items.getLast? with
      | true, some (.table inner) => do
        return t.insert name (.list (items.dropLast ++ [.table (← within lists change key inner)]))
      | _, _ => none
    | some _ => none

/-- a new entry; a name that is there already refuses -/
def addEntry (name : String) (value : Setting) (t : Assoc Setting) : Option (Assoc Setting) :=
  if t.contains name then none else some (t.insert name value)

/-- can nothing be added behind the value? -/
def isClosed : Setting → Bool
  | .list _ => true
  | .table _ => true
  | _ => false

/-- a key without its last name, and its last name -/
def splitKey (key : Key) : Key × String := (key.dropLast, key.getLastD "")

/-- does the key lead to one of `keys` or beyond it? -/
def leadsInto (keys : List Key) (key : Key) : Bool := keys.any (·.isPrefixOf key)

/-- the text behind blanks, ends of lines and comments; it may start within a comment -/
def behindComments (inComment : Bool) : List Char → Option (List Char)
  | [] => some []
  | c :: cs =>
    if c == '\n' then behindComments false cs
    else if inComment then (if isLegal c then behindComments true cs else none)
    else if isSpace c then behindComments false cs
    else if c == '#' then behindComments true cs
    else some (c :: cs)

/-- drops blanks, ends of lines and comments -/
def skipAll : Reader Unit := Reader.ofOption fun cs => (behindComments false cs).map ((), ·)

mutual

/-- a value; every second round goes one character further -/
def readValueFrom : Nat → Reader Setting
  | 0 => Reader.refuse
  | n + 1 => do
    match ← Reader.peek with
    | some '"' => return .text (String.ofList (← readText))
    | some '\'' => return .text (String.ofList (← readText))
    | some '[' =>
      Reader.skip 1
      skipAll
      return .list (← readItems n)
    | some '\x7b' =>
      Reader.skip 1
      skipSpaces
      if ← Reader.accept ['\x7d'] then return .table [] else return .table (← readEntries n [] [])
    | _ =>
      if ← Reader.accept "true".toList then return .flag true
      else if ← Reader.accept "false".toList then return .flag false
      else readPlain

/-- the items of an array up to its end -/
def readItems : Nat → Reader (List Setting)
  | 0 => Reader.refuse
  | n + 1 => do
    if ← Reader.accept [']'] then return []
    else
      let item ← readValueFrom n
      skipAll
      if ← Reader.accept [']'] then return [item]
      else
        Reader.expect [',']
        skipAll
        return item :: (← readItems n)

/-- the entries of a table on one line; `closed` are the keys behind which nothing can be added -/
def readEntries : Nat → List Key → Assoc Setting → Reader (Assoc Setting)
  | 0, _, _ => Reader.refuse
  | n + 1, closed, t => do
    let key ← readKey
    Reader.expect ['=']
    skipSpaces
    let value ← readValueFrom n
    if leadsInto closed key then Reader.refuse
    else
      let (path, name) := splitKey key
      match within false (addEntry name value) path t with
      | none => Reader.refuse
      | some t =>
        skipSpaces
        if ← Reader.accept ['\x7d'] then return t
        else
          Reader.expect [',']
          skipSpaces
          readEntries n (if isClosed value then key :: closed else closed) t

end

/-- a value -/
def readValue : Reader Setting := do readValueFrom (2 * (← get).length + 2)

end Archetype.Toml
