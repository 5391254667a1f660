import Archetype.Text.CodePoints
import Archetype.Text.Quoted

/-!
# JSON texts

Values that are written as JSON for other programs to read: one item a line, two blanks of
indentation a level, and ASCII only. Fields keep their order.
-/

namespace Archetype.Report

/-- a value that can be written as JSON -/
inductive Json where
  | null
  | number (n : Int)
  | text (s : String)
  | list (items : List Json)
  | object (fields : List (String × Json))
  deriving Inhabited

namespace Json

/-- a code unit of sixteen bits as an escape -/
def escapeUnit (n : Nat) : List Char := '\\' :: 'u' :: Text.hexDigits 4 n

/-- a character outside ASCII by its code units, or the unit that it stands in for -/
def escapeUnits (c : Char) : List Char :=
  match Text.halfOf? c with
  | some n => escapeUnit n
  | none =>
    if c.toNat < 0x10000 then escapeUnit c.toNat
    else
      escapeUnit (0xd800 + (c.toNat - 0x10000) / 0x400)
        ++ escapeUnit (0xdc00 + (c.toNat - 0x10000) % 0x400)

/-- a character between double quotes -/
def escapeChar (c : Char) : List Char :=
  if c = '"' then ['\\', '"']
  else if c = '\\' then ['\\', '\\']
  else if c = '\n' then ['\\', 'n']
  else if c = '\r' then ['\\', 'r']
  else if c = '\t' then ['\\', 't']
  else if c.toNat = 0x08 then ['\\', 'b']
  else if c.toNat = 0x0c then ['\\', 'f']
  else if 0x20 ≤ c.toNat && c.toNat ≤ 0x7e then [c]
  else escapeUnits c

/-- a text between double quotes -/
def quote (s : String) : List Char := '"' :: s.toList.flatMap escapeChar ++ ['"']

/-- the start of a line `depth` levels deep -/
def newline (depth : Nat) : List Char := '\n' :: List.replicate (2 * depth) ' '

mutual

/-- a value `depth` levels deep -/
def write (depth : Nat) : Json → List Char
  | .null => "null".toList
  | .number n => (toString n).toList
  | .text s => quote s
  | .list items => '[' :: writeItems depth true items
  | .object fields => '\x7b' :: writeFields depth true fields

/-- the items of a list and its end -/
def writeItems (depth : Nat) (first : Bool) : List Json → List Char
  | [] => (if first then [] else newline depth) ++ [']']
  | item :: rest =>
    (if first then [] else [',']) ++ newline (depth + 1) ++ write (depth + 1) item
      ++ writeItems depth false rest

/-- the fields of an object and its end -/
def writeFields (depth : Nat) (first : Bool) : List (String × Json) → List Char
  | [] => (if first then [] else newline depth) ++ ['\x7d']
  | (name, value) :: rest =>
    (if first then [] else [',']) ++ newline (depth + 1) ++ quote name ++ [':', ' ']
      ++ write (depth + 1) value ++ writeFields depth false rest

end

/-- the value as text -/
def render (j : Json) : String := String.ofList (j.write 0)

/-- a list of texts -/
def texts (l : List String) : Json := .list (l.map .text)

/-- a value that may be absent -/
def optional {α : Type} (f : α → Json) : Option α → Json
  | none => .null
  | some a => f a

end Json

end Archetype.Report
