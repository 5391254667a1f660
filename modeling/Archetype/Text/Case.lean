import Archetype.Text.Case.Tables

/-!
# Capital and small letters

* `lower`   a text with its capitals made small;
* `upper`   a text with its small letters made capital.

A letter may have several characters as its other form. The capital sigma is the only one whose
small form depends on its place: at the end of a word it is another one.
-/

namespace Archetype.Text

/-- the other form of a code point in a list of runs -/
def inRuns? (runs : Array TableEntry) (n : Nat) : Option Nat :=
  (runs.find? fun e => e.first ≤ n && n ≤ e.last && (n - e.first) % e.values.getD 1 1 == 0).map
    fun e => e.values.headD 0 + (n - e.first)

/-- the small form of a character other than the capital sigma. The capital I with a dot keeps its
dot as a combining mark. -/
def lowerChar (c : Char) : List Char :=
  if c.toNat < 0x80 then [c.toLower]
  else if c.toNat = 0x130 then ['i', Char.ofNat 0x307]
  else [((inRuns? capitalRuns c.toNat).map Char.ofNat).getD c]

/-- is it a letter with a case? -/
def isCased (c : Char) : Bool := inRanges casedRanges c.toNat

/-- is it passed over in the search for the letters next to a sigma? -/
def isCaseIgnored (c : Char) : Bool := inRanges ignoredRanges c.toNat

/-- is the first character that is not passed over a letter with a case? -/
def meetsCased (cs : List Char) : Bool := (cs.dropWhile isCaseIgnored).head?.any isCased

/-- the characters in their small form; `before` are those in front of them in reverse -/
def lowerFrom (before : List Char) : List Char → List Char
  | [] => []
  | c :: cs =>
    let small :=
      if c = 'Σ' then [if meetsCased before && !meetsCased cs then 'ς' else 'σ'] else lowerChar c
    small ++ lowerFrom (c :: before) cs

/-- the text with its capitals made small -/
def lower (s : String) : String := String.ofList (lowerFrom [] s.toList)

/-- the capital form of a character -/
def upperChar (c : Char) : List Char :=
  if c.toNat < 0x80 then [c.toUpper]
  else match entryOf? longCapitals c.toNat with
    | some e => e.values.map Char.ofNat
    | none => [((inRuns? smallRuns c.toNat).map Char.ofNat).getD c]

/-- the text with its small letters made capital -/
def upper (s : String) : String := String.ofList (s.toList.flatMap upperChar)

end Archetype.Text
