/-!
# Code points

An escape in a string constant can name a code point that is no character: half of a surrogate pair.
The value of a constant is therefore a row of code points, and two constants are equal if their code
points are. In a text a private character of the last plane stands in for a half; where texts are
written by code units, the half is written.

* `CodePoints.text`   the text of code points;
* `halfOf?`           the half that a character stands in for.
-/

namespace Archetype.Text

/-- a row of code points, which may hold halves of surrogate pairs -/
abbrev CodePoints := List Nat

/-- is the code point half of a surrogate pair? -/
def isHalf (n : Nat) : Bool := 0xD800 ≤ n && n < 0xE000

/-- the first of the characters that stand in for halves -/
def standInBase : Nat := 0x10F000

/-- the character of a code point, or the one that stands in for it -/
def charOfCode (n : Nat) : Char := Char.ofNat (if isHalf n then standInBase + (n - 0xD800) else n)

/-- the half of a surrogate pair that a character stands in for -/
def halfOf? (c : Char) : Option Nat :=
  let n := c.toNat - standInBase + 0xD800
  if standInBase ≤ c.toNat && isHalf n then some n else none

namespace CodePoints

/-- the code points of characters -/
def ofChars (cs : List Char) : CodePoints := cs.map Char.toNat

/-- the text of code points -/
def text (codes : CodePoints) : String := String.ofList (codes.map charOfCode)

end CodePoints

end Archetype.Text
