/-!
# White space and its removal

* `isBlank`      the characters that count as white space in every script;
* `strip`        a text without the white space at both ends;
* `stripRight`   a text without the white space at its right end.
-/

namespace Archetype.Text

/-- white space of any script: the controls TAB to CR and FS to US, the blanks, NEL, and the line
and paragraph separators; the zero width space is not one of them -/
def isBlank (c : Char) : Bool :=
  let n := c.toNat
  (9 ≤ n && n ≤ 13) || (28 ≤ n && n ≤ 32) || n == 0x85 || n == 0xA0 || n == 0x1680
    || (0x2000 ≤ n && n ≤ 0x200A) || n == 0x2028 || n == 0x2029 || n == 0x202F || n == 0x205F
    || n == 0x3000

/-- `cs` from its first character that is not white space -/
def stripLeftChars (cs : List Char) : List Char := cs.dropWhile isBlank

/-- `cs` up to its last character that is not white space -/
def stripRightChars (cs : List Char) : List Char := (cs.reverse.dropWhile isBlank).reverse

/-- the text between the white space at its two ends -/
def strip (s : String) : String :=
  String.ofList (stripRightChars (stripLeftChars s.toList))

/-- the text up to the white space at its right end -/
def stripRight (s : String) : String := String.ofList (stripRightChars s.toList)

end Archetype.Text
