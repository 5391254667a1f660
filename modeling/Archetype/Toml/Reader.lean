/-!
# Reading TOML character by character

A `Reader` takes a value from the front of a text and leaves the rest, or says why it refuses the
text.
-/

namespace Archetype.Toml

/-- why a document is refused -/
inductive Refusal where
  /-- it does not follow the rules of the format -/
  | malformed
  /-- it holds an integer with more decimal digits than can be read -/
  | longInteger (digits : Nat)
  deriving DecidableEq, Repr

/-- takes a value from the front of a text -/
abbrev Reader (α : Type) := StateT (List Char) (Except Refusal) α

namespace Reader

/-- refuses a malformed text -/
def refuse {α : Type} : Reader α := throw .malformed

/-- takes what `take?` finds at the front of the text -/
def ofOption {α : Type} (take? : List Char → Option (α × List Char)) : Reader α := fun cs =>
  match take? cs with
  | some found => .ok found
  | none => .error .malformed

/-- the next character -/
def peek : Reader (Option Char) := fun cs => .ok (cs.head?, cs)

/-- does the text go on with `s`? -/
def sees (s : List Char) : Reader Bool := fun cs => .ok (s.isPrefixOf cs, cs)

/-- takes `n` characters -/
def skip (n : Nat) : Reader Unit := fun cs => .ok ((), cs.drop n)

/-- takes `s` if the text goes on with it -/
def accept (s : List Char) : Reader Bool := fun cs =>
  if s.isPrefixOf cs then .ok (true, cs.drop s.length) else .ok (false, cs)

/-- takes `s`, with which the text must go on -/
def expect (s : List Char) : Reader Unit := do
  if ← accept s then return () else refuse

/-- takes the characters that satisfy `p` -/
def takeWhile (p : Char → Bool) : Reader (List Char) :=
  fun cs => .ok (cs.takeWhile p, cs.dropWhile p)

/-- drops the characters that satisfy `p` -/
def skipWhile (p : Char → Bool) : Reader Unit := fun cs => .ok ((), cs.dropWhile p)

end Reader

/-- a blank within a line -/
def isSpace (c : Char) : Bool := c == ' ' || c == '\t'

/-- a blank or the end of a line -/
def isSpaceOrNewline (c : Char) : Bool := isSpace c || c == '\n'

/-- may the character stand in a text or comment on one line? Controls other than the tab may
not. -/
def isLegal (c : Char) : Bool := c == '\t' || (0x20 ≤ c.toNat && c.toNat != 0x7f)

/-- may the character stand in a text of several lines? -/
def isLegalOrNewline (c : Char) : Bool := isLegal c || c == '\n'

/-- drops blanks within a line -/
def skipSpaces : Reader Unit := Reader.skipWhile isSpace

/-- drops a comment up to the end of its line -/
def skipComment : Reader Unit := do
  if ← Reader.accept ['#'] then
    let comment ← Reader.takeWhile (· != '\n')
    if comment.all isLegal then return () else Reader.refuse

end Archetype.Toml
