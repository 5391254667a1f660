/-!
# Patterns for names

In a pattern a star stands for any text, a question mark for any character, and a set in brackets
for one character of it, or for one character not of it if the set starts with an exclamation mark.
A closing bracket that comes first in a set is a member of it, two characters with a hyphen between
them are a range, and a bracket that is never closed stands for itself. A range whose ends are in
the wrong order is left out of its set as if it were not written, and what stands behind it may then
be the start of the set.

* `readGlob`     the parts of a pattern;
* `matchRests`   which rests of a text have the form of the parts?
* `globMatch`    does a text match a pattern?
-/

namespace Archetype.Text

/-- what a part of a pattern stands for -/
inductive GlobPart where
  | literal (c : Char)
  | anyChar
  | anyText
  /-- one character of the ranges, or not of them -/
  | oneOf (negated : Bool) (ranges : List (Char × Char))
  deriving DecidableEq, Repr

/-! ## reading a pattern -/

/-- a member of a set as it is written -/
inductive SetItem where
  | char (c : Char)
  | range (first last : Char)
  deriving DecidableEq, Repr

namespace SetItem

/-- is it anything but a range whose ends are in the wrong order? -/
def isNonempty : SetItem → Bool
  | char _ => true
  | range first last => first ≤ last

/-- the first and the last character that a member stands for -/
def ends : SetItem → Char × Char
  | char c => (c, c)
  | range first last => (first, last)

end SetItem

/-- the members of a set, ranges in the wrong order left out -/
def setItems : List Char → List SetItem
  | a :: '-' :: b :: rest =>
    if (SetItem.range a b).isNonempty then .range a b :: setItems rest else setItems rest
  | a :: rest => .char a :: setItems rest
  | [] => []

/-- the set with the given members: an exclamation mark in front negates it, and if a range starts
with that mark, its hyphen and its end are members -/
def oneOfItems : List SetItem → GlobPart
  | .char '!' :: items => .oneOf true (items.map SetItem.ends)
  | .range '!' last :: items => .oneOf true (('-', '-') :: (last, last) :: items.map SetItem.ends)
  | items => .oneOf false (items.map SetItem.ends)

/-- the characters of a set up to its closing bracket, and what follows -/
def setBody? : List Char → Option (List Char × List Char)
  | [] => none
  | c :: rest => if c = ']' then some ([], rest) else (setBody? rest).map fun (body, rest) =>
    (c :: body, rest)

/-- the characters of a set from its start, where a closing bracket is a member, and what follows -/
def setStart? : List Char → Option (List Char × List Char)
  | ']' :: rest => (setBody? rest).map fun (body, rest) => (']' :: body, rest)
  | cs => setBody? cs

/-- the set behind an opening bracket, if it is closed -/
def readSet? : List Char → Option (GlobPart × List Char)
  | '!' :: cs =>
    (setStart? cs).map fun (body, rest) => (oneOfItems (.char '!' :: setItems body), rest)
  | cs => (setStart? cs).map fun (body, rest) => (oneOfItems (setItems body), rest)

/-- the parts of a pattern, of which each takes at least one of the `n` characters -/
def readGlobFrom : Nat → List Char → List GlobPart
  | 0, _ => []
  | _, [] => []
  | n + 1, '*' :: rest => .anyText :: readGlobFrom n rest
  | n + 1, '?' :: rest => .anyChar :: readGlobFrom n rest
  | n + 1, '[' :: rest =>
    match readSet? rest with
    | some (part, rest) => part :: readGlobFrom n rest
    | none => .literal '[' :: readGlobFrom n rest
  | n + 1, c :: rest => .literal c :: readGlobFrom n rest

/-- the parts of a pattern -/
def readGlob (pattern : List Char) : List GlobPart := readGlobFrom pattern.length pattern

/-! ## matching -/

/-- can the part stand for the one character? -/
def GlobPart.admits : GlobPart → Char → Bool
  | literal l, c => l == c
  | anyChar, _ | anyText, _ => true
  | oneOf negated ranges, c => (ranges.any fun r => r.1 ≤ c && c ≤ r.2) != negated

/-- at each place, does the truth value there or a later one hold? -/
def holdsLater : List Bool → List Bool
  | [] => []
  | b :: bs =>
    let later := holdsLater bs
    (b || later.headD false) :: later

/-- for each rest of a text, from the whole of it to nothing: does it have the form of the parts?
Each part is looked at once for each character, so a pattern with many stars is no slower than
others. -/
def matchRests : List GlobPart → List Char → List Bool
  | [], cs => cs.map (fun _ => false) ++ [true]
  | .anyText :: parts, cs => holdsLater (matchRests parts cs)
  | part :: parts, cs =>
    List.zipWith (fun c rest => part.admits c && rest) cs (matchRests parts cs).tail ++ [false]

/-- does a text match a pattern? -/
def globMatch (pattern text : String) : Bool :=
  (matchRests (readGlob pattern.toList) text.toList).headD false

end Archetype.Text
