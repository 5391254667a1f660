import Archetype.Text.Blank
import Archetype.Text.Case
import Archetype.Text.Ranges
import Archetype.Text.Split
import Archetype.Report.Picture.AToD
import Archetype.Report.Picture.Digits
import Archetype.Report.Picture.EToL
import Archetype.Report.Picture.MToP
import Archetype.Report.Picture.QToT
import Archetype.Report.Picture.UToZ

/-!
# Pictures by name

A name between colons, such as `:smile:`, stands for a picture. A name can be written in capitals,
and it can end in `-emoji` or `-text`, which asks for the coloured or the plain form of the picture.
What is no name stays as it is, with both its colons.

* `pictureNamed?`   the picture with a name;
* `pictured`        a text with pictures for their names.
-/

namespace Archetype.Report

namespace Picture

/-- the character behind a picture that asks for its coloured form -/
def coloured : Char := Char.ofNat 0xFE0F

/-- the tones of skin and their characters -/
def tones : List (String × Char) :=
  [("light", Char.ofNat 0x1F3FB), ("medium-light", Char.ofNat 0x1F3FC),
    ("medium", Char.ofNat 0x1F3FD), ("medium-dark", Char.ofNat 0x1F3FE),
    ("dark", Char.ofNat 0x1F3FF)]

/-- a picture in a tone, which follows its first character and stands in for a request for colour
there -/
def inTone (tone : Char) : List Char → List Char
  | [] => []
  | first :: rest => first :: tone :: (if rest.head? = some coloured then rest.tail else rest)

/-- a name and the characters of its picture; a tilde behind the name says that the picture is also
there in each tone of skin, with the tone in its name -/
def readEntry (entry : List Char) : List (String × List Char) :=
  let fields := Text.splitChars ' ' (Text.stripLeftChars entry)
  let written := fields.headD []
  let picture := fields.tail.map fun code => Char.ofNat (Text.hexValue code)
  if written.getLast? = some '~' then
    let name := String.ofList written.dropLast
    (name, picture) :: tones.map fun (tone, c) =>
      (name ++ "_" ++ tone ++ "_skin_tone", inTone c picture)
  else [(String.ofList written, picture)]

/-- all names and their pictures -/
def all : List (String × List Char) :=
  [namesDigits, namesAToD, namesEToL, namesMToP, namesQToT, namesUToZ].flatMap fun names =>
    (Text.splitChars '|' names.toList).flatMap readEntry

/-- the character behind a picture that asks for its plain form -/
def plain : Char := Char.ofNat 0xFE0E

/-- a name without its ending, and the form that the ending asks for -/
def nameAndForm (written : List Char) : List Char × List Char :=
  if "-emoji".toList.isSuffixOf written then (written.take (written.length - 6), [coloured])
  else if "-text".toList.isSuffixOf written then (written.take (written.length - 5), [plain])
  else (written, [])

end Picture

/-- the picture with a name, in the form that the name asks for -/
def pictureNamed? (written : List Char) : Option (List Char) :=
  let (name, form) := Picture.nameAndForm written
  (Picture.all.lookup (Text.lower (String.ofList name))).map (· ++ form)

/-- puts pictures for names between colons, from left to right; a name has no blanks, and each round
takes at least one character -/
def picturedFrom : (fuel : Nat) → List Char → List Char
  | 0, cs => cs
  | _, [] => []
  | fuel + 1, c :: cs =>
    if c = ':' then
      let name := cs.takeWhile fun c => c != ':' && !Text.isBlank c
      match cs.drop name.length with
      | ':' :: rest => (pictureNamed? name).getD (':' :: name ++ [':']) ++ picturedFrom fuel rest
      | _ => ':' :: picturedFrom fuel cs
    else c :: picturedFrom fuel cs

/-- the text with pictures for their names -/
def pictured (cs : List Char) : List Char := picturedFrom cs.length cs

end Archetype.Report
