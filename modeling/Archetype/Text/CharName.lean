import Archetype.Text.Ranges
import Archetype.Text.Split
import Archetype.Text.CharName.Aliases
import Archetype.Text.CharName.Alphabets
import Archetype.Text.CharName.Ancient
import Archetype.Text.CharName.Ideographs
import Archetype.Text.CharName.Pictures
import Archetype.Text.CharName.Signs
import Archetype.Text.CharName.Syllables

/-!
# Characters by name

`charNamed?` finds the character with a name of the character standard. Names can be written in any
case of letters, except those of unified ideographs and of Hangul syllables, which are made by rule.

* `searchNames`       looks a name up in a table text;
* `ideographNamed?`   names of unified ideographs, which end in the code point;
* `labelled?`         other names that end in the code point;
* `hangulNamed?`      names of Hangul syllables, which are spelled out.
-/

namespace Archetype.Text

/-- the number that digits write -/
def decimalValue (digits : List Char) : Nat := digits.foldl (fun n c => 10 * n + (c.toNat - 48)) 0

/-- the words that the tables write as one or two small letters -/
def frequentWords : List (String × String) :=
  [("a", "ARROW"), ("ac", "ACUTE"), ("an", "ANUSVARA"), ("ar", "ARROWHEAD"), ("as", "ASTERISK"),
    ("b", "ABOVE"), ("br", "BRACKET"), ("c", "CAPITAL"), ("ca", "CANDRABINDU"),
    ("cc", "CIRCUMFLEX"), ("ci", "CIRCLE"), ("co", "COMBINING"), ("cr", "CIRCLED"), ("d", "DOUBLE"),
    ("de", "DESCENDER"), ("dg", "DIGIT"), ("di", "DIAERESIS"), ("dn", "DOWNWARDS"), ("do", "DOT"),
    ("dw", "DOWN"), ("e", "BELOW"), ("ei", "EIGHT"), ("eq", "EQUAL"), ("f", "FORM"), ("fi", "FIVE"),
    ("fo", "FOUR"), ("g", "RIGHTWARDS"), ("gr", "GREATER-THAN"), ("h", "THREE"), ("ha", "HALF"),
    ("he", "HEAVY"), ("ho", "HOOK"), ("hr", "HARPOON"), ("hu", "HUNDRED"), ("i", "SIGN"),
    ("in", "INDEX"), ("iv", "INVERTED"), ("j", "AND"), ("k", "STROKE"), ("l", "LETTER"),
    ("le", "LESS-THAN"), ("li", "LIGHT"), ("lo", "LOWER"), ("m", "LEFTWARDS"), ("ma", "MAKSURA"),
    ("md", "MEDIUM"), ("me", "MEDIAL"), ("mi", "MIDDLE"), ("mm", "MEEM"), ("mr", "MARK"),
    ("n", "FINAL"), ("ni", "NINE"), ("o", "ISOLATED"), ("on", "ONE"), ("or", "ORNAMENT"),
    ("p", "INITIAL"), ("pa", "PARENTHESIS"), ("pe", "PERISPOMENI"), ("pl", "PLUS"),
    ("po", "POINTING"), ("pr", "PROSGEGRAMMENI"), ("pu", "PUNCTUATION"), ("q", "TRIANGLE-HEADED"),
    ("r", "RIGHT"), ("re", "RETROFLEX"), ("ri", "RIGHT-POINTING"), ("ro", "ROTATED"),
    ("rv", "REVERSED"), ("s", "SMALL"), ("se", "SEVEN"), ("si", "SINGLE"), ("sq", "SQUARE"),
    ("t", "LEFT"), ("th", "THOUSAND"), ("ti", "TILDE"), ("tm", "TIMES"), ("tr", "TRIANGLE"),
    ("tu", "TURNED"), ("tw", "TWO"), ("u", "BLACK"), ("up", "UPWARDS"), ("v", "VERTICAL"),
    ("vo", "VOCALIC"), ("vw", "VOWEL"), ("w", "WITH"), ("we", "WEST-CREE"), ("x", "WHITE"),
    ("y", "SYMBOL"), ("yp", "YPOGEGRAMMENI"), ("z", "HORIZONTAL")]

/-- a word of a table, spelled out -/
def tableWord (word : List Char) : List Char :=
  if word.all Char.isLower then
    ((frequentWords.lookup (String.ofList word)).map String.toList).getD word
  else word

/-- the code point and the words of an entry, and the number of names behind it that count on;
`next` is the code point and `before` are the words that an entry can leave out -/
def readNameEntry (next : Nat) (before : List (List Char)) (entry : List Char) :
    Nat × List (List Char) × Nat :=
  let (code, tail) :=
    match splitChars ':' entry with
    | [digits, tail] => (hexValue digits, tail)
    | _ => (next, entry)
  let (written, more) :=
    match splitChars '+' tail with
    | [written, digits] => (written, decimalValue digits)
    | _ => (tail, 0)
  match written with
  | [] => (code, before, more)
  | [d] => (code, before.take (d.toNat - 48), more)
  | d :: rest => (code, before.take (d.toNat - 48) ++ (splitChars ' ' rest).map tableWord, more)

/-- a word with the number at its end counted on by `k`, in as many digits as before -/
def countOn (k : Nat) (word : List Char) : List Char :=
  let digits := (word.reverse.takeWhile Char.isDigit).reverse
  let counted := (toString (decimalValue digits + k)).toList
  word.take (word.length - digits.length) ++ List.replicate (digits.length - counted.length) '0'
    ++ counted

/-- the words of the `k`-th name that counts on from an entry -/
def countedWords (words : List (List Char)) (k : Nat) : List (List Char) :=
  if k = 0 then words else words.dropLast ++ (words.getLast?.map (countOn k)).toList

/-- a search in a table: the code point of the next entry, the words of the last one, the characters
of the current one in reverse, and what was found -/
structure NameSearch where
  next : Nat
  before : List (List Char)
  entry : List Char
  found : Option Nat

/-- an entry is complete -/
def NameSearch.close (target : List (List Char)) (s : NameSearch) : NameSearch :=
  let (code, words, more) := readNameEntry s.next s.before s.entry.reverse
  let hit := (List.range (more + 1)).find? fun k => countedWords words k = target
  ⟨code + more + 1, countedWords words more, [], (hit.map (code + ·)).or s.found⟩

/-- one more character of the table; ends of lines and the blanks before an entry do not count -/
def NameSearch.step (target : List (List Char)) (s : NameSearch) (c : Char) : NameSearch :=
  if s.found.isSome || c = '\n' || (c = ' ' && s.entry.isEmpty) then s
  else if c = '|' then s.close target
  else { s with entry := c :: s.entry }

/-- the code point that a table gives to the name with the words `target` -/
def searchNames (target : List (List Char)) (table : String) : Option Nat :=
  let s := table.foldl (NameSearch.step target) ⟨0, [], [], none⟩
  if s.found.isSome then s.found else (s.close target).found

/-- the code points of unified ideographs, whose names are a label and the code point -/
def unifiedIdeographs : Array (Nat × Nat) := readRanges
  "3400-4DBF 4E00-9FFF 20000-2A6DF 2A700-2B738 2B740-2B81D 2B820-2CEA1 2CEB0-2EBE0 30000-3134A"

/-- a hexadecimal digit that is no small letter -/
def isCapitalHex (c : Char) : Bool := ('0' ≤ c && c ≤ '9') || ('A' ≤ c && c ≤ 'F')

/-- the code point of a unified ideograph, whose name is written in capitals with four or five
digits -/
def ideographNamed? (name : List Char) : Option Nat :=
  let label := "CJK UNIFIED IDEOGRAPH-".toList
  if label.isPrefixOf name then
    let digits := name.drop label.length
    let code := hexValue digits
    if (digits.length = 4 || digits.length = 5) && digits.all isCapitalHex
        && inRanges unifiedIdeographs code then some code
    else none
  else none

/-- other names that are a label and the code point, with the code points that have them -/
def labels : List (String × String) :=
  [("CJK COMPATIBILITY IDEOGRAPH-", "F900-FA6D FA70-FAD9 2F800-2FA1D"),
    ("KHITAN SMALL SCRIPT CHARACTER-", "18B00-18CD5"),
    ("NUSHU CHARACTER-", "1B170-1B2FB")]

/-- the code point of a name that ends in it, written in capitals and without a zero in front -/
def labelled? (name : List Char) : Option Nat :=
  labels.findSome? fun (label, ranges) =>
    if label.toList.isPrefixOf name then
      let digits := name.drop label.length
      let code := hexValue digits
      if digits.all isCapitalHex && digits.head? != some '0'
          && inRanges (readRanges ranges) code then
        some code
      else none
    else none

/-- the leading consonants of Hangul syllables -/
def hangulLeads : List String :=
  ["G", "GG", "N", "D", "DD", "R", "M", "B", "BB", "S", "SS", "", "J", "JJ", "C", "K",
    "T", "P", "H"]

/-- the vowels of Hangul syllables -/
def hangulVowels : List String :=
  ["A", "AE", "YA", "YAE", "EO", "E", "YEO", "YE", "O", "WA", "WAE", "OE", "YO", "U", "WEO", "WE",
    "WI", "YU", "EU", "YI", "I"]

/-- the trailing consonants of Hangul syllables -/
def hangulTails : List String :=
  ["", "G", "GG", "GS", "N", "NJ", "NH", "D", "L", "LG", "LM", "LB", "LS", "LT", "LP", "LH",
    "M", "B", "BS", "S", "SS", "NG", "J", "C", "K", "T", "P", "H"]

/-- the longest of `parts` at the start of `cs`: its place among them and what follows it -/
def longestPart (parts : List String) (cs : List Char) : Option (Nat × List Char) :=
  (parts.zipIdx.foldl (fun best part =>
    if part.1.toList.isPrefixOf cs && (best.all fun b => b.1 < part.1.length) then
      some (part.1.length, part.2)
    else best) none).map fun best => (best.2, cs.drop best.1)

/-- the code point of a spelled out Hangul syllable -/
def hangulNamed? (name : List Char) : Option Nat :=
  let label := "HANGUL SYLLABLE ".toList
  if label.isPrefixOf name then do
    let (lead, rest) ← longestPart hangulLeads (name.drop label.length)
    let (vowel, rest) ← longestPart hangulVowels rest
    let (tail, rest) ← longestPart hangulTails rest
    if rest.isEmpty then some (0xAC00 + (lead * 21 + vowel) * 28 + tail) else none
  else none

/-- the character with the given name -/
def charNamed? (name : List Char) : Option Char :=
  let capitals := name.map Char.toUpper
  let words := splitChars ' ' capitals
  let tables := [alphabetsNames, syllablesNames, signsNames, ideographsNames, ancientNames,
    picturesNames, aliasNames]
  ((hangulNamed? name).or ((ideographNamed? name).or ((labelled? capitals).or
    (tables.findSome? (searchNames words))))).map Char.ofNat

end Archetype.Text
