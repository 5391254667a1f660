import Archetype.Text.Ranges
import Archetype.Toml.Reader

/-!
# Texts in TOML

A text stands in single quotes, as it is, or in double quotes, with escapes; three quotes at either
end allow it to go over several lines. The end of a line right behind three quotes does not count,
and up to two more quotes may stand before the last three.
-/

namespace Archetype.Toml

/-- the number that hexadecimal digits write -/
def hexValue? (digits : List Char) : Option Nat :=
  digits.foldl (fun n d => do return 16 * (← n) + (← Text.hexDigit? d)) (some 0)

/-- the character that an escape of `n` hexadecimal digits names -/
def hexChar? (n : Nat) (cs : List Char) : Option (Char × List Char) := do
  let digits := cs.take n
  let code ← hexValue? digits
  if digits.length = n && code.isValidChar then return (Char.ofNat code, cs.drop n) else none

/-- the character that a letter behind a backslash stands for -/
def escaped? : Char → Option Char
  | 'b' => some (Char.ofNat 0x08)
  | 't' => some '\t'
  | 'n' => some '\n'
  | 'f' => some (Char.ofNat 0x0c)
  | 'r' => some '\r'
  | '"' => some '"'
  | '\\' => some '\\'
  | _ => none

/-- drops the white space behind a backslash that ends a line -/
def continueLine? (cs : List Char) : Option (List Char) :=
  match cs.dropWhile isSpace with
  | '\n' :: rest => some (rest.dropWhile isSpaceOrNewline)
  | _ => none

/-- the rest of a text in double quotes, one quote or three at its end, and what follows it; each
round takes at least one of the `n` characters -/
def basicRest (multiline : Bool) : Nat → List Char → Option (List Char × List Char)
  | 0, _ => none
  | _, [] => none
  | n + 1, '"' :: rest =>
    if !multiline then some ([], rest)
    else if ['"', '"'].isPrefixOf rest then some ([], rest.drop 2)
    else (basicRest multiline n rest).map fun (s, rest) => ('"' :: s, rest)
  | n + 1, '\\' :: c :: rest => do
    if multiline && isSpaceOrNewline c then basicRest multiline n (← continueLine? (c :: rest))
    else
      let (c, rest) ←
        if c = 'u' then hexChar? 4 rest
        else if c = 'U' then hexChar? 8 rest
        else do pure ((← escaped? c), rest)
      let (s, rest) ← basicRest multiline n rest
      return (c :: s, rest)
  | n + 1, c :: rest =>
    if c != '\\' && (isLegal c || (multiline && c == '\n')) then
      (basicRest multiline n rest).map fun (s, rest) => (c :: s, rest)
    else none

/-- the rest of a text in double quotes -/
def readBasic (multiline : Bool) : Reader (List Char) :=
  Reader.ofOption fun cs => basicRest multiline (cs.length + 1) cs

/-- the rest of a text in single quotes on one line -/
def readLiteral : Reader (List Char) := do
  let s ← Reader.takeWhile (· != '\'')
  Reader.expect ['\'']
  if s.all isLegal then return s else Reader.refuse

/-- the text up to three single quotes, and what follows them -/
def untilThree : List Char → Option (List Char × List Char)
  | [] => none
  | c :: rest =>
    if ['\'', '\'', '\''].isPrefixOf (c :: rest) then some ([], rest.drop 2)
    else (untilThree rest).map fun (s, rest) => (c :: s, rest)

/-- the rest of a text in single quotes over several lines -/
def readLiterals : Reader (List Char) := do
  let s ← Reader.ofOption untilThree
  if s.all isLegalOrNewline then return s else Reader.refuse

/-- up to two quotes in front of the three that end a text -/
def moreQuotes (quote : Char) : Reader (List Char) := do
  if ← Reader.accept [quote, quote] then return [quote, quote]
  else if ← Reader.accept [quote] then return [quote]
  else return []

/-- a text over several lines, behind its first three quotes -/
def readMultiline (quote : Char) : Reader (List Char) := do
  let _ ← Reader.accept ['\n']
  let s ← if quote = '"' then readBasic true else readLiterals
  return s ++ (← moreQuotes quote)

/-- a text on one line -/
def readLineText : Reader (List Char) := do
  if ← Reader.accept ['"'] then readBasic false
  else
    Reader.expect ['\'']
    readLiteral

/-- a text -/
def readText : Reader (List Char) := do
  if ← Reader.accept ['"', '"', '"'] then readMultiline '"'
  else if ← Reader.accept ['\'', '\'', '\''] then readMultiline '\''
  else readLineText

end Archetype.Toml
