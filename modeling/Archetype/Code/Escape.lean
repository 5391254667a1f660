import Archetype.Text.Ranges
import Archetype.Text.CharName
import Archetype.Text.CodePoints

/-!
# Escapes in string literals

* `unescape?`      the code points that the characters between the quotes of a text literal stand
                   for;
* `bytesLegal`     may the characters stand between the quotes of a bytes literal?

A backslash before a character that names no escape stays. An escape by number or by name that is
incomplete, or that names no character, makes the whole literal malformed.
-/

namespace Archetype.Code

open Archetype.Text (hexDigit? charNamed? CodePoints)

/-- the value of an octal digit -/
def octalDigit? (c : Char) : Option Nat := if '0' ≤ c && c ≤ '7' then some (c.toNat - 48) else none

/-- the character that a backslash and a letter stand for, if they stand for one -/
def simpleEscape? : Char → Option Char
  | '\\' => some '\\'
  | '\'' => some '\''
  | '"' => some '"'
  | 'a' => some (Char.ofNat 7)
  | 'b' => some (Char.ofNat 8)
  | 'f' => some (Char.ofNat 12)
  | 'n' => some '\n'
  | 'r' => some '\r'
  | 't' => some '\t'
  | 'v' => some (Char.ofNat 11)
  | _ => none

/-- how far an escape has been read -/
inductive EscapeState where
  /-- outside of escapes -/
  | text
  /-- behind a backslash -/
  | slash
  /-- in a number of which `left` hexadecimal digits are missing -/
  | code (left value : Nat)
  /-- in an octal number that can take `left` more digits -/
  | octal (left value : Nat)
  /-- behind the letter that announces a name -/
  | announced
  /-- in a name, read so far in reverse -/
  | name (read : List Char)

namespace EscapeState

/-- a character outside of escapes -/
def plain (c : Char) : CodePoints × EscapeState :=
  if c = '\\' then ([], slash) else ([c.toNat], text)

/-- a character behind a backslash -/
def escaped (c : Char) : CodePoints × EscapeState :=
  if c = '\n' then ([], text)
  else if c = 'x' then ([], code 2 0)
  else if c = 'u' then ([], code 4 0)
  else if c = 'U' then ([], code 8 0)
  else if c = 'N' then ([], announced)
  else
    match octalDigit? c, simpleEscape? c with
    | some d, _ => ([], octal 2 d)
    | none, some e => ([e.toNat], text)
    | none, none => (.ofChars ['\\', c], text)

/-- what one more character adds to the text, and the state behind it -/
def step : EscapeState → Char → Option (CodePoints × EscapeState)
  | text, c => some (plain c)
  | slash, c => some (escaped c)
  | code left value, c => do
    let n := 16 * value + (← hexDigit? c)
    if 1 < left then return ([], code (left - 1) n)
    else if n < 0x110000 then return ([n], text)
    else none
  | octal left value, c =>
    match octalDigit? c with
    | some d =>
      let n := 8 * value + d
      if 1 < left then some ([], octal (left - 1) n) else some ([n], text)
    | none =>
      let (more, next) := plain c
      some (value :: more, next)
  | announced, c => if c = '\x7b' then some ([], name []) else none
  | name read, c =>
    if c = '\x7d' then (charNamed? read.reverse).map fun found => ([found.toNat], text)
    else some ([], name (c :: read))

/-- what the end of the text adds; a backslash at the end stays, a number or a name must not be
open -/
def finish? : EscapeState → Option CodePoints
  | text => some []
  | slash => some (.ofChars ['\\'])
  | octal _ value => some [value]
  | _ => none

end EscapeState

/-- reads escapes from a state on -/
def unescapeFrom (s : EscapeState) : List Char → Option CodePoints
  | [] => s.finish?
  | c :: cs => do
    let (out, next) ← s.step c
    return out ++ (← unescapeFrom next cs)

/-- the code points that the characters of a literal stand for -/
def unescape? (cs : List Char) : Option CodePoints := unescapeFrom .text cs

/-- is each `x` behind a backslash followed by two hexadecimal digits? -/
def bytesEscapesComplete : List Char → Bool
  | [] => true
  | '\\' :: 'x' :: a :: b :: cs =>
    (hexDigit? a).isSome && (hexDigit? b).isSome && bytesEscapesComplete cs
  | '\\' :: c :: cs => c != 'x' && bytesEscapesComplete cs
  | _ :: cs => bytesEscapesComplete cs

/-- a bytes literal holds ASCII characters only, and its escapes by number are complete; `raw`
literals have no escapes -/
def bytesLegal (raw : Bool) (cs : List Char) : Bool :=
  cs.all (·.toNat < 128) && (raw || bytesEscapesComplete cs)

end Archetype.Code
