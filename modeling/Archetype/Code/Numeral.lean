import Archetype.Code.Position

/-!
# Number literals

`numeral? cs` reads the number literal at the start of `cs`: how many characters it has and whether
it is imaginary. It is `none` if there is a malformed one, such as `0x`, `1__0`, `012` or `1abc`.
-/

namespace Archetype.Code

namespace Numeral

/-- a number with its length so far and the characters behind it -/
structure Scan where
  length : Nat
  rest : List Char

/-- the digits at the start of a text, single underscores allowed between them; `none` if an
underscore is not followed by a digit -/
def digits (isDigit : Char → Bool) : Nat → List Char → Option Scan
  | n, '_' :: c :: cs => if isDigit c then digits isDigit (n + 2) cs else none
  | _, ['_'] => none
  | n, c :: cs => if isDigit c then digits isDigit (n + 1) cs else some ⟨n, c :: cs⟩
  | n, [] => some ⟨n, []⟩

/-- a decimal digit -/
def isDecimal (c : Char) : Bool := c.isDigit

/-- a hexadecimal digit -/
def isHex (c : Char) : Bool :=
  c.isDigit || ('a' ≤ c && c ≤ 'f') || ('A' ≤ c && c ≤ 'F')

/-- an octal digit -/
def isOctal (c : Char) : Bool := '0' ≤ c && c ≤ '7'

/-- a binary digit -/
def isBinary (c : Char) : Bool := c = '0' || c = '1'

/-- a character that an identifier can hold, so far as its first byte tells -/
def joinsWord (c : Char) : Bool := c.isAlphanum || c = '_' || 128 ≤ c.toNat

/-- does a text that starts behind a number let the number end there? A letter may follow only if it
begins one of the keywords that can stand behind a number. -/
def endsHere : List Char → Bool
  | 'a' :: 'n' :: 'd' :: _ => true
  | 'e' :: 'l' :: 's' :: 'e' :: _ => true
  | 'f' :: 'o' :: 'r' :: _ => true
  | 'i' :: 'f' :: _ => true
  | 'i' :: 'n' :: _ => true
  | 'i' :: 's' :: _ => true
  | 'n' :: 'o' :: 't' :: _ => true
  | 'o' :: 'r' :: _ => true
  | c :: _ => !joinsWord c
  | [] => true

/-- the number ends here, without an imaginary mark -/
def close (s : Scan) : Option (Nat × Bool) :=
  if endsHere s.rest then some (s.length, false) else none

/-- behind the digits and the exponent: an imaginary mark or the end -/
def suffix? (s : Scan) : Option (Nat × Bool) :=
  match s.rest with
  | c :: cs =>
    if c = 'j' || c = 'J' then (if endsHere cs then some (s.length + 1, true) else none)
      else close s
  | [] => close s

/-- behind the digits: an exponent, an imaginary mark or the end. A letter `e` without digits behind
it is no exponent, and may still begin a keyword. -/
def exponent? (s : Scan) : Option (Nat × Bool) :=
  match s.rest with
  | e :: c :: cs =>
    if e = 'e' || e = 'E' then
      if c = '+' || c = '-' then
        match cs with
        | d :: _ => if isDecimal d then (digits isDecimal (s.length + 2) cs).bind suffix? else none
        | [] => none
      else if isDecimal c then (digits isDecimal (s.length + 1) (c :: cs)).bind suffix?
      else close s
    else suffix? s
  | _ => suffix? s

/-- behind a decimal point: a fraction, then what can follow it -/
def fraction? (s : Scan) : Option (Nat × Bool) :=
  match s.rest with
  | c :: _ => if isDecimal c then (digits isDecimal s.length s.rest).bind exponent? else exponent? s
  | [] => exponent? s

/-- at the start of the digits behind a base mark such as `0x`: at least one digit, which an
underscore may precede -/
def based? (isDigit : Char → Bool) (cs : List Char) : Option (Nat × Bool) :=
  match cs with
  | '_' :: c :: _ => if isDigit c then (digits isDigit 2 cs).bind close else none
  | c :: _ => if isDigit c then (digits isDigit 2 cs).bind close else none
  | [] => none

/-- the largest number of digits that a decimal integer may have -/
def maxDigits : Nat := 4300

/-- is a decimal without point, exponent and mark a number? With a leading zero it is one if all its
digits are zeros, or if an `e` stands behind it, since it is then no integer, even where the `e`
begins a keyword; without a leading zero it must not be too long. -/
def isPlainDecimal (ds rest : List Char) : Bool :=
  if ds.head? == some '0' then ds.all (· == '0') || rest.head? == some 'e'
  else ds.length ≤ maxDigits

/-- a number that starts with a decimal digit other than in a base mark -/
def decimal? (cs : List Char) : Option (Nat × Bool) :=
  (digits isDecimal 0 cs).bind fun s =>
    match s.rest with
    | '.' :: rest => fraction? ⟨s.length + 1, rest⟩
    | _ =>
      (exponent? s).bind fun r =>
        if r.1 = s.length && !isPlainDecimal ((cs.take s.length).filter (· != '_')) s.rest then none
        else some r

end Numeral

/-- the length of the number literal at the start of a text and whether it is imaginary; the text
starts with a digit, or with a point and a digit -/
def numeral? : List Char → Option (Nat × Bool)
  | '0' :: 'x' :: cs => Numeral.based? Numeral.isHex cs
  | '0' :: 'X' :: cs => Numeral.based? Numeral.isHex cs
  | '0' :: 'o' :: cs => Numeral.based? Numeral.isOctal cs
  | '0' :: 'O' :: cs => Numeral.based? Numeral.isOctal cs
  | '0' :: 'b' :: cs => Numeral.based? Numeral.isBinary cs
  | '0' :: 'B' :: cs => Numeral.based? Numeral.isBinary cs
  | '.' :: cs => Numeral.fraction? ⟨1, cs⟩
  | cs => Numeral.decimal? cs

end Archetype.Code
