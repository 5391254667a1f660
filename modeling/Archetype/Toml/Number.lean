import Archetype.Setting
import Archetype.Text.Ranges
import Archetype.Toml.Reader

/-!
# Numbers, dates and times in TOML

Digits may have single underscores between them. A number with a fraction or an exponent is a
floating-point number, any other is an integer. Each function here takes what it reads from the
front of a text, as much as it can, or gives nothing. An integer with too many decimal digits makes
`readPlain` refuse the document.
-/

namespace Archetype.Toml

/-- digits, each with at most one underscore before it -/
def moreDigits (p : Char → Bool) : List Char → List Char × List Char
  | '_' :: d :: rest =>
    if p d then
      let (ds, rest) := moreDigits p rest
      (d :: ds, rest)
    else ([], '_' :: d :: rest)
  | d :: rest =>
    if p d then
      let (ds, rest) := moreDigits p rest
      (d :: ds, rest)
    else ([], d :: rest)
  | [] => ([], [])

/-- a digit and more digits -/
def digits? (p : Char → Bool) : List Char → Option (List Char × List Char)
  | [] => none
  | d :: rest =>
    if p d then
      let (ds, rest) := moreDigits p rest
      some (d :: ds, rest)
    else none

/-- the number that digits write in a base -/
def valueOf (base : Nat) (digits : List Char) : Nat :=
  digits.foldl (fun n d => base * n + (Text.hexDigit? d).getD 0) 0

/-- is it a digit of the base? -/
def isDigitOf (base : Nat) (c : Char) : Bool := (Text.hexDigit? c).any fun n => n < base

/-- the base of a letter behind a zero -/
def baseOf? : Char → Option Nat
  | 'x' => some 16
  | 'o' => some 8
  | 'b' => some 2
  | _ => none

/-- a number as it is written -/
inductive Numeral where
  | integer (negative : Bool) (base : Nat) (digits : List Char)
  | decimal (x : Float)

/-- the value of a number; decimal digits are limited -/
def Numeral.value : Numeral → Except Refusal Setting
  | integer negative base ds =>
    if base = 10 && Setting.maxDigits < ds.length then .error (.longInteger ds.length)
    else
      let n : Int := valueOf base ds
      .ok (.integer (if negative then -n else n))
  | decimal x => .ok (.decimal x)

/-- an integer with a base other than ten -/
def radix? : List Char → Option (Numeral × List Char)
  | '0' :: letter :: rest => do
    let base ← baseOf? letter
    let (ds, rest) ← digits? (isDigitOf base) rest
    return (.integer false base ds, rest)
  | _ => none

/-- is it negative? -/
def sign : List Char → Bool × List Char
  | '-' :: rest => (true, rest)
  | '+' :: rest => (false, rest)
  | cs => (false, cs)

/-- the digits before the point; a zero stands alone -/
def whole? : List Char → Option (List Char × List Char)
  | '0' :: rest => some (['0'], rest)
  | cs => digits? (isDigitOf 10) cs

/-- the digits behind a point -/
def fraction : List Char → List Char × List Char
  | '.' :: rest => (digits? (isDigitOf 10) rest).getD ([], '.' :: rest)
  | cs => ([], cs)

/-- an exponent, if there is one -/
def exponent (cs : List Char) : Option Int × List Char :=
  match cs with
  | e :: rest =>
    if e = 'e' || e = 'E' then
      let (negative, rest) := sign rest
      match digits? (isDigitOf 10) rest with
      | some (ds, rest) =>
        let n : Int := valueOf 10 ds
        (some (if negative then -n else n), rest)
      | none => (none, cs)
    else (none, cs)
  | [] => (none, [])

/-- a decimal number -/
def decimal? (cs : List Char) : Option (Numeral × List Char) := do
  let (negative, rest) := sign cs
  let (ds, rest) ← whole? rest
  let (fs, rest) := fraction rest
  let (e, rest) := exponent rest
  if fs.isEmpty && e.isNone then return (.integer negative 10 ds, rest)
  else return (.decimal (Decimal.read negative (valueOf 10 (ds ++ fs)) (e.getD 0 - fs.length)),
    rest)

/-- infinity and what is no number, by name -/
def special? (cs : List Char) : Option (Numeral × List Char) :=
  let (negative, rest) := sign cs
  if "inf".toList.isPrefixOf rest then
    some (.decimal (if negative then -1.0 / 0.0 else 1.0 / 0.0), rest.drop 3)
  else if "nan".toList.isPrefixOf rest then some (.decimal (0.0 / 0.0), rest.drop 3)
  else none

/-- a number -/
def number? (cs : List Char) : Option (Numeral × List Char) :=
  (radix? cs).or ((decimal? cs).or (special? cs))

/-! ## dates and times -/

/-- two digits that write a number from `low` to `high` -/
def two? (low high : Nat) : List Char → Option (Nat × List Char)
  | a :: b :: rest =>
    let n := valueOf 10 [a, b]
    if isDigitOf 10 a && isDigitOf 10 b && low ≤ n && n ≤ high then some (n, rest) else none
  | _ => none

/-- the character `c` -/
def char? (c : Char) : List Char → Option (List Char)
  | d :: rest => if c = d then some rest else none
  | [] => none

/-- a day -/
def date? (cs : List Char) : Option (Date × List Char) := do
  let (century, rest) ← two? 0 99 cs
  let (year, rest) ← two? 0 99 rest
  let rest ← char? '-' rest
  let (month, rest) ← two? 1 12 rest
  let rest ← char? '-' rest
  let (day, rest) ← two? 1 31 rest
  return (⟨100 * century + year, month, day⟩, rest)

/-- millionths of a second behind a point: digits from the seventh on do not count -/
def micros (cs : List Char) : Nat × List Char :=
  match cs with
  | '.' :: rest =>
    let ds := rest.takeWhile (isDigitOf 10)
    if ds.isEmpty then (0, cs)
    else (valueOf 10 ((ds ++ List.replicate 6 '0').take 6), rest.dropWhile (isDigitOf 10))
  | _ => (0, cs)

/-- a time of day -/
def clock? (cs : List Char) : Option (Clock × List Char) := do
  let (hour, rest) ← two? 0 23 cs
  let rest ← char? ':' rest
  let (minute, rest) ← two? 0 59 rest
  let rest ← char? ':' rest
  let (second, rest) ← two? 0 59 rest
  let (micro, rest) := micros rest
  return (⟨hour, minute, second, micro⟩, rest)

/-- minutes ahead of world time, in hours and minutes -/
def hoursAhead? (cs : List Char) : Option (Int × List Char) := do
  let (hour, rest) ← two? 0 23 cs
  let rest ← char? ':' rest
  let (minute, rest) ← two? 0 59 rest
  return (60 * hour + minute, rest)

/-- the offset from world time, if there is one -/
def offset (cs : List Char) : Option Int × List Char :=
  let found : Option (Int × List Char) :=
    match cs with
    | 'Z' :: rest => some (0, rest)
    | 'z' :: rest => some (0, rest)
    | '+' :: rest => hoursAhead? rest
    | '-' :: rest => (hoursAhead? rest).map fun (n, rest) => (-n, rest)
    | _ => none
  match found with
  | some (n, rest) => (some n, rest)
  | none => (none, cs)

/-- a time of day behind a day, with a letter or a blank between them -/
def clockAfterDate? : List Char → Option (Clock × List Char)
  | c :: rest => if c = 'T' || c = 't' || c = ' ' then clock? rest else none
  | [] => none

/-- a day, perhaps with a time -/
def moment? (cs : List Char) : Option (Date × Setting × List Char) := do
  let (d, rest) ← date? cs
  match clockAfterDate? rest with
  | none => return (d, .date d, rest)
  | some (t, rest) =>
    let (o, rest) := offset rest
    return (d, .moment d t o, rest)

/-- a date, a time or a number; a day that is not in the calendar is refused -/
def readPlain : Reader Setting := fun cs =>
  match moment? cs with
  | some (d, s, rest) => if d.isValid then .ok (s, rest) else .error .malformed
  | none =>
    match clock? cs, number? cs with
    | some (t, rest), _ => .ok (.time t, rest)
    | none, some (n, rest) => n.value.map (·, rest)
    | none, none => .error .malformed

end Archetype.Toml
