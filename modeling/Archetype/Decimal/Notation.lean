import Archetype.Decimal.Shortest

/-!
# Floating-point numbers as texts

A number is written with the fewest digits that read back to it: positionally if its point lies at
most sixteen places behind the first digit and at most three zeros stand between point and first
digit, and otherwise with an exponent of at least two digits. A whole number keeps a zero behind its
point.

* `write`   the text of a number;
* `read`    the number nearest to a decimal.
-/

namespace Archetype.Decimal

/-- the digits of a number without zeros at their end, and how many were dropped -/
def trimZeros : Nat → Nat → Nat × Nat
  | 0, n => (n, 0)
  | fuel + 1, n =>
    if n % 10 = 0 && n != 0 then
      let (m, dropped) := trimZeros fuel (n / 10)
      (m, dropped + 1)
    else (n, 0)

/-- an exponent: its sign and at least two digits -/
def exponentText (e : Int) : String :=
  let digits := toString e.natAbs
  (if e < 0 then "-" else "+") ++ (if digits.length < 2 then "0" ++ digits else digits)

/-- the decimal point at place `point` in `digits`, counted from their start -/
def layout (digits : List Char) (point : Int) : String :=
  if point ≤ -4 || 16 < point then
    let head := String.ofList (digits.take 1)
    let tail := if digits.length ≤ 1 then "" else "." ++ String.ofList (digits.drop 1)
    head ++ tail ++ "e" ++ exponentText (point - 1)
  else if point ≤ 0 then "0." ++ String.ofList (List.replicate (-point).toNat '0' ++ digits)
  else
    let n := point.toNat
    if digits.length ≤ n then
      String.ofList (digits ++ List.replicate (n - digits.length) '0') ++ ".0"
    else String.ofList (digits.take n) ++ "." ++ String.ofList (digits.drop n)

/-- the text of a positive finite number -/
def positiveText (x : Binary) : String :=
  let d := x.shortest
  let (n, dropped) := trimZeros 20 d.digits
  let digits := (toString n).toList
  layout digits (digits.length + d.exponent + dropped)

/-- the text of a number -/
def write (x : Float) : String :=
  let bits := x.toBits
  let sign := if bits >>> 63 = 1 then "-" else ""
  let rest := bits &&& 0x7fffffffffffffff
  if 0x7ff0000000000000 < rest then "nan"
  else if rest = 0x7ff0000000000000 then sign ++ "inf"
  else if rest = 0 then sign ++ "0.0"
  else sign ++ positiveText (Binary.ofBits rest)

/-- the number nearest to `m * 10 ^ e`; what is too large is infinite, what is too small is zero -/
def read (negative : Bool) (m : Nat) (e : Int) : Float :=
  let size : Int := (toString m).length + e
  let x : Float :=
    if m = 0 || size < -330 then 0.0
    else if 310 < size then 1.0 / 0.0
    else if e < 0 then Float.ofScientific m true e.natAbs
    else Float.ofScientific m false e.natAbs
  if negative then -x else x

end Archetype.Decimal
