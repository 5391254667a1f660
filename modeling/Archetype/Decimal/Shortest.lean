/-!
# The shortest decimal of a floating-point number

A positive number `m * 2 ^ q` stands for all reals that are rounded to it. Of the decimals among
them the shortest is taken, and of two that are equally short the nearer one.

* `Binary.ofBits`     the number of a bit pattern;
* `Binary.holds`      is a decimal rounded to the number?
* `Binary.shortest`   the shortest such decimal.
-/

namespace Archetype.Decimal

/-- the decimal `digits * 10 ^ exponent` -/
structure Scaled where
  digits : Nat
  exponent : Int
  deriving DecidableEq, Repr

/-- the number `m * 2 ^ q`; below a power of two the next number is only half as far -/
structure Binary where
  m : Nat
  q : Int
  nearBelow : Bool
  deriving DecidableEq, Repr

/-- is `a * 10 ^ i` at most `b * 2 ^ j`? -/
def atMost (a : Nat) (i : Int) (b : Nat) (j : Int) : Bool :=
  a * Nat.pow 10 i.toNat * Nat.pow 2 (-j).toNat ≤ b * Nat.pow 2 j.toNat * Nat.pow 10 (-i).toNat

/-- is `a * 10 ^ i` at least `b * 2 ^ j`? -/
def atLeast (a : Nat) (i : Int) (b : Nat) (j : Int) : Bool :=
  b * Nat.pow 2 j.toNat * Nat.pow 10 (-i).toNat ≤ a * Nat.pow 10 i.toNat * Nat.pow 2 (-j).toNat

namespace Binary

/-- the number of a bit pattern without its sign; not for infinities and what is no number -/
def ofBits (bits : UInt64) : Binary :=
  let exponent := ((bits >>> 52) &&& 0x7ff).toNat
  let fraction := (bits &&& 0xfffffffffffff).toNat
  if exponent = 0 then ⟨fraction, -1074, false⟩
  else ⟨0x10000000000000 + fraction, (exponent : Int) - 1075, fraction == 0 && 1 < exponent⟩

/-- Is the decimal rounded to this number? The ends of the interval lie halfway to the neighbours,
and belong to it if `m` is even. -/
def holds (x : Binary) (d : Scaled) : Bool :=
  let low := if x.nearBelow then 4 * x.m - 1 else 4 * x.m - 2
  let high := 4 * x.m + 2
  let q := x.q - 2
  if x.m % 2 = 0 then atLeast d.digits d.exponent low q && atMost d.digits d.exponent high q
  else !atMost d.digits d.exponent low q && !atLeast d.digits d.exponent high q

/-- the number over `10 ^ k`, without its fraction -/
def quotient (x : Binary) (k : Int) : Nat :=
  (x.m * Nat.pow 2 x.q.toNat * Nat.pow 10 (-k).toNat) /
    (Nat.pow 2 (-x.q).toNat * Nat.pow 10 k.toNat)

/-- is twice the number below `n * 10 ^ k`? -/
def twiceBelow (x : Binary) (n : Nat) (k : Int) : Bool := !atMost n k (2 * x.m) x.q

/-- does twice the number equal `n * 10 ^ k`? -/
def twiceIs (x : Binary) (n : Nat) (k : Int) : Bool :=
  atMost n k (2 * x.m) x.q && atLeast n k (2 * x.m) x.q

/-- the decimal with unit `10 ^ k` that is rounded to the number, if there is one: of two the
nearer, and of two equally near the even one -/
def onGrid? (x : Binary) (k : Int) : Option Scaled :=
  let below := x.quotient k
  let down : Scaled := ⟨below, k⟩
  let up : Scaled := ⟨below + 1, k⟩
  match x.holds down, x.holds up with
  | false, false => none
  | true, false => some down
  | false, true => some up
  | true, true =>
    if x.twiceBelow (2 * below + 1) k then some down
    else if x.twiceIs (2 * below + 1) k && below % 2 == 0 then some down
    else some up

/-- the least `k` from `from` on, within `fuel` steps, with the number below `10 ^ k` -/
def magnitudeFrom (x : Binary) : Nat → Int → Int
  | 0, k => k
  | fuel + 1, k =>
    if atLeast 1 k x.m x.q && !atMost 1 k x.m x.q then k else x.magnitudeFrom fuel (k + 1)

/-- the number of digits in front of the point: the least `k` with the number below `10 ^ k` -/
def magnitude (x : Binary) : Int := x.magnitudeFrom 700 (-330)

/-- the first of the grids with `n`, `n + 1`, … digits that holds a decimal of the number -/
def shortestFrom (x : Binary) (k : Int) : Nat → Nat → Scaled
  | 0, n => ⟨x.quotient (k - n), k - n⟩
  | fuel + 1, n => (x.onGrid? (k - n)).getD (x.shortestFrom k fuel (n + 1))

/-- the shortest decimal of a positive number: seventeen digits always suffice -/
def shortest (x : Binary) : Scaled := x.shortestFrom x.magnitude 17 1

end Binary

end Archetype.Decimal
