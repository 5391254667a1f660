import Archetype.Text.Ranges
import Archetype.Text.NormalForm.Tables

/-!
# The compatibility normal form of a text

Two spellings of one identifier are the same identifier when their normal forms agree. A text is
brought to normal form in three steps:

* `decompose`   each character is replaced by its full compatibility decomposition;
* `reorder`     marks after a base character are put in the order of their combining classes;
* `compose`     a base character and a mark that have a composed character are replaced by it.

`normalForm` is the three steps in turn. Hangul syllables are computed, all else is looked up.
-/

namespace Archetype.Text

/-! ## the tables -/

/-- the compatibility decompositions -/
def compatibilityTable : Array TableEntry := readEntries compatibilityText

/-- the composed characters -/
def compositionTable : Array TableEntry := readEntries compositionText

/-- the combining classes -/
def classTable : Array TableEntry := readEntries classText

/-- the combining class of a code point, zero for base characters -/
def combiningClass (n : Nat) : Nat :=
  if n < 0x300 then 0
  else
    match entryOf? classTable n with
    | some e => e.values.headD 0
    | none => 0

/-! ## the three steps -/

/-- the decomposition of one code point -/
def decompose (n : Nat) : List Nat :=
  if n < 0xA0 then [n]
  else if 0xAC00 ≤ n && n ≤ 0xD7A3 then
    let k := n - 0xAC00
    let lead := 0x1100 + k / 588
    let vowel := 0x1161 + k % 588 / 28
    if k % 28 = 0 then [lead, vowel] else [lead, vowel, 0x11A7 + k % 28]
  else
    match entryOf? compatibilityTable n with
    | some e => if e.first = e.last then e.values else [e.values.headD 0 + (n - e.first)]
    | none => [n]

/-- puts `n` of class `k` behind the code points of a run whose class is not larger -/
def insertMark (k n : Nat) : List (Nat × Nat) → List (Nat × Nat)
  | [] => [(k, n)]
  | (l, m) :: run => if k < l then (k, n) :: (l, m) :: run else (l, m) :: insertMark k n run

/-- orders each run of marks by class; `run` holds the marks since the last base character -/
def reorderFrom (run : List (Nat × Nat)) : List Nat → List Nat
  | [] => run.map Prod.snd
  | n :: ns =>
    let k := combiningClass n
    if k = 0 then run.map Prod.snd ++ n :: reorderFrom [] ns
    else reorderFrom (insertMark k n run) ns

/-- orders each run of marks by class, equal classes as they stood -/
def reorder (ns : List Nat) : List Nat := reorderFrom [] ns

/-- the character composed of `a` and `b` -/
def composed? (a b : Nat) : Option Nat :=
  if 0x1100 ≤ a && a < 0x1113 && 0x1161 ≤ b && b < 0x1176 then
    some (0xAC00 + ((a - 0x1100) * 21 + (b - 0x1161)) * 28)
  else if 0xAC00 ≤ a && a ≤ 0xD7A3 && (a - 0xAC00) % 28 = 0 && 0x11A8 ≤ b && b < 0x11C3 then
    some (a + (b - 0x11A7))
  else
    (compositionTable.find? fun e => e.values == [a, b]).map TableEntry.first

/-- composes from the base character `base` on; `marks` are the marks after it that stay, in
reverse, and `top` is the class of the last of them -/
def composeFrom (base : Nat) (marks : List Nat) (top : Nat) : List Nat → List Nat
  | [] => base :: marks.reverse
  | n :: ns =>
    let k := combiningClass n
    match if marks.isEmpty || top < k then composed? base n else none with
    | some m => composeFrom m marks top ns
    | none =>
      if k = 0 then base :: marks.reverse ++ composeFrom n [] 0 ns
      else composeFrom base (n :: marks) k ns

/-- composes each base character with the marks after it, as far as composed characters exist; a
text that starts with marks keeps them -/
def compose : List Nat → List Nat
  | [] => []
  | n :: ns => if combiningClass n = 0 then composeFrom n [] 0 ns else n :: compose ns

/-- the compatibility normal form; a text of ASCII characters is in normal form -/
def normalForm (cs : List Char) : List Char :=
  if cs.all (·.toNat < 128) then cs
  else (compose (reorder (cs.flatMap fun c => decompose c.toNat))).map Char.ofNat

end Archetype.Text
