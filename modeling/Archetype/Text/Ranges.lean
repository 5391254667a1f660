/-!
# Sets of characters as ranges, and tables of characters

A property of characters is written as a text of code points and ranges in hexadecimal, in
increasing order: `41-5A 5F 61-7A`. A table that gives values to characters is a text of entries
`code:values`, or `first-last:values` for a run; the code is left out where it follows on the one
before, as in `DF:53,53 E0:C0 C1 C2`.

* `readRanges`    the ranges that a text names;
* `inRanges`      is a code point in one of them?
* `readEntries`   the entries of a table;
* `entryOf?`      the entry that a code point has.
-/

namespace Archetype.Text

/-- the value of a hexadecimal digit -/
def hexDigit? (c : Char) : Option Nat :=
  if '0' ≤ c && c ≤ '9' then some (c.toNat - 48)
  else if 'a' ≤ c && c ≤ 'f' then some (c.toNat - 87)
  else if 'A' ≤ c && c ≤ 'F' then some (c.toNat - 55)
  else none

/-- the value of hexadecimal digits -/
def hexValue (cs : List Char) : Nat := cs.foldl (fun n c => 16 * n + (hexDigit? c).getD 0) 0

/-- reads a list of ranges: `lo` is the lower end if a hyphen was read, `n` the number so far;
ranges are divided by blanks and ends of lines -/
def readRangesFrom (lo n : Option Nat) : List Char → List (Nat × Nat)
  | [] => (n.map fun n => (lo.getD n, n)).toList
  | c :: cs =>
    if c = '-' then readRangesFrom n none cs
    else if c = ' ' || c = '\n' then
      (n.map fun n => (lo.getD n, n)).toList ++ readRangesFrom none none cs
    else readRangesFrom lo (some (16 * n.getD 0 + (hexDigit? c).getD 0)) cs

/-- the ranges named by a text such as `41-5A 5F` -/
def readRanges (s : String) : Array (Nat × Nat) := (readRangesFrom none none s.toList).toArray

/-- is `n` in one of the ranges? -/
def inRanges (ranges : Array (Nat × Nat)) (n : Nat) : Bool :=
  ranges.any fun r => r.1 ≤ n && n ≤ r.2

/-! ## tables -/

/-- one entry of a table: the code points `first` to `last` and the values of `first` -/
structure TableEntry where
  first : Nat
  last : Nat
  values : List Nat

/-- an entry that is being read: the code point behind the last entry, the lower end of a run, the
code point once its colon was read, the values before the current number in reverse, and the current
number -/
structure EntryReading where
  next : Nat := 0
  lo : Option Nat := none
  code : Option Nat := none
  values : List Nat := []
  n : Option Nat := none

/-- the entry that was read, if there is one -/
def EntryReading.entry? (r : EntryReading) : Option TableEntry :=
  r.n.map fun n =>
    let code := r.code.getD r.next
    ⟨r.lo.getD code, code, (n :: r.values).reverse⟩

/-- reads table entries, which are divided by blanks and ends of lines -/
def readEntriesFrom (r : EntryReading) : List Char → List TableEntry
  | [] => r.entry?.toList
  | c :: cs =>
    if c = '-' then readEntriesFrom { r with lo := r.n, n := none } cs
    else if c = ':' then readEntriesFrom { r with code := r.n, n := none } cs
    else if c = ',' then readEntriesFrom { r with values := r.n.getD 0 :: r.values, n := none } cs
    else if c = ' ' || c = '\n' then
      match r.entry? with
      | some e => e :: readEntriesFrom { next := e.last + 1 } cs
      | none => readEntriesFrom r cs
    else readEntriesFrom { r with n := some (16 * r.n.getD 0 + (hexDigit? c).getD 0) } cs

/-- the entries named by a text -/
def readEntries (s : String) : Array TableEntry := (readEntriesFrom {} s.toList).toArray

/-- the entry of a table whose run holds `n` -/
def entryOf? (table : Array TableEntry) (n : Nat) : Option TableEntry :=
  table.find? fun e => e.first ≤ n && n ≤ e.last

end Archetype.Text
