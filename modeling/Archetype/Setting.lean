import Archetype.Decimal.Notation
import Archetype.Text.Quoted
import Archetype.Text.Split

/-!
# Settings

A configuration is a table of settings: truth values, numbers, texts, dates, lists and tables of
settings. A message shows a setting by its text (`Setting.shown?`), in which a text stands as it is,
but in quotes within a list or a table. An integer with too many digits has no text.
-/

namespace Archetype

/-- a day -/
structure Date where
  year : Nat
  month : Nat
  day : Nat
  deriving DecidableEq, Repr

/-- a time of day -/
structure Clock where
  hour : Nat
  minute : Nat
  second : Nat
  micro : Nat
  deriving DecidableEq, Repr

/-- a value in a configuration -/
inductive Setting where
  /-- no value -/
  | absent
  | flag (b : Bool)
  | integer (n : Int)
  | decimal (x : Float)
  | text (s : String)
  | date (d : Date)
  | time (t : Clock)
  /-- a day and a time of day, perhaps with the minutes by which it is ahead of world time -/
  | moment (d : Date) (t : Clock) (offset : Option Int)
  | list (items : List Setting)
  | table (entries : List (String × Setting))
  deriving Inhabited

/-- a number with at least `width` digits -/
def padded (width n : Nat) : String :=
  let digits := toString n
  String.ofList (List.replicate (width - digits.length) '0') ++ digits

namespace Date

/-- year, month and day -/
def shown (d : Date) : String := padded 4 d.year ++ "-" ++ padded 2 d.month ++ "-" ++ padded 2 d.day

/-- is the year a leap year? -/
def isLeap (year : Nat) : Bool := year % 4 == 0 && (year % 100 != 0 || year % 400 == 0)

/-- the days of a month -/
def daysIn (year month : Nat) : Nat :=
  if month = 2 then (if isLeap year then 29 else 28)
  else if month = 4 || month = 6 || month = 9 || month = 11 then 30
  else 31

/-- is it a day of the calendar, from year 1 to year 9999? -/
def isValid (d : Date) : Bool :=
  1 ≤ d.year && d.year ≤ 9999 && 1 ≤ d.month && d.month ≤ 12 && 1 ≤ d.day && d.day
    ≤ daysIn d.year d.month

def numbers (d : Date) : List Nat := [d.year, d.month, d.day]

end Date

namespace Clock

/-- hour, minute and second, and what is left of the second if there is something left -/
def shown (t : Clock) : String :=
  padded 2 t.hour ++ ":" ++ padded 2 t.minute ++ ":" ++ padded 2 t.second
    ++ (if t.micro = 0 then "" else "." ++ padded 6 t.micro)

/-- the numbers of the time; seconds are left out if nothing but zeros follows -/
def numbers (t : Clock) : List Nat :=
  if t.micro != 0 then [t.hour, t.minute, t.second, t.micro]
  else if t.second != 0 then [t.hour, t.minute, t.second]
  else [t.hour, t.minute]

end Clock

/-- minutes ahead of world time, as hours and minutes with a sign -/
def offsetShown (offset : Int) : String :=
  (if offset < 0 then "-" else "+") ++ padded 2 (offset.natAbs / 60) ++ ":"
    ++ padded 2 (offset.natAbs % 60)

/-- numbers with commas between them -/
def commaNumbers (ns : List Nat) : String := Text.joinWith ", " (ns.map toString)

/-- an offset within a list: as whole days and the seconds on top of them -/
def offsetInner (offset : Int) : String :=
  if offset = 0 then "datetime.timezone.utc"
  else if offset < 0 then
    "datetime.timezone(datetime.timedelta(days=-1, seconds="
      ++ toString (86400 + 60 * offset) ++ "))"
  else "datetime.timezone(datetime.timedelta(seconds=" ++ toString (60 * offset) ++ "))"

namespace Setting

/-- the number of decimal digits with which an integer can be read and written -/
def maxDigits : Nat := 4300

/-- the digits of an integer, unless there are too many -/
def integerText? (n : Int) : Option String :=
  if n.natAbs < Nat.pow 10 maxDigits then some (toString n) else none

mutual

/-- a setting within a list or a table -/
def inner? : Setting → Option String
  | absent => some "None"
  | flag b => some (if b then "True" else "False")
  | integer n => integerText? n
  | decimal x => some (Decimal.write x)
  | text s => some (Text.quoted s)
  | date d => some ("datetime.date(" ++ commaNumbers d.numbers ++ ")")
  | time t => some ("datetime.time(" ++ commaNumbers t.numbers ++ ")")
  | moment d t none => some ("datetime.datetime(" ++ commaNumbers (d.numbers ++ t.numbers) ++ ")")
  | moment d t (some offset) =>
    some ("datetime.datetime(" ++ commaNumbers (d.numbers ++ t.numbers) ++ ", tzinfo="
      ++ offsetInner offset ++ ")")
  | list items => (innerItems? items).map fun texts => "[" ++ Text.joinWith ", " texts ++ "]"
  | table entries =>
    (innerEntries? entries).map fun texts => "\x7b" ++ Text.joinWith ", " texts ++ "\x7d"

/-- the items of a list -/
def innerItems? : List Setting → Option (List String)
  | [] => some []
  | item :: rest => do return (← inner? item) :: (← innerItems? rest)

/-- the entries of a table -/
def innerEntries? : List (String × Setting) → Option (List String)
  | [] => some []
  | (name, value) :: rest =>
    do return (Text.quoted name ++ ": " ++ (← inner? value)) :: (← innerEntries? rest)

end

/-- the text of a setting, unless it holds an integer with too many digits -/
def shown? : Setting → Option String
  | text s => some s
  | date d => some d.shown
  | time t => some t.shown
  | moment d t offset => some (d.shown ++ " " ++ t.shown ++ (offset.map offsetShown).getD "")
  | s => s.inner?

/-- the entries of a table; other settings have none -/
def entries : Setting → List (String × Setting)
  | table entries => entries
  | _ => []

/-- the texts of a list, if it is a list of nothing but texts -/
def texts? : Setting → Option (List String)
  | list items => items.mapM fun
    | text s => some s
    | _ => none
  | _ => none

end Setting

end Archetype
