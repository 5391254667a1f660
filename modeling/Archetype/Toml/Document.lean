import Archetype.Toml.Value

/-!
# TOML documents

A document is a row of statements, one a line: an entry, the head of a table, or the head of an item
of an array of tables. Entries belong to the head above them. No table is opened twice, and nothing
is added to a value that was written in one piece.

* `Statement`   what a line says;
* `Draft`       what the lines so far say;
* `parse`       the table that a document describes.
-/

namespace Archetype.Toml

/-- what a line of a document says -/
inductive Statement where
  | entry (key : Key) (value : Setting)
  /-- the head of a table -/
  | table (key : Key)
  /-- the head of a new item of an array of tables -/
  | item (key : Key)

/-- what the lines so far say -/
structure Draft where
  root : Assoc Setting
  /-- the head that entries belong to -/
  header : Key
  /-- keys of values that were written in one piece -/
  closed : List Key
  /-- keys of tables that a head cannot open again -/
  opened : List Key
  /-- keys of tables that entries of this head opened; the next head closes them -/
  opening : List Key

namespace Draft

def start : Draft := ⟨[], [], [], [], []⟩

/-- the keys on the way to the last name of `key`, from behind `header` -/
def waysOf (header key : Key) : List Key :=
  ((List.range key.length).drop 1).map fun i => header ++ key.take i

/-- takes in an entry -/
def addValue (d : Draft) (key : Key) (value : Setting) : Option Draft := do
  let (path, name) := splitKey key
  let ways := waysOf d.header key
  if ways.any (d.opened.contains ·) || leadsInto d.closed (d.header ++ path) then none
  else
    let root ← within true (addEntry name value) (d.header ++ path) d.root
    return { d with
      root
      opening := d.opening ++ ways
      closed := if isClosed value then (d.header ++ key) :: d.closed else d.closed }

/-- the entries of the head so far can open no more tables -/
def settle (d : Draft) : Draft := { d with opened := d.opened ++ d.opening, opening := [] }

/-- takes in the head of a table -/
def openTable (d : Draft) (key : Key) : Option Draft := do
  let d := d.settle
  if d.opened.contains key || leadsInto d.closed key then none
  else
    let root ← within true some key d.root
    return { d with root, header := key, opened := key :: d.opened }

/-- adds an empty table to the list `name`, which is made if it is missing -/
def appendItem (name : String) (t : Assoc Setting) : Option (Assoc Setting) :=
  match t.get? name with
  | none => some (t.insert name (.list [.table []]))
  | some (.list items) => some (t.insert name (.list (items ++ [.table []])))
  | some _ => none

/-- takes in the head of an item; what was said of earlier items does not bind the new one -/
def openItem (d : Draft) (key : Key) : Option Draft := do
  let d := d.settle
  if leadsInto d.closed key then none
  else
    let (path, name) := splitKey key
    let root ← within true (appendItem name) path d.root
    return { d with
      root
      header := key
      opened := key :: d.opened.filter (!key.isPrefixOf ·)
      closed := d.closed.filter (!key.isPrefixOf ·) }

/-- takes in a statement -/
def add (d : Draft) : Statement → Option Draft
  | .entry key value => d.addValue key value
  | .table key => d.openTable key
  | .item key => d.openItem key

end Draft

/-- the statement of a line, if there is one -/
def readStatement : Reader (Option Statement) := do
  match ← Reader.peek with
  | none => return none
  | some '\n' => return none
  | some '#' => return none
  | some '[' =>
    if ← Reader.accept ['[', '['] then
      skipSpaces
      let key ← readKey
      Reader.expect [']', ']']
      return some (.item key)
    else
      Reader.skip 1
      skipSpaces
      let key ← readKey
      Reader.expect [']']
      return some (.table key)
  | some _ =>
    let key ← readKey
    Reader.expect ['=']
    skipSpaces
    return some (.entry key (← readValue))

/-- takes in the statement of a line, if there is one -/
def readLine (d : Draft) : Reader Draft := do
  match ← readStatement with
  | none => return d
  | some s =>
    match d.add s with
    | none => Reader.refuse
    | some d => return d

/-- takes in the lines of a document, of which each takes at least one of `n` characters; the first
fault in reading order counts -/
def readLines : Nat → Draft → Reader Draft
  | 0, d => return d
  | n + 1, d => do
    skipSpaces
    let d ← readLine d
    skipSpaces
    skipComment
    if (← get).isEmpty then return d
    else
      Reader.expect ['\n']
      readLines n d

/-- the table that a document describes -/
def parse (text : String) : Except Refusal (Assoc Setting) := do
  let cs := text.toList
  let (draft, _) ← readLines (cs.length + 1) .start cs
  return draft.root

end Archetype.Toml
