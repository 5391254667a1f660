import Archetype.Code.Position

/-!
# Replacement fields of format literals

A format literal is text with fields in braces: an expression, then perhaps `=`, a conversion and a
format, which can hold fields in turn.

* `literalRun?`      the text up to the next field;
* `expressionRun?`   the expression at the start of a field, up to what ends it.

An expression holds no backslash and no comment sign, and its quotes and brackets match.
-/

namespace Archetype.Code.Field

/-- what ends a run of text -/
inductive RunEnd where
  /-- the end of the literal, or the brace that closes the surrounding field -/
  | done
  /-- a doubled brace, which stands for one -/
  | doubled
  /-- the brace that opens a field -/
  | field
  deriving DecidableEq

/-- the text up to the next brace that is not part of a character name, what ends it, and the cursor
there: behind a doubled brace, before any other. Braces are doubled only at the top level, where a
closing brace must not stand alone. `read` is the text so far in reverse, and `named` says whether a
character name is open. -/
def literalRun? (raw top : Bool) (read : List Char) (named : Bool) (pos : Position) :
    List Char → Option (List Char × RunEnd × Cursor)
  | [] => some (read.reverse, .done, ⟨[], pos⟩)
  | c :: cs =>
    if named then literalRun? raw top (c :: read) (c != '\x7d') (pos.after c) cs
    else if c = '\x7b' || c = '\x7d' then
      if top && cs.head? = some c then
        some ((c :: read).reverse, .doubled, ⟨cs.drop 1, (pos.after c).after c⟩)
      else if c = '\x7b' then some (read.reverse, .field, ⟨c :: cs, pos⟩)
      else if top then none
      else some (read.reverse, .done, ⟨c :: cs, pos⟩)
    else if !raw && c = '\\' then
      match cs with
      | 'N' :: '\x7b' :: ds =>
        literalRun? raw top ('\x7b' :: 'N' :: c :: read) true
          (((pos.after c).after 'N').after '\x7b') ds
      | d :: ds =>
        if d = '\x7b' || d = '\x7d' then
          literalRun? raw top (c :: read) false (pos.after c) (d :: ds)
        else literalRun? raw top (d :: c :: read) false ((pos.after c).after d) ds
      | [] => some ((c :: read).reverse, .done, ⟨[], pos.after c⟩)
    else literalRun? raw top (c :: read) false (pos.after c) cs

/-- an open quote: the character, and whether it is tripled -/
structure OpenQuote where
  quote : Char
  tripled : Bool

/-- the number of brackets that can be open in an expression -/
def maxBrackets : Nat := 200

/-- the bracket that closes an opening one -/
def closingBracket? (c : Char) : Option Char :=
  if c = '(' then some ')' else if c = '[' then some ']'
  else if c = '\x7b' then some '\x7d' else none

/-- a bracket that closes -/
def isClosingBracket (c : Char) : Bool := c = ')' || c = ']' || c = '\x7d'

/-- how far an expression has been read: the number of characters that belong to the sign before
them, the open quote, and the brackets that are due -/
structure Scan where
  passing : Nat
  quote : Option OpenQuote
  due : List Char

/-- what a character does -/
inductive Move where
  /-- it ends the expression -/
  | stop
  /-- it belongs to the expression -/
  | go (next : Scan)

namespace Scan

/-- a character inside quotes: does it close them? -/
def inQuote (s : Scan) (q : OpenQuote) (c : Char) (cs : List Char) : Scan :=
  if c != q.quote then s
  else if !q.tripled then { s with quote := none }
  else if [c, c].isPrefixOf cs then ⟨2, none, s.due⟩
  else s

/-- a bracket or any other character -/
def inBrackets? (s : Scan) (c : Char) : Option Scan :=
  match closingBracket? c with
  | some close => if s.due.length < maxBrackets then some { s with due := close :: s.due } else none
  | none =>
    if isClosingBracket c then
      match s.due with
      | [] => none
      | top :: below => if c = top then some { s with due := below } else none
    else some s

/-- a character `c` outside of quotes, with `cs` behind it -/
def outside? (s : Scan) (c : Char) (cs : List Char) : Option Move :=
  if c = '\'' || c = '"' then
    let tripled := [c, c].isPrefixOf cs
    some (.go ⟨if tripled then 2 else 0, some ⟨c, tripled⟩, s.due⟩)
  else if c = '#' then none
  else if s.due.isEmpty && (c = '!' || c = '=' || c = '<' || c = '>') && cs.head? = some '=' then
    some (.go { s with passing := 1 })
  else if s.due.isEmpty && (c = '!' || c = ':' || c = '=' || c = '\x7d') then some .stop
  else (s.inBrackets? c).map .go

/-- a character `c` with `cs` behind it; a backslash is never allowed -/
def step? (s : Scan) (c : Char) (cs : List Char) : Option Move :=
  if c = '\\' then none
  else if 0 < s.passing then some (.go { s with passing := s.passing - 1 })
  else
    match s.quote with
    | some q => some (.go (s.inQuote q c cs))
    | none => s.outside? c cs

end Scan

/-- the expression up to the sign that ends it outside of brackets and quotes: `!`, `:`, `=` or the
closing brace, where `!=`, `==`, `<=` and `>=` are operators. `read` is the expression so far in
reverse; the cursor is left at the sign. -/
def expressionFrom? (s : Scan) (read : List Char) (pos : Position) :
    List Char → Option (List Char × Cursor)
  | [] => none
  | c :: cs =>
    match s.step? c cs with
    | none => none
    | some .stop => some (read.reverse, ⟨c :: cs, pos⟩)
    | some (.go next) => expressionFrom? next (c :: read) (pos.after c) cs

/-- the expression at the cursor, and the cursor at the sign that ends it -/
def expressionRun? (cur : Cursor) : Option (List Char × Cursor) :=
  expressionFrom? ⟨0, none, []⟩ [] cur.pos cur.rest

/-- a blank of an expression -/
def isFieldBlank (c : Char) : Bool := c = ' ' || c = '\t' || c = '\n' || c = '\x0c'

/-- white space behind the sign `=` of a field -/
def isFieldSpace (c : Char) : Bool := isFieldBlank c || c = '\r' || c = '\x0b'

/-- the cursor behind the sign `=` and the white space after it, if there is one -/
def skipEquals (cur : Cursor) : Cursor :=
  match cur.rest with
  | '=' :: _ => (cur.skip 1).dropWhile isFieldSpace
  | _ => cur

/-- the cursor behind a conversion, if there is one; only `s`, `r` and `a` are conversions -/
def skipConversion? (cur : Cursor) : Option Cursor :=
  match cur.rest with
  | '!' :: c :: _ => if c = 's' || c = 'r' || c = 'a' then some (cur.skip 2) else none
  | '!' :: _ => none
  | _ => some cur

end Archetype.Code.Field
