import Archetype.Code.Numeral
import Archetype.Code.Token
import Archetype.Text.Identifier
import Archetype.Text.NormalForm
import Archetype.Text.Split

/-!
# From a text to its tokens

`tokens?` cuts a source text into tokens and marks where logical lines and blocks end; it is `none`
if the text has no tokens: a character that starts none, a literal without its end, brackets that do
not match, or indentation that fits no open block.

* `lexeme?`        the lexeme at the start of a text and its length;
* `Indent`         how far a line is indented, and `settle`, which opens and closes blocks;
* `scan`           the loop over the text;
* `tokensWithin?`  the tokens of an expression that stands between brackets.
-/

namespace Archetype.Code

open Archetype.Text (isIdentifier normalForm unifyNewlines)

/-! ## one lexeme -/

/-- the marks before the quotes of a string literal: raw, bytes, format -/
def literalMarks? (word : List Char) : Option (Bool × Bool × Bool) :=
  match word.map Char.toLower with
  | [] | ['u'] => some (false, false, false)
  | ['r'] => some (true, false, false)
  | ['b'] => some (false, true, false)
  | ['f'] => some (false, false, true)
  | ['b', 'r'] | ['r', 'b'] => some (true, true, false)
  | ['f', 'r'] | ['r', 'f'] => some (true, false, true)
  | _ => none

/-- the characters up to the closing `quote` of a literal on one line -/
def shortBody? (quote : Char) : List Char → Option (List Char)
  | [] => none
  | c :: cs =>
    if c = quote then some []
    else if c = '\n' then none
    else if c = '\\' then
      match cs with
      | [] => none
      | d :: ds => (shortBody? quote ds).map fun body => c :: d :: body
    else (shortBody? quote cs).map (c :: ·)

/-- the characters up to three closing quotes -/
def longBody? (quote : Char) : List Char → Option (List Char)
  | [] => none
  | c :: cs =>
    if c = quote && [quote, quote].isPrefixOf cs then some []
    else if c = '\\' then
      match cs with
      | [] => none
      | d :: ds => (longBody? quote ds).map fun body => c :: d :: body
    else (longBody? quote cs).map (c :: ·)

/-- a string literal whose marks are read: `opened` characters stand before its quote, and `cs`
starts with that quote -/
def literal? (marks : Bool × Bool × Bool) (opened : Nat) (pos : Position) (cs : List Char) :
    Option (Lexeme × Nat) :=
  match cs with
  | [] => none
  | quote :: rest =>
    let width := if [quote, quote].isPrefixOf rest then 3 else 1
    let inner := cs.drop width
    (if width = 3 then longBody? quote inner else shortBody? quote inner).map fun body =>
      let (raw, bytes, format) := marks
      (.string ⟨raw, bytes, format, body, ⟨pos.line, pos.column + opened + width⟩⟩,
        opened + width + body.length + width)

/-- can an identifier hold the character, so far as its first byte tells? -/
def inWord (c : Char) : Bool := Numeral.joinsWord c

/-- is it a quote of string literals? -/
def isQuote (c : Char) : Bool := c = '"' || c = '\''

/-- an identifier or a keyword; a word beyond ASCII must be an identifier -/
def wordLexeme? (word : List Char) : Option Lexeme :=
  match Word.ofSpelling? (String.ofList word) with
  | some w => some (.word w)
  | none =>
    let plain := word.all (·.toNat < 128)
    if plain || isIdentifier word then some (.name (String.ofList (normalForm word)) plain)
      else none

/-- the lexeme at the start of a text that starts at `pos`, and its length -/
def lexeme? (pos : Position) (cs : List Char) : Option (Lexeme × Nat) :=
  match cs with
  | [] => none
  | c :: rest =>
    if c.isDigit || (c = '.' && (rest.headD ' ').isDigit) then
      (numeral? cs).map fun (length, imaginary) => (.number imaginary, length)
    else if isQuote c then literal? (false, false, false) 0 pos cs
    else if inWord c then
      let word := cs.takeWhile inWord
      let behind := cs.drop word.length
      match if isQuote (behind.headD ' ') then literalMarks? word else none with
      | some marks => literal? marks word.length pos behind
      | none => (wordLexeme? word).map fun l => (l, word.length)
    else (Symbol.ofChars? cs).map fun (s, length) => (.symbol s, length)

/-! ## blocks -/

/-- how far a line is indented: with tabs that reach to the next multiple of eight, and with tabs
that count as one blank; blocks must agree in both -/
structure Indent where
  wide : Nat
  narrow : Nat
  deriving DecidableEq

namespace Indent

/-- no indentation -/
def zero : Indent := ⟨0, 0⟩

/-- the number of blocks that can be open -/
def maxDepth : Nat := 100

/-- closes the blocks that are indented deeper than `new`; it has to meet an open one -/
def close? (new : Indent) : List Indent → Option (List Lexeme × List Indent)
  | [] => none
  | top :: below =>
    if new.wide < top.wide then (close? new below).map fun (ends, left) => (.dedent :: ends, left)
    else if new = top then some ([], top :: below)
    else none

/-- opens or closes blocks for a line indented by `new`; the open blocks stand innermost first -/
def settle? (new : Indent) (blocks : List Indent) : Option (List Lexeme × List Indent) :=
  match blocks with
  | [] => none
  | top :: _ =>
    if top.wide < new.wide then
      if blocks.length < maxDepth && top.narrow < new.narrow then some ([.indent], new :: blocks)
      else none
    else close? new blocks

end Indent

/-- measures the indentation of a line and goes behind it. A form feed starts the count anew; a line
continued in its indentation is indented as far as its first part, where that is indented at all. -/
def margin? (indent : Indent) (continued : Nat) (pos : Position) :
    List Char → Option (Indent × Cursor)
  | ' ' :: cs => margin? ⟨indent.wide + 1, indent.narrow + 1⟩ continued (pos.after ' ') cs
  | '\t' :: cs =>
    margin? ⟨(indent.wide / 8 + 1) * 8, indent.narrow + 1⟩ continued (pos.after '\t') cs
  | '\x0c' :: cs => margin? .zero continued (pos.after '\x0c') cs
  | '\\' :: '\n' :: c :: cs =>
    margin? indent (if continued = 0 then indent.wide else continued) (pos.after '\n') (c :: cs)
  | '\\' :: _ => none
  | cs => some (if continued = 0 then indent else ⟨continued, continued⟩, ⟨cs, pos⟩)

/-! ## the whole text -/

/-- where the scan stands -/
structure Scan where
  /-- at the start of a line, outside of brackets -/
  fresh : Bool
  /-- the closing brackets that are due, innermost first -/
  due : List Symbol
  /-- the open blocks, innermost first -/
  blocks : List Indent
  cur : Cursor

namespace Scan

/-- the number of brackets that can be open -/
def maxBrackets : Nat := 200

/-- a blank inside a line -/
def isSpace (c : Char) : Bool := c = ' ' || c = '\t' || c = '\x0c'

/-- opens or closes a bracket -/
def bracket? (s : Symbol) (due : List Symbol) : Option (List Symbol) :=
  match s.closing? with
  | some close => if due.length < maxBrackets then some (close :: due) else none
  | none =>
    if s.isClosing then
      match due with
      | [] => none
      | top :: below => if s = top then some below else none
    else some due

/-- the start of a line: blank lines are passed over, others open and close blocks -/
def freshStep? (s : Scan) : Option (List Token × Scan) := do
  let (indent, cur) ← margin? .zero 0 s.cur.pos s.cur.rest
  match cur.rest with
  | '#' :: _ => return ([], { s with cur := (cur.dropWhile (· != '\n')).skip 1 })
  | '\n' :: _ => return ([], { s with cur := cur.skip 1 })
  | _ =>
    let (lexemes, blocks) ← indent.settle? s.blocks
    return (lexemes.map (⟨cur.pos, ·⟩), { s with fresh := false, blocks := blocks, cur := cur })

/-- the next token of a line, or what stands between tokens -/
def lineStep? (s : Scan) : Option (List Token × Scan) :=
  let cur := s.cur.dropWhile isSpace
  match cur.rest with
  | [] => none
  | '#' :: _ => some ([], { s with cur := cur.dropWhile (· != '\n') })
  | '\n' :: _ =>
    if s.due.isEmpty then some ([⟨cur.pos, .newline⟩], { s with fresh := true, cur := cur.skip 1 })
    else some ([], { s with cur := cur.skip 1 })
  | '\\' :: '\n' :: _ :: _ => some ([], { s with cur := cur.skip 2 })
  | '\\' :: _ => none
  | rest => do
    let (lexeme, length) ← lexeme? cur.pos rest
    let next := cur.skip length
    match lexeme with
    | .symbol b => return ([⟨cur.pos, lexeme⟩], { s with due := (← bracket? b s.due), cur := next })
    | _ => return ([⟨cur.pos, lexeme⟩], { s with cur := next })

/-- has the scan come to the end of the text? -/
def atEnd (s : Scan) : Bool := (s.cur.dropWhile isSpace).rest.isEmpty && !s.fresh

end Scan

/-- the tokens from a scan on; `found` are those before it, in reverse. Every step but the start of
a line consumes a character, so twice the length of the text is enough fuel. -/
def scan : (fuel : Nat) → Scan → (found : List Token) → Option (List Token)
  | 0, _, _ => none
  | fuel + 1, s, found =>
    if s.atEnd then
      if s.due.isEmpty then some found.reverse else none
    else do
      let (tokens, next) ← if s.fresh then s.freshStep? else s.lineStep?
      scan fuel next (tokens.reverse ++ found)

/-- a text with one line feed for each line break, whose last line ends; behind a CR LF at the very
end of the text comes one more line, which is empty -/
def fullLines (cs : List Char) : List Char :=
  let lines := unifyNewlines cs
  let further := ['\r', '\n'].isSuffixOf cs
  if lines.getLast? = some '\n' && !further then lines else lines ++ ['\n']

/-- the tokens of a text as it stands -/
def textTokens? (cs : List Char) : Option (List Token) :=
  let cs := unifyNewlines cs
  scan (2 * cs.length + 3) ⟨true, [], [.zero], ⟨cs, .start⟩⟩ []

/-- the tokens of a source text, whose last line always ends -/
def tokens? (cs : List Char) : Option (List Token) :=
  textTokens? (fullLines cs)

/-- a token of an expression in round brackets that starts at `start`, where the brackets count as
the start of a line of their own: a literal that begins on their line and ends on a later one has
its column counted from the opening bracket, and any other token has the column of the surrounding
text -/
def Token.within (start : Position) (t : Token) : Token :=
  match t.lexeme with
  | .string l =>
    if t.pos.line = start.line && l.body.contains '\n' then
      let inner (p : Position) : Position := ⟨p.line, 1 + (p.column - start.column)⟩
      ⟨inner t.pos, .string { l with bodyPos := inner l.bodyPos }⟩
    else t
  | _ => t

/-- the tokens of an expression in round brackets, brackets included; `cur` holds the text between
them and the place where it starts -/
def tokensWithin? (cur : Cursor) : Option (List Token) :=
  let cs := cur.rest ++ [')']
  (scan (2 * cs.length + 3) ⟨false, [.rpar], [.zero], ⟨cs, cur.pos⟩⟩
    [⟨cur.pos, .symbol .lpar⟩]).map (·.map (Token.within cur.pos))

end Archetype.Code
