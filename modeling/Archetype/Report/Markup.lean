import Archetype.Code.Grammar.Expression
import Archetype.Report.Style
import Archetype.Text.Identifier
import Archetype.Text.Quoted

/-!
# Texts with tags

A tag in brackets, such as `[bold]`, says how the text behind it is written, up to the tag that
closes it, `[/bold]` or just `[/]`. Tags are not shown. A backslash before a tag makes it text, and
two backslashes stand for one there. A tag need not be closed, but one that closes must find the tag
that it closes.

* `pieces`         a text cut at its tags;
* `unmark`         the pieces of text between the tags, if the tags fit;
* `MarkupError`    why tags do not fit.
-/

namespace Archetype.Report

/-! ## cutting -/

/-- a piece of text, or a tag with the place of its bracket -/
inductive Piece where
  | text (cs : List Char)
  | tag (position : Nat) (body : List Char)
  deriving DecidableEq, Repr

/-- can a tag begin with the character? -/
def startsTag (c : Char) : Bool := ('a' ≤ c && c ≤ 'z') || c = '#' || c = '/' || c = '@'

/-- the text in brackets and the text after them, if the brackets, of which the first is read, hold
a tag -/
def tag? (cs : List Char) : Option (List Char × List Char) :=
  let body := cs.takeWhile fun c => c != '[' && c != ']'
  match body, cs.drop body.length with
  | c :: _, ']' :: rest => if startsTag c then some (body, rest) else none
  | _, _ => none

/-- a bracket after backslashes, the last of which is not shown -/
def bareBracket (slashes : List Char) : List Char := slashes.drop 1 ++ ['[']

/-- The pieces of a text from the place `position` on. `piece` is the piece of text so far, from its
end; each round takes at least one character. -/
def piecesFrom (position : Nat) (piece : List Char) : (fuel : Nat) → List Char → List Piece
  | 0, _ | _, [] => [.text piece.reverse]
  | fuel + 1, cs =>
    let slashes := cs.takeWhile (· = '\\')
    let bracket := position + slashes.length
    match cs.drop slashes.length with
    | [] => [.text (piece.reverse ++ slashes)]
    | c :: rest =>
      if c = '[' then
        match tag? rest with
        | none => piecesFrom (bracket + 1) ((bareBracket slashes).reverse ++ piece) fuel rest
        | some (body, after) =>
          let halved := slashes.drop (slashes.length - slashes.length / 2)
          let found : Piece :=
            if slashes.length % 2 = 1 then .text ('[' :: body ++ [']']) else .tag bracket body
          .text piece.reverse :: .text halved :: found
            :: piecesFrom (bracket + body.length + 2) [] fuel after
      else piecesFrom (bracket + 1) (c :: slashes ++ piece) fuel rest

/-- the pieces of a text -/
def pieces (cs : List Char) : List Piece := piecesFrom 0 [] cs.length cs

/-! ## closing -/

/-- why tags do not fit -/
inductive MarkupError where
  /-- a tag closes what is not open -/
  | notOpen (tag : String) (position : Nat)
  /-- a tag closes the last open one, but there is none -/
  | noneOpen (position : Nat)
  /-- the arguments of a handler are no expression -/
  | badArguments (arguments value : String)
  /-- a colour has nothing where a number should be -/
  | noNumber
  deriving DecidableEq, Repr

def MarkupError.message : MarkupError → String
  | notOpen tag position =>
    "closing tag '" ++ tag ++ "' at position " ++ toString position ++ " doesn't match any open tag"
  | noneOpen position =>
    "closing tag '[/]' at position " ++ toString position ++ " has nothing to close"
  | badArguments arguments value =>
    "error parsing " ++ Text.quoted arguments ++ " in " ++ Text.quoted value ++ "; invalid syntax"
  | noNumber => "invalid literal for int() with base 10: ''"

/-- a tag: its name, and the value behind an equals sign -/
structure Tag where
  name : String
  value : Option String

namespace Tag

/-- the tag with a body -/
def ofBody (body : List Char) : Tag :=
  let name := body.takeWhile (· != '=')
  match body.drop name.length with
  | [] => ⟨String.ofList name, none⟩
  | _ :: value => ⟨String.ofList name, some (String.ofList value)⟩

/-- the tag in its brackets -/
def text (t : Tag) : String :=
  "[" ++ t.name ++ ((t.value.map ("=" ++ ·)).getD "") ++ "]"

/-- the name that a tag closes, which may be empty; other tags close none -/
def closes? (t : Tag) : Option String :=
  match t.name.toList with
  | '/' :: name => some (Text.strip (String.ofList name))
  | _ => none

/-- the tag with the normal form of its name -/
def normal (t : Tag) : Except MarkupError Tag :=
  match normalStyle t.name with
  | .ok name => .ok { t with name }
  | .error _ => .error .noNumber

/-- the arguments of a handler: what stands in brackets behind its name, nothing behind a name
alone, and else the whole value -/
def arguments (value : List Char) : List Char :=
  let value := Text.stripRightChars (Text.stripLeftChars value)
  match value.dropWhile fun c => Text.isWordPart c || c == '.' with
  | [] => ['(', ')']
  | rest =>
    if rest.head? == some '(' && rest.getLast? == some ')' && !rest.contains '\n' then rest
    else value

/-- when a tag is closed whose name starts with an at sign, the arguments in its value must be an
expression -/
def check (t : Tag) : Except MarkupError Unit :=
  match t.name.toList, t.value with
  | '@' :: _, some value =>
    let given := arguments value.toList
    if value = ""
        || (Code.parseExpression? (given.dropWhile fun c => c == ' ' || c == '\t')).isSome then
      .ok ()
    else .error (.badArguments (String.ofList given) value)
  | _, _ => .ok ()

end Tag

/-- the innermost tag of a name among open ones, innermost first, and those that stay open -/
def takeTag? (name : String) : List Tag → Option (Tag × List Tag)
  | [] => none
  | t :: ts =>
    if t.name = name then some (t, ts) else (takeTag? name ts).map fun (found, left) =>
      (found, t :: left)

/-- the tags that are open behind a tag -/
def passTag (opened : List Tag) (position : Nat) (t : Tag) : Except MarkupError (List Tag) :=
  match t.closes? with
  | none => do return (← t.normal) :: opened
  | some "" =>
    match opened with
    | [] => .error (.noneOpen position)
    | last :: below => do
      last.check
      return below
  | some name => do
    let closing ← Tag.normal ⟨name, none⟩
    match takeTag? closing.name opened with
    | none => throw (.notOpen t.text position)
    | some (found, left) =>
      found.check
      return left

/-- the texts among pieces, in front of which the tags `opened` are open -/
def textsOf (opened : List Tag) : List Piece → Except MarkupError (List (List Char))
  | [] => .ok []
  | .text cs :: rest => do return cs :: (← textsOf opened rest)
  | .tag position body :: rest => do textsOf (← passTag opened position (Tag.ofBody body)) rest

/-- the pieces of text between the tags -/
def unmark (cs : List Char) : Except MarkupError (List (List Char)) := textsOf [] (pieces cs)

end Archetype.Report
