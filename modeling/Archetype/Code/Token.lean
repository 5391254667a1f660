import Archetype.Code.Position

/-!
# Tokens of Python source

* `Word`      the keywords;
* `Symbol`    operators and delimiters;
* `Literal`   a string literal as it is written;
* `Lexeme`    what a token is;
* `Token`     a lexeme and the position of its first character.
-/

namespace Archetype.Code

/-- the keywords; words such as `match` that are keywords only in some places are names -/
inductive Word where
  | false_ | none_ | true_ | and_ | as_ | assert_ | async_ | await_ | break_ | class_ | continue_
  | def_ | del_ | elif_ | else_ | except_ | finally_ | for_ | from_ | global_ | if_ | import_ | in_
  | is_ | lambda_ | nonlocal_ | not_ | or_ | pass_ | raise_ | return_ | try_ | while_ | with_
  | yield_
  deriving DecidableEq

namespace Word

/-- the keywords and their spelling -/
def spellings : List (String × Word) :=
  [("False", false_), ("None", none_), ("True", true_), ("and", and_), ("as", as_),
    ("assert", assert_), ("async", async_), ("await", await_), ("break", break_), ("class", class_),
    ("continue", continue_), ("def", def_), ("del", del_), ("elif", elif_), ("else", else_),
    ("except", except_), ("finally", finally_), ("for", for_), ("from", from_), ("global", global_),
    ("if", if_), ("import", import_), ("in", in_), ("is", is_), ("lambda", lambda_),
    ("nonlocal", nonlocal_), ("not", not_), ("or", or_), ("pass", pass_), ("raise", raise_),
    ("return", return_), ("try", try_), ("while", while_), ("with", with_), ("yield", yield_)]

/-- the keyword with a spelling -/
def ofSpelling? (s : String) : Option Word := spellings.lookup s

end Word

/-- operators and delimiters -/
inductive Symbol where
  | lpar | rpar | lsqb | rsqb | lbrace | rbrace
  | comma | colon | semicolon | dot | ellipsis | arrow | walrus | assign
  | plus | minus | star | slash | doubleSlash | percent | at_ | doubleStar
  | bar | caret | amp | tilde | leftShift | rightShift
  | equal | notEqual | less | lessEqual | greater | greaterEqual
  /-- an operator that also assigns, such as `+=` -/
  | augmented
  deriving DecidableEq

namespace Symbol

/-- the bracket that closes an opening one -/
def closing? : Symbol → Option Symbol
  | lpar => some rpar
  | lsqb => some rsqb
  | lbrace => some rbrace
  | _ => none

/-- is it a closing bracket? -/
def isClosing : Symbol → Bool
  | rpar | rsqb | rbrace => true
  | _ => false

/-- the longest operator or delimiter at the start of a text, and its length -/
def ofChars? : List Char → Option (Symbol × Nat)
  | '*' :: '*' :: '=' :: _ => some (augmented, 3)
  | '/' :: '/' :: '=' :: _ => some (augmented, 3)
  | '<' :: '<' :: '=' :: _ => some (augmented, 3)
  | '>' :: '>' :: '=' :: _ => some (augmented, 3)
  | '.' :: '.' :: '.' :: _ => some (ellipsis, 3)
  | '*' :: '*' :: _ => some (doubleStar, 2)
  | '/' :: '/' :: _ => some (doubleSlash, 2)
  | '<' :: '<' :: _ => some (leftShift, 2)
  | '>' :: '>' :: _ => some (rightShift, 2)
  | '+' :: '=' :: _ => some (augmented, 2)
  | '-' :: '=' :: _ => some (augmented, 2)
  | '*' :: '=' :: _ => some (augmented, 2)
  | '/' :: '=' :: _ => some (augmented, 2)
  | '%' :: '=' :: _ => some (augmented, 2)
  | '@' :: '=' :: _ => some (augmented, 2)
  | '&' :: '=' :: _ => some (augmented, 2)
  | '|' :: '=' :: _ => some (augmented, 2)
  | '^' :: '=' :: _ => some (augmented, 2)
  | '-' :: '>' :: _ => some (arrow, 2)
  | ':' :: '=' :: _ => some (walrus, 2)
  | '=' :: '=' :: _ => some (equal, 2)
  | '!' :: '=' :: _ => some (notEqual, 2)
  | '<' :: '=' :: _ => some (lessEqual, 2)
  | '>' :: '=' :: _ => some (greaterEqual, 2)
  | '<' :: '>' :: _ => none
  | '(' :: _ => some (lpar, 1)
  | ')' :: _ => some (rpar, 1)
  | '[' :: _ => some (lsqb, 1)
  | ']' :: _ => some (rsqb, 1)
  | '\x7b' :: _ => some (lbrace, 1)
  | '\x7d' :: _ => some (rbrace, 1)
  | ',' :: _ => some (comma, 1)
  | ':' :: _ => some (colon, 1)
  | ';' :: _ => some (semicolon, 1)
  | '.' :: _ => some (dot, 1)
  | '=' :: _ => some (assign, 1)
  | '+' :: _ => some (plus, 1)
  | '-' :: _ => some (minus, 1)
  | '*' :: _ => some (star, 1)
  | '/' :: _ => some (slash, 1)
  | '%' :: _ => some (percent, 1)
  | '@' :: _ => some (at_, 1)
  | '|' :: _ => some (bar, 1)
  | '^' :: _ => some (caret, 1)
  | '&' :: _ => some (amp, 1)
  | '~' :: _ => some (tilde, 1)
  | '<' :: _ => some (less, 1)
  | '>' :: _ => some (greater, 1)
  | _ => none

end Symbol

/-- a string literal: its marks `r`, `b` and `f`, the characters between its quotes, and the place
of the first of them -/
structure Literal where
  raw : Bool
  bytes : Bool
  format : Bool
  body : List Char
  bodyPos : Position
  deriving DecidableEq

/-- what a token is -/
inductive Lexeme where
  /-- an identifier in normal form; `plain` if it is spelled in ASCII, as it then stands in the
  text -/
  | name (id : String) (plain : Bool)
  | word (w : Word)
  | number (imaginary : Bool)
  | string (literal : Literal)
  | symbol (s : Symbol)
  /-- the end of a logical line -/
  | newline
  /-- the start of a deeper block -/
  | indent
  /-- the end of a block -/
  | dedent
  deriving DecidableEq

/-- a lexeme and where it starts -/
structure Token where
  pos : Position
  lexeme : Lexeme
  deriving DecidableEq

end Archetype.Code
