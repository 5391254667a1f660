import Archetype.Code.Token

/-!
# Reading from a row of tokens

A `Parser` reads a value from the front of a row of tokens and leaves the rest, or fails; of two
parsers tried one after the other, the second starts where the first did.

* `peek`, `here`, `sees`      look at the next token;
* `accept`, `expect`          take a token that may, or must, come next;
* `many`, `commaSeparated`    repeat a parser; `commaRest` goes on behind the first item.
-/

namespace Archetype.Code

/-- reads a value from the front of a row of tokens -/
abbrev Parser (α : Type) := StateT (List Token) Option α

namespace Parser

/-- the next lexeme -/
def peek : Parser (Option Lexeme) := fun ts => some (ts.head?.map Token.lexeme, ts)

/-- the lexeme behind the next -/
def peekSecond : Parser (Option Lexeme) := fun ts => some (ts.tail.head?.map Token.lexeme, ts)

/-- where the next token starts -/
def here : Parser Position := fun ts => some ((ts.head?.map Token.pos).getD .start, ts)

/-- takes the next token -/
def skip : Parser Unit := fun ts => some ((), ts.tail)

/-- is `l` next? -/
def sees (l : Lexeme) : Parser Bool := fun ts => some (ts.head?.map Token.lexeme == some l, ts)

/-- is the symbol next? -/
def seesSymbol (s : Symbol) : Parser Bool := sees (.symbol s)

/-- is the keyword next? -/
def seesWord (w : Word) : Parser Bool := sees (.word w)

/-- takes `l` if it is next -/
def accept (l : Lexeme) : Parser Bool := do
  if ← sees l then
    skip
    return true
  else return false

/-- takes the symbol if it is next -/
def acceptSymbol (s : Symbol) : Parser Bool := accept (.symbol s)

/-- takes the keyword if it is next -/
def acceptWord (w : Word) : Parser Bool := accept (.word w)

/-- takes `l`, which must be next -/
def expect (l : Lexeme) : Parser Unit := do
  if ← accept l then return () else failure

/-- takes the symbol, which must be next -/
def expectSymbol (s : Symbol) : Parser Unit := expect (.symbol s)

/-- takes the keyword, which must be next -/
def expectWord (w : Word) : Parser Unit := expect (.word w)

/-- takes an identifier, which must be next -/
def identifier : Parser String := do
  match ← peek with
  | some (.name id _) =>
    skip
    return id
  | _ => failure

/-- takes a word that is a keyword only where a statement has a place for it, which must be next;
such a word is always spelled in ASCII -/
def expectContextual (word : String) : Parser Unit := expect (.name word true)

/-- fails unless the condition holds -/
def require (b : Bool) : Parser Unit := if b then return () else failure

/-- repeats `step` until it gives nothing -/
def many {α : Type} (step : Parser (Option α)) : (fuel : Nat) → Parser (List α)
  | 0 => failure
  | fuel + 1 => do
    match ← step with
    | none => return []
    | some a => return a :: (← many step fuel)

/-- one or more items with commas between them, and whether a comma follows the last; an item
follows a comma where the next lexeme is one that `starts` an item -/
def commaSeparated {α : Type} (starts : Option Lexeme → Bool) (item : Parser α) :
    (fuel : Nat) → Parser (List α × Bool)
  | 0 => failure
  | fuel + 1 => do
    let a ← item
    if ← acceptSymbol .comma then
      if starts (← peek) then
        let (as, trailing) ← commaSeparated starts item fuel
        return (a :: as, trailing)
      else return ([a], true)
    else return ([a], false)

/-- what follows the first of one or more items with commas between them -/
def commaRest {α : Type} (starts : Option Lexeme → Bool) (item : Parser α) (fuel : Nat) :
    Parser (List α × Bool) := do
  if ← acceptSymbol .comma then
    if starts (← peek) then commaSeparated starts item fuel else return ([], true)
  else return ([], false)

end Parser

/-- can an expression start with the lexeme? A star counts, where starred expressions are
allowed. -/
def startsExpression : Option Lexeme → Bool
  | some (.name _ _) | some (.number _) | some (.string _) => true
  | some (.symbol s) =>
    match s with
    | .lpar | .lsqb | .lbrace | .minus | .plus | .tilde | .ellipsis | .star => true
    | _ => false
  | some (.word w) =>
    match w with
    | .not_ | .lambda_ | .await_ | .none_ | .true_ | .false_ => true
    | _ => false
  | _ => false

end Archetype.Code
