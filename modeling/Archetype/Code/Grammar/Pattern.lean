import Archetype.Code.Grammar.Expression

/-!
# The grammar of patterns

`patterns` reads what stands behind `case`. As with expressions, a pattern inside brackets is read
by a given parser `inner`, and `pattern` ties the knot.
-/

namespace Archetype.Code

open Archetype.Code.Parser

/-- can a pattern start with the lexeme? A star counts, where it is allowed. -/
def startsPattern : Option Lexeme → Bool
  | some (.name _ _) | some (.number _) | some (.string _) => true
  | some (.symbol s) =>
    match s with
    | .lpar | .lsqb | .lbrace | .minus | .star => true
    | _ => false
  | some (.word w) =>
    match w with
    | .none_ | .true_ | .false_ => true
    | _ => false
  | _ => false

/-- a name that a pattern gives: not the underscore, and nothing behind it that would make it a
member, a class or an argument -/
def captureName : Parser String := do
  let id ← identifier
  require (id != "_")
  match ← peek with
  | some (.symbol .dot) | some (.symbol .lpar) | some (.symbol .assign) => failure
  | _ => return id

/-- a number, and whether it is imaginary -/
def numberToken : Parser Bool := do
  match ← peek with
  | some (.number imaginary) =>
    skip
    return imaginary
  | _ => failure

/-- a number with a sign, or the sum of a real and an imaginary one -/
def signedNumber : Parser Unit := do
  let _ ← acceptSymbol .minus
  let imaginary ← numberToken
  let plus ← acceptSymbol .plus
  let minus ← if plus then pure false else acceptSymbol .minus
  if plus || minus then
    require !imaginary
    require (← numberToken)

/-- members behind a name: at least `least` of them -/
def dotted (n : Nat) (least : Nat) : Parser Expr := do
  let start ← here
  let id ← identifier
  let attrs ← many (do if ← acceptSymbol .dot then return some (← identifier) else return none) n
  require (least ≤ attrs.length)
  return attrs.foldl (fun e attr => .member start e attr) (.name start id)

/-- a literal, if one is next: numbers, strings and constants -/
def literalPattern? (g : Grammar) (n : Nat) : Parser (Option Pattern) := do
  let start ← here
  match ← peek with
  | some (.number _) | some (.symbol .minus) =>
    signedNumber
    return some (.value (.other start []))
  | some (.string _) => return some (.value (← strings (roundBrackets g n) n))
  | some (.word .none_) | some (.word .true_) | some (.word .false_) =>
    skip
    return some .constant
  | _ => return none

/-- the key of an entry of a mapping pattern: a literal or a member -/
def mappingKey (g : Grammar) (n : Nat) : Parser Expr := do
  let start ← here
  match ← literalPattern? g n with
  | some (.value e) => return e
  | some _ => return .other start []
  | none => dotted n 1

/-- a part of a sequence pattern, perhaps with a star before it -/
def starPattern (inner : Parser Pattern) : Parser Pattern := do
  if ← acceptSymbol .star then
    match ← peek with
    | some (.name "_" _) =>
      skip
      return .rest none
    | _ => return .rest (some (← captureName))
  else inner

/-- is it the rest of a sequence? -/
def Pattern.isRest : Pattern → Bool
  | .rest _ => true
  | _ => false

/-- a part of a mapping pattern: an entry, or the name of the rest -/
inductive MappingPart where
  | entry (key : Expr) (value : Pattern)
  | rest (name : String)

/-- one part of a mapping pattern -/
def mappingPart (g : Grammar) (n : Nat) (inner : Parser Pattern) : Parser MappingPart := do
  if ← acceptSymbol .doubleStar then return .rest (← captureName)
  else
    let key ← mappingKey g n
    expectSymbol .colon
    return .entry key (← inner)

/-- a mapping pattern of its parts; the rest comes last -/
def mappingOf? : List MappingPart → Option (List Expr × List Pattern × Option String)
  | [] => some ([], [], none)
  | [.rest name] => some ([], [], some name)
  | .rest _ :: _ => none
  | .entry key value :: parts =>
    (mappingOf? parts).map fun (keys, values, rest) => (key :: keys, value :: values, rest)

/-- a mapping pattern from behind its opening brace -/
def mappingPattern (g : Grammar) (n : Nat) (inner : Parser Pattern) : Parser Pattern := do
  if ← acceptSymbol .rbrace then return .mapping [] [] none
  else
    let starts := fun l => l != some (.symbol .rbrace)
    let (parts, _) ← commaSeparated starts (mappingPart g n inner) n
    expectSymbol .rbrace
    match mappingOf? parts with
    | some (keys, values, rest) => return .mapping keys values rest
    | none => failure

/-- an argument of a class pattern, and whether it is by name -/
def recordPart (inner : Parser Pattern) : Parser (Bool × Pattern) := do
  match ← peek, ← peekSecond with
  | some (.name _ _), some (.symbol .assign) =>
    skip
    skip
    return (true, ← inner)
  | _, _ => return (false, ← inner)

/-- a class pattern from behind its opening bracket; arguments by name come last -/
def recordPattern (n : Nat) (inner : Parser Pattern) (cls : Expr) : Parser Pattern := do
  if ← acceptSymbol .rpar then return .record cls [] []
  else
    let (parts, _) ← commaSeparated (· != some (.symbol .rpar)) (recordPart inner) n
    expectSymbol .rpar
    let byPlace := parts.takeWhile (!·.1)
    let byName := parts.drop byPlace.length
    require (byName.all (·.1))
    return .record cls (byPlace.map Prod.snd) (byName.map Prod.snd)

/-- a name, a value or a class: a name alone is given, the underscore alone matches anything -/
def namePattern (n : Nat) (inner : Parser Pattern) : Parser Pattern := do
  match ← peek with
  | some (.name "_" _) =>
    skip
    return .capture none none
  | _ =>
    let e ← dotted n 0
    match e, ← peek with
    | _, some (.symbol .assign) => failure
    | _, some (.symbol .lpar) =>
      skip
      recordPattern n inner e
    | .name _ id, _ => return .capture none (some id)
    | _, _ => return .value e

/-- a pattern in round brackets, or a sequence -/
def roundPattern (n : Nat) (inner : Parser Pattern) : Parser Pattern := do
  expectSymbol .lpar
  if ← acceptSymbol .rpar then return .sequence []
  else
    let (parts, trailing) ← commaSeparated startsPattern (starPattern inner) n
    expectSymbol .rpar
    match parts, trailing with
    | [p], false =>
      require !p.isRest
      return p
    | _, _ => return .sequence parts

/-- a pattern that needs no brackets around it -/
def closedPattern (g : Grammar) (n : Nat) (inner : Parser Pattern) : Parser Pattern := do
  match ← literalPattern? g n with
  | some p => return p
  | none =>
    match ← peek with
    | some (.name _ _) => namePattern n inner
    | some (.symbol .lpar) => roundPattern n inner
    | some (.symbol .lsqb) =>
      skip
      if ← acceptSymbol .rsqb then return .sequence []
      else
        let (parts, _) ← commaSeparated startsPattern (starPattern inner) n
        expectSymbol .rsqb
        return .sequence parts
    | some (.symbol .lbrace) =>
      skip
      mappingPattern g n inner
    | _ => failure

/-- alternatives, and the name that they get -/
def pattern (g : Grammar) : (fuel : Nat) → Parser Pattern
  | 0 => failure
  | n + 1 => do
    let closed := closedPattern g n (pattern g n)
    let first ← closed
    let more ← many (do if ← acceptSymbol .bar then return some (← closed) else return none) n
    let p := if more.isEmpty then first else .choice (first :: more)
    if ← acceptWord .as_ then return .capture (some p) (some (← captureName)) else return p

/-- what stands behind `case`: a pattern, or a sequence without brackets -/
def patterns (g : Grammar) (n : Nat) : Parser Pattern := do
  let (parts, trailing) ← commaSeparated startsPattern (starPattern (pattern g n)) n
  match parts, trailing with
  | [p], false =>
    require !p.isRest
    return p
  | _, _ => return .sequence parts

end Archetype.Code
