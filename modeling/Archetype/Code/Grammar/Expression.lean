import Archetype.Code.Escape
import Archetype.Code.Field
import Archetype.Code.Grammar.Parameters
import Archetype.Code.Grammar.Target
import Archetype.Code.Lexer
import Archetype.Code.Parser
import Archetype.Code.Tree

/-!
# The grammar of expressions

Each function reads one kind of expression from the front of a row of tokens. What stands inside
brackets, or behind a keyword that takes a whole expression, is read by the parsers of a `Grammar`,
which is given; `grammar` ties the knot. Its argument bounds the depth of brackets and the length of
rows, and `parseFuel` is more than a text of a given length needs.

* `conditional`, `namedExpression`, `starExpressions`   expressions by where they may stand;
* `disjunction` down to `atom`                          expressions by how closely they bind;
* `starTargets`                                         what a loop assigns to;
* `strings`, `fields`                                   string literals and the fields of format
                                                        literals.
-/

namespace Archetype.Code

open Archetype.Code.Parser

/-- the parsers that stand for inner expressions -/
structure Grammar where
  expression : Parser Expr
  disjunction : Parser Expr
  /-- the loosest operand of a comparison -/
  operand : Parser Expr
  primary : Parser Expr

/-! ## what comes next -/

/-- takes a comparison operator if one is next -/
def comparisonOperator : Parser Bool := do
  match ← peek, ← peekSecond with
  | some (.symbol s), _ =>
    match s with
    | .equal | .notEqual | .less | .lessEqual | .greater | .greaterEqual =>
      skip
      return true
    | _ => return false
  | some (.word .in_), _ =>
    skip
    return true
  | some (.word .not_), some (.word .in_) =>
    skip
    skip
    return true
  | some (.word .is_), second =>
    skip
    if second = some (.word .not_) then skip
    return true
  | _, _ => return false

/-- does a clause of a comprehension come next? -/
def seesClause : Parser Bool := do
  match ← peek, ← peekSecond with
  | some (.word .for_), _ => return true
  | some (.word .async_), some (.word .for_) => return true
  | _, _ => return false

/-- is a name with `:=` behind it next? -/
def seesWalrus : Parser Bool := do
  match ← peek, ← peekSecond with
  | some (.name _ _), some (.symbol .walrus) => return true
  | _, _ => return false

/-- is it a starred expression? -/
def Expr.isStarred : Expr → Bool
  | .starred _ _ => true
  | _ => false

/-! ## rows of expressions -/

/-- `name := value`, or an expression -/
def namedExpression (g : Grammar) : Parser Expr := do
  if ← seesWalrus then
    let start ← here
    let id ← identifier
    skip
    return .named start (.name start id) (← g.expression)
  else g.expression

/-- `*value`, or what `plain` reads -/
def starOr (g : Grammar) (plain : Parser Expr) : Parser Expr := do
  let start ← here
  if ← acceptSymbol .star then return .starred start (← g.operand) else plain

/-- an item of a display -/
def item (g : Grammar) : Parser Expr := starOr g (namedExpression g)

/-- a row that makes a tuple if there is a comma in it -/
def tupleOr (start : Position) : List Expr × Bool → Expr
  | ([e], false) => e
  | (es, _) => .row start .tuple es

/-- one or more expressions, which make a tuple if there is a comma; stars are allowed -/
def starExpressions (g : Grammar) (n : Nat) : Parser Expr := do
  let start ← here
  return tupleOr start (← commaSeparated startsExpression (starOr g g.expression) n)

/-- `yield` and what it gives -/
def yieldExpression (g : Grammar) (n : Nat) : Parser Expr := do
  let start ← here
  expectWord .yield_
  if ← acceptWord .from_ then return .other start [← g.expression]
  else if startsExpression (← peek) then return .other start [← starExpressions g n]
  else return .other start []

/-! ## targets and clauses -/

/-- one target, perhaps with a star before it -/
def starTarget (g : Grammar) : Parser Expr := do
  let start ← here
  let starred ← acceptSymbol .star
  let target ← g.primary
  require target.isTarget
  return if starred then .starred start target else target

/-- what a loop assigns to: one target, or several that make a tuple -/
def starTargets (g : Grammar) (n : Nat) : Parser Expr := do
  let start ← here
  return tupleOr start (← commaSeparated startsExpression (starTarget g) n)

/-- a clause of a comprehension, if one is next -/
def clause (g : Grammar) (n : Nat) : Parser (Option Clause) := do
  if ← seesClause then
    let _ ← acceptWord .async_
    expectWord .for_
    let target ← starTargets g n
    expectWord .in_
    let iter ← g.disjunction
    let conditions ← many
      (do if ← acceptWord .if_ then return some (← g.disjunction) else return none) n
    return some (.mk target iter conditions)
  else return none

/-- the clauses of a comprehension -/
def clauses (g : Grammar) (n : Nat) : Parser (List Clause) := many (clause g n) n

/-! ## parameters and arguments -/

/-- a type hint, if hints are allowed and there is one -/
def typeHint (g : Grammar) (hinted starred : Bool) : Parser (Option Expr) := do
  if !hinted then return none
  else if ← acceptSymbol .colon then
    if starred then return some (← starOr g g.expression) else return some (← g.expression)
  else return none

/-- one part of a parameter list -/
def parameterPart (g : Grammar) (hinted : Bool) : Parser ParameterPart := do
  if ← acceptSymbol .slash then return .slash
  else if ← acceptSymbol .doubleStar then
    let _ ← identifier
    return .names (← typeHint g hinted false)
  else if ← acceptSymbol .star then
    if ← seesSymbol .comma then return .star
    else
      let _ ← identifier
      return .rest (← typeHint g hinted true)
  else
    let _ ← identifier
    let hint ← typeHint g hinted false
    if ← acceptSymbol .assign then return .plain hint (some (← g.expression))
    else return .plain hint none

/-- a parameter list; with type hints it ends at a closing bracket, without them at a colon -/
def parameters (g : Grammar) (hinted : Bool) (n : Nat) : Parser (List Parameter) := do
  let close := Lexeme.symbol (if hinted then .rpar else .colon)
  if ← sees close then return []
  else
    let (parts, _) ← commaSeparated (· != some close) (parameterPart g hinted) n
    match ParameterPart.arrange? parts with
    | some parameters => return parameters
    | none => failure

/-- how the arguments of a call go on: by place, behind one by name, or behind `**` -/
inductive ArgumentMode where
  | places
  | names
  | spreads
  deriving DecidableEq

/-- one argument, and how the arguments go on behind it -/
def argument (g : Grammar) (mode : ArgumentMode) :
    Parser (List Expr × List Keyword × ArgumentMode) := do
  let start ← here
  if ← acceptSymbol .doubleStar then return ([], [.mk none (← g.expression)], .spreads)
  else if ← acceptSymbol .star then
    require (mode != .spreads)
    return ([.starred start (← g.expression)], [], mode)
  else
    match ← peek, ← peekSecond with
    | some (.name id _), some (.symbol .assign) =>
      skip
      skip
      return ([], [.mk (some id) (← g.expression)], if mode = .places then .names else mode)
    | _, _ =>
      require (mode = .places)
      return ([← namedExpression g], [], mode)

/-- the arguments of a call up to the closing bracket -/
def argumentList (g : Grammar) : (fuel : Nat) → ArgumentMode → Parser (List Expr × List Keyword)
  | 0, _ => failure
  | n + 1, mode => do
    if ← acceptSymbol .rpar then return ([], [])
    else
      let (args, keywords, next) ← argument g mode
      if ← acceptSymbol .comma then
        let (moreArgs, moreKeywords) ← argumentList g n next
        return (args ++ moreArgs, keywords ++ moreKeywords)
      else
        expectSymbol .rpar
        return (args, keywords)

/-- the arguments of a call with their brackets; a generator may stand alone in them if
`generator` -/
def arguments (g : Grammar) (generator : Bool) (n : Nat) : Parser (List Expr × List Keyword) := do
  let start ← here
  expectSymbol .lpar
  if ← acceptSymbol .rpar then return ([], [])
  else
    let (args, keywords, next) ← argument g .places
    if ← acceptSymbol .comma then
      let (moreArgs, moreKeywords) ← argumentList g n next
      return (args ++ moreArgs, keywords ++ moreKeywords)
    else
      match args, generator && (← seesClause) with
      | [e], true =>
        require !e.isStarred
        let clauses ← clauses g n
        expectSymbol .rpar
        return ([.comprehension start [e] clauses], [])
      | _, _ =>
        expectSymbol .rpar
        return (args, keywords)

/-! ## subscripts -/

/-- an end of a range, which may be missing -/
def bound (g : Grammar) : Parser (List Expr) := do
  let l ← peek
  if startsExpression l && l != some (.symbol .star) then return [← g.expression] else return []

/-- one subscript: a range, a starred expression or an expression -/
def slice (g : Grammar) : Parser Expr := do
  let start ← here
  if ← acceptSymbol .star then return .starred start (← g.expression)
  else if ← seesWalrus then namedExpression g
  else
    let lower ← bound g
    if ← acceptSymbol .colon then
      let upper ← bound g
      let step ← if ← acceptSymbol .colon then bound g else pure []
      return .other start (lower ++ upper ++ step)
    else
      match lower with
      | [e] => return e
      | _ => failure

/-- what stands between square brackets behind an expression; a starred one makes a tuple -/
def slices (g : Grammar) (n : Nat) : Parser Expr := do
  let start ← here
  let starts := fun l => startsExpression l || l = some (.symbol .colon)
  let (items, trailing) ← commaSeparated starts (slice g) n
  return tupleOr start (items, trailing || items.any Expr.isStarred)

/-! ## string literals -/

/-- string literals one after the other -/
def literals : (fuel : Nat) → Parser (List Literal) :=
  many do
    match ← peek with
    | some (.string literal) =>
      skip
      return some literal
    | _ => return none

/-- the value of a literal that is neither bytes nor a format -/
def Literal.value? (l : Literal) : Option Text.CodePoints :=
  if l.raw then some (.ofChars l.body) else unescape? l.body

/-- the expression of a field, which is read as if it stood in round brackets; `brackets` reads
those -/
def fieldValue? (brackets : Parser Expr) (text : List Char) (pos : Position) : Option Expr := do
  if text.all Field.isFieldBlank then none
  else
    let tokens ← tokensWithin? ⟨text, pos⟩
    let (value, rest) ← brackets.run tokens
    if rest.isEmpty then some value else none

/-- the number of fields that can stand inside each other -/
def maxFieldDepth : Nat := 2

/-- the fields of a text, up to its end or, inside a field, to the brace that closes that. Each is
known by its expression and by the fields of its format; fields stand in formats, but not in the
formats of those. -/
def fields (brackets : Parser Expr) (raw : Bool) : (fuel depth : Nat) → Cursor →
    Option (List Expr × Cursor)
  | 0, _, _ => none
  | n + 1, depth, cur => do
    let (text, stop, cur) ← Field.literalRun? raw (depth == 0) [] false cur.pos cur.rest
    if !raw && (unescape? text).isNone then none
    else
      match stop with
      | .done => some ([], cur)
      | .doubled => fields brackets raw n depth cur
      | .field =>
        if maxFieldDepth ≤ depth then none
        let (text, behind) ← Field.expressionRun? (cur.skip 1)
        let value ← fieldValue? brackets text (cur.skip 1).pos
        let sign ← Field.skipConversion? (Field.skipEquals behind)
        let (operands, close) ←
          match sign.rest with
          | ':' :: _ =>
            (fields brackets raw n (depth + 1) (sign.skip 1)).map fun (inner, close) =>
              ([value, .other cur.pos inner], close)
          | _ => some ([value], sign)
        match close.rest with
        | '\x7d' :: _ =>
          let (more, last) ← fields brackets raw n depth (close.skip 1)
          some (.other cur.pos operands :: more, last)
        | _ => none

/-- the fields of a literal; only a format literal has any -/
def literalFields? (brackets : Parser Expr) (n : Nat) (l : Literal) : Option (List Expr) :=
  if l.format then do
    let (found, cur) ← fields brackets l.raw n 0 ⟨l.body, l.bodyPos⟩
    if cur.rest.isEmpty then some found else none
  else l.value?.map fun _ => []

/-- string literals one after the other make one constant; with a format literal among them they are
known by their fields -/
def strings (brackets : Parser Expr) (n : Nat) : Parser Expr := do
  let start ← here
  let ls ← literals n
  require (ls.all (·.bytes) || ls.all (!·.bytes))
  if ls.any (·.bytes) then
    require (ls.all fun l => bytesLegal l.raw l.body)
    return .other start []
  else if ls.any (·.format) then
    match ls.mapM (literalFields? brackets n) with
    | some parts => return .other start parts.flatten
    | none => failure
  else
    match ls.mapM Literal.value? with
    | some values => return .str start values.flatten
    | none => failure

/-! ## brackets -/

/-- a tuple, a generator, or an expression in round brackets -/
def roundBrackets (g : Grammar) (n : Nat) : Parser Expr := do
  let start ← here
  expectSymbol .lpar
  if ← acceptSymbol .rpar then return .row start .tuple []
  else if ← seesWord .yield_ then
    let e ← yieldExpression g n
    expectSymbol .rpar
    return e
  else
    let (items, trailing) ← commaSeparated startsExpression (item g) n
    match items, trailing with
    | [e], false =>
      require !e.isStarred
      if ← seesClause then
        let clauses ← clauses g n
        expectSymbol .rpar
        return .comprehension start [e] clauses
      else
        expectSymbol .rpar
        return e
    | _, _ =>
      expectSymbol .rpar
      return .row start .tuple items

/-- a list or set display, or a comprehension, from behind its first item up to the closing
bracket -/
def displayRest (g : Grammar) (n : Nat) (start : Position) (kind : Row) (close : Symbol)
    (first : Expr) :
    Parser Expr := do
  if ← seesClause then
    require !first.isStarred
    let clauses ← clauses g n
    expectSymbol close
    return .comprehension start [first] clauses
  else
    let (items, _) ← commaRest startsExpression (item g) n
    expectSymbol close
    return .row start kind (first :: items)

/-- a list display or comprehension -/
def squareBrackets (g : Grammar) (n : Nat) : Parser Expr := do
  let start ← here
  expectSymbol .lsqb
  if ← acceptSymbol .rsqb then return .row start .list []
  else displayRest g n start .list .rsqb (← item g)

/-- one entry of a dictionary display -/
def entry (g : Grammar) : Parser Entry := do
  if ← acceptSymbol .doubleStar then return .spread (← g.operand)
  else
    let key ← g.expression
    expectSymbol .colon
    return .pair key (← g.expression)

/-- a dictionary display from behind its first entry up to the closing brace -/
def dictRest (g : Grammar) (n : Nat) (start : Position) (first : Entry) : Parser Expr := do
  let starts := fun l => startsExpression l || l = some (.symbol .doubleStar)
  let (entries, _) ← commaRest starts (entry g) n
  expectSymbol .rbrace
  return .dict start (first :: entries)

/-- a dictionary or set display or comprehension -/
def braces (g : Grammar) (n : Nat) : Parser Expr := do
  let start ← here
  expectSymbol .lbrace
  if ← acceptSymbol .rbrace then return .dict start []
  else if ← acceptSymbol .doubleStar then dictRest g n start (.spread (← g.operand))
  else
    let plain := !(← seesWalrus) && !(← seesSymbol .star)
    let first ← item g
    if plain && (← acceptSymbol .colon) then
      let value ← g.expression
      if ← seesClause then
        let clauses ← clauses g n
        expectSymbol .rbrace
        return .comprehension start [first, value] clauses
      else dictRest g n start (.pair first value)
    else displayRest g n start .set .rbrace first

/-! ## from atoms to conditional expressions -/

/-- names, constants, and what stands in brackets -/
def atom (g : Grammar) (n : Nat) : Parser Expr := do
  let start ← here
  match ← peek with
  | some (.name id _) =>
    skip
    return .name start id
  | some (.number _) | some (.symbol .ellipsis) | some (.word .none_) | some (.word .true_)
  | some (.word .false_) =>
    skip
    return .other start []
  | some (.string _) => strings (roundBrackets g n) n
  | some (.symbol .lpar) => roundBrackets g n
  | some (.symbol .lsqb) => squareBrackets g n
  | some (.symbol .lbrace) => braces g n
  | _ => failure

/-- goes on behind a primary expression -/
def trailers (g : Grammar) : (fuel : Nat) → Position → Expr → Parser Expr
  | 0, _, _ => failure
  | n + 1, start, e => do
    match ← peek with
    | some (.symbol .dot) =>
      skip
      trailers g n start (.member start e (← identifier))
    | some (.symbol .lpar) =>
      let (args, keywords) ← arguments g true n
      trailers g n start (.call start e args keywords)
    | some (.symbol .lsqb) =>
      skip
      let index ← slices g n
      expectSymbol .rsqb
      trailers g n start (.subscript start e index)
    | _ => return e

/-- an atom with members, calls and subscripts behind it -/
def primary (g : Grammar) (n : Nat) : Parser Expr := do
  let start ← here
  trailers g n start (← atom g n)

/-- `await` and its operand, or a primary expression -/
def awaited (g : Grammar) (n : Nat) : Parser Expr := do
  let start ← here
  if ← acceptWord .await_ then return .other start [← primary g n] else primary g n

/-- a sign and its operand, or a power; the exponent can have a sign -/
def factor (base : Parser Expr) : (fuel : Nat) → Parser Expr
  | 0 => failure
  | n + 1 => do
    let start ← here
    match ← peek with
    | some (.symbol .plus) | some (.symbol .minus) | some (.symbol .tilde) =>
      skip
      return .other start [← factor base n]
    | _ =>
      let e ← base
      if ← acceptSymbol .doubleStar then return .other start [e, ← factor base n] else return e

/-- goes on behind the left operand of binary operators -/
def binaryTail (operators : List Symbol) (operand : Parser Expr) :
    (fuel : Nat) → Position → Expr → Parser Expr
  | 0, _, _ => failure
  | n + 1, start, left => do
    match ← peek with
    | some (.symbol s) =>
      if operators.contains s then
        skip
        binaryTail operators operand n start (.other start [left, ← operand])
      else return left
    | _ => return left

/-- operands of binary operators of one tightness, taken from the left -/
def binary (operators : List Symbol) (operand : Parser Expr) (n : Nat) : Parser Expr := do
  let start ← here
  binaryTail operators operand n start (← operand)

/-- arithmetic: operands of all binary operators -/
def operand (g : Grammar) (n : Nat) : Parser Expr :=
  let term := binary [.star, .slash, .doubleSlash, .percent, .at_] (factor (awaited g n) n) n
  let sum := binary [.plus, .minus] term n
  let shift := binary [.leftShift, .rightShift] sum n
  binary [.bar] (binary [.caret] (binary [.amp] shift n) n) n

/-- an expression of one operand, or of several that belong together -/
def joined (start : Position) (first : Expr) (more : List Expr) : Expr :=
  if more.isEmpty then first else .other start (first :: more)

/-- operands of comparisons -/
def comparison (operand : Parser Expr) (n : Nat) : Parser Expr := do
  let start ← here
  let first ← operand
  let more ← many (do if ← comparisonOperator then return some (← operand) else return none) n
  return joined start first more

/-- `not` and its operand -/
def inversion (comparison : Parser Expr) : (fuel : Nat) → Parser Expr
  | 0 => failure
  | n + 1 => do
    let start ← here
    if ← acceptWord .not_ then return .other start [← inversion comparison n] else comparison

/-- operands of `and` or of `or` -/
def connected (word : Word) (operand : Parser Expr) (n : Nat) : Parser Expr := do
  let start ← here
  let first ← operand
  let more ← many (do if ← acceptWord word then return some (← operand) else return none) n
  return joined start first more

/-- operands of `or`, of `and`, of `not` and of comparisons -/
def disjunction (g : Grammar) (n : Nat) : Parser Expr :=
  connected .or_ (connected .and_ (inversion (comparison (operand g n) n) n) n) n

/-- a conditional expression, a function without name, or anything closer -/
def conditional (g : Grammar) (n : Nat) : Parser Expr := do
  let start ← here
  if ← acceptWord .lambda_ then
    let parameters ← parameters g false n
    expectSymbol .colon
    return .lambda start parameters (← g.expression)
  else
    let value ← disjunction g n
    if ← acceptWord .if_ then
      let test ← g.disjunction
      expectWord .else_
      return .other start [test, value, ← g.expression]
    else return value

/-! ## the whole grammar -/

/-- the grammar of expressions whose brackets and keywords stand inside each other at most `fuel`
deep -/
def grammar : (fuel : Nat) → Grammar
  | 0 => ⟨failure, failure, failure, failure⟩
  | n + 1 =>
    let g := grammar n
    ⟨conditional g n, disjunction g n, operand g n, primary g n⟩

/-- more depth and length than a text of `length` characters needs -/
def parseFuel (length : Nat) : Nat := 2 * (length + 4)

/-- one or more expressions without stars, which make a tuple if there is a comma -/
def expressions (g : Grammar) (n : Nat) : Parser Expr := do
  let start ← here
  let starts := fun l => startsExpression l && l != some (.symbol .star)
  return tupleOr start (← commaSeparated starts g.expression n)

/-- a text that is one expression, with nothing behind it but ends of lines -/
def parseExpression? (cs : List Char) : Option Expr := do
  let tokens ← textTokens? cs
  let fuel := parseFuel cs.length
  let (e, rest) ← (expressions (grammar fuel) fuel).run tokens
  if rest.all (·.lexeme == .newline) then some e else none

end Archetype.Code
