import Archetype.Code.Grammar.Pattern

/-!
# The grammar of statements

`parseModule?` reads a whole source text: the statements of a module, or `none` if the text is not a
module. The statements of an inner block are read by a given parser, and `statement` ties the knot.

A statement that starts with the name `match` is a `match` statement if its first line reads as one,
and any other statement otherwise.
-/

namespace Archetype.Code

open Archetype.Code.Parser

/-! ## simple statements -/

/-- what can be assigned: a `yield` expression or expressions -/
def assignedValue (g : Grammar) (n : Nat) : Parser Expr := do
  if ← seesWord .yield_ then yieldExpression g n else starExpressions g n

/-- goes on behind `targets =`: more targets, or the value -/
def assignment (g : Grammar) (start : Position) : (fuel : Nat) → (targets : List Expr) → Parser Stmt
  | 0, _ => failure
  | n + 1, targets => do
    if ← seesWord .yield_ then return .assign start targets (← yieldExpression g n)
    else
      let value ← starExpressions g n
      if ← acceptSymbol .assign then
        require value.isStarTarget
        assignment g start n (targets ++ [value])
      else return .assign start targets value

/-- an assignment of any kind, or expressions -/
def expressionStatement (g : Grammar) (n : Nat) : Parser Stmt := do
  let start ← here
  let e ← starExpressions g n
  match ← peek with
  | some (.symbol .colon) =>
    require e.isSingleTarget
    skip
    let hint ← g.expression
    if ← acceptSymbol .assign then return .declare start e hint (some (← assignedValue g n))
    else return .declare start e hint none
  | some (.symbol .assign) =>
    require e.isStarTarget
    skip
    assignment g start n [e]
  | some (.symbol .augmented) =>
    require e.isSingleTarget
    skip
    return .augment e (← assignedValue g n)
  | _ => return .evaluate [e]

/-- names with dots between them -/
def dottedName (n : Nat) : Parser String := do
  let id ← identifier
  let more ← many (do if ← acceptSymbol .dot then return some (← identifier) else return none) n
  return Text.joinWith "." (id :: more)

/-- the name behind `as`, if there is one -/
def asName : Parser (Option String) := do
  if ← acceptWord .as_ then return some (← identifier) else return none

/-- the next lexeme starts a name -/
def startsName : Option Lexeme → Bool
  | some (.name _ _) => true
  | _ => false

/-- one imported name -/
def importName (name : Parser String) : Parser Import := do
  let id ← name
  return ⟨id, ← asName⟩

/-- `import` statements -/
def importStatement (n : Nat) : Parser Stmt := do
  expectWord .import_
  let (names, trailing) ← commaSeparated startsName (importName (dottedName n)) n
  require !trailing
  return .import_ names

/-- the dots before the module of a `from` import -/
def importLevel (n : Nat) : Parser Nat := do
  let dots ← many (do
    if ← acceptSymbol .dot then return some 1
    else if ← acceptSymbol .ellipsis then return some 3
    else return none) n
  return dots.foldl (· + ·) 0

/-- the names that a `from` import takes -/
def importedNames (n : Nat) : Parser (List Import) := do
  if ← acceptSymbol .star then return [⟨"*", none⟩]
  else if ← acceptSymbol .lpar then
    let (names, _) ← commaSeparated startsName (importName identifier) n
    expectSymbol .rpar
    return names
  else
    let (names, trailing) ← commaSeparated startsName (importName identifier) n
    require !trailing
    return names

/-- `from` imports -/
def importFromStatement (n : Nat) : Parser Stmt := do
  expectWord .from_
  let level ← importLevel n
  let module ← if startsName (← peek) then (return some (← dottedName n)) else pure none
  require (0 < level || module.isSome)
  expectWord .import_
  return .importFrom module (← importedNames n) level

/-- an expression, if one is next -/
def optionalExpressions (g : Grammar) (n : Nat) : Parser (List Expr) := do
  if startsExpression (← peek) then return [← starExpressions g n] else return []

/-- `raise`, with what is raised and its cause -/
def raiseStatement (g : Grammar) : Parser Stmt := do
  expectWord .raise_
  let l ← peek
  if startsExpression l && l != some (.symbol .star) then
    let e ← g.expression
    if ← acceptWord .from_ then return .evaluate [e, ← g.expression] else return .evaluate [e]
  else return .evaluate []

/-- `assert`, with its message -/
def assertStatement (g : Grammar) : Parser Stmt := do
  expectWord .assert_
  let e ← g.expression
  if ← acceptSymbol .comma then return .evaluate [e, ← g.expression] else return .evaluate [e]

/-- `del` and its targets -/
def deleteStatement (g : Grammar) (n : Nat) : Parser Stmt := do
  expectWord .del_
  let (targets, _) ← commaSeparated startsExpression g.primary n
  require (Expr.areDeletable targets)
  return .delete targets

/-- a statement without a block -/
def simpleStatement (g : Grammar) (n : Nat) : Parser Stmt := do
  match ← peek with
  | some (.word w) =>
    match w with
    | .return_ =>
      skip
      return .evaluate (← optionalExpressions g n)
    | .import_ => importStatement n
    | .from_ => importFromStatement n
    | .raise_ => raiseStatement g
    | .pass_ | .break_ | .continue_ =>
      skip
      return .evaluate []
    | .del_ => deleteStatement g n
    | .yield_ => return .evaluate [← yieldExpression g n]
    | .assert_ => assertStatement g
    | .global_ | .nonlocal_ =>
      skip
      let (_, trailing) ← commaSeparated startsName identifier n
      require !trailing
      return .evaluate []
    | _ => expressionStatement g n
  | _ => expressionStatement g n

/-- the simple statements of one line -/
def simpleStatements (g : Grammar) : (fuel : Nat) → Parser (List Stmt)
  | 0 => failure
  | n + 1 => do
    let s ← simpleStatement g n
    if ← accept .newline then return [s]
    else
      expectSymbol .semicolon
      if ← accept .newline then return [s] else return s :: (← simpleStatements g n)

/-! ## compound statements -/

/-- the block of a compound statement from behind its colon on: a line of simple statements, or
statements that are indented deeper -/
def block (g : Grammar) (n : Nat) (inner : Parser (List Stmt)) : Parser (List Stmt) := do
  if ← accept .newline then
    expect .indent
    let first ← inner
    let more ← many (do if ← accept .dedent then return none else return some (← inner)) n
    return first ++ more.flatten
  else simpleStatements g n

/-- a colon and a block -/
def colonBlock (block : Parser (List Stmt)) : Parser (List Stmt) := do
  expectSymbol .colon
  block

/-- the block behind a keyword, if the keyword is next -/
def optionalBlock (word : Word) (block : Parser (List Stmt)) : Parser (List Stmt) := do
  if ← acceptWord word then colonBlock block else return []

/-- `if` or `elif` from behind the keyword on -/
def ifStatement (g : Grammar) (block : Parser (List Stmt)) : (fuel : Nat) → Parser Stmt
  | 0 => failure
  | n + 1 => do
    let test ← namedExpression g
    let body ← colonBlock block
    if ← acceptWord .elif_ then return .if_ test body [← ifStatement g block n]
    else return .if_ test body (← optionalBlock .else_ block)

/-- `while` from behind the keyword on -/
def whileStatement (g : Grammar) (block : Parser (List Stmt)) : Parser Stmt := do
  let test ← namedExpression g
  let body ← colonBlock block
  return .while_ test body (← optionalBlock .else_ block)

/-- `for` from behind the keyword on -/
def forStatement (g : Grammar) (n : Nat) (block : Parser (List Stmt)) : Parser Stmt := do
  let target ← starTargets g n
  expectWord .in_
  let iter ← starExpressions g n
  let body ← colonBlock block
  return .for_ target iter body (← optionalBlock .else_ block)

/-- an item of a `with` statement -/
def withItem (g : Grammar) : Parser WithItem := do
  let context ← g.expression
  if ← acceptWord .as_ then return ⟨context, some (← starTarget g)⟩ else return ⟨context, none⟩

/-- the items of a `with` statement in brackets, up to the colon -/
def bracketedItems (g : Grammar) (n : Nat) : Parser (List WithItem) := do
  expectSymbol .lpar
  let (items, _) ← commaSeparated startsExpression (withItem g) n
  expectSymbol .rpar
  expectSymbol .colon
  return items

/-- the items of a `with` statement up to the colon -/
def plainItems (g : Grammar) (n : Nat) : Parser (List WithItem) := do
  let (items, trailing) ← commaSeparated startsExpression (withItem g) n
  require !trailing
  expectSymbol .colon
  return items

/-- `with` from behind the keyword on; brackets around the items are not part of the first one where
they can be read as brackets around all -/
def withStatement (g : Grammar) (n : Nat) (block : Parser (List Stmt)) : Parser Stmt := do
  let items ← bracketedItems g n <|> plainItems g n
  return .with_ items (← block)

/-- a handler of a `try` statement, if one is next; those of one statement are all grouped or all
not -/
def handler (g : Grammar) (grouped : Bool) (block : Parser (List Stmt)) :
    Parser (Option Handler) := do
  match ← seesWord .except_, (← peekSecond) == some (.symbol .star) with
  | true, starred =>
    if starred != grouped then return none
    else
      skip
      if grouped then skip
      if !grouped && (← seesSymbol .colon) then return some (.mk none none (← colonBlock block))
      else
        let type ← g.expression
        let name ← asName
        return some (.mk (some type) name (← colonBlock block))
  | false, _ => return none

/-- `try` from behind the keyword on -/
def tryStatement (g : Grammar) (n : Nat) (block : Parser (List Stmt)) : Parser Stmt := do
  let body ← colonBlock block
  let grouped := (← peekSecond) == some (.symbol .star)
  let handlers ← many (handler g grouped block) n
  if handlers.isEmpty then
    expectWord .finally_
    return .try_ false body [] [] (← colonBlock block)
  else
    let otherwise ← optionalBlock .else_ block
    return .try_ grouped body handlers otherwise (← optionalBlock .finally_ block)

/-- `class` from behind the keyword on -/
def classStatement (g : Grammar) (n : Nat) (block : Parser (List Stmt)) (decorators : List Expr) :
    Parser Stmt := do
  let name ← identifier
  let (bases, keywords) ← if ← seesSymbol .lpar then arguments g false n else pure ([], [])
  return .class_ name bases keywords (← colonBlock block) decorators

/-- `def` from behind the keyword on -/
def functionStatement (g : Grammar) (n : Nat) (block : Parser (List Stmt)) (start : Position)
    (decorators : List Expr) : Parser Stmt := do
  let name ← identifier
  expectSymbol .lpar
  let parameters ← parameters g true n
  expectSymbol .rpar
  let returns ← if ← acceptSymbol .arrow then (return some (← g.expression)) else pure none
  return .function start name parameters (← colonBlock block) decorators returns

/-- a function or a class behind its decorators -/
def decorated (g : Grammar) (n : Nat) (block : Parser (List Stmt)) (decorators : List Expr) :
    Parser Stmt := do
  let start ← here
  if ← acceptWord .class_ then classStatement g n block decorators
  else
    let _ ← acceptWord .async_
    expectWord .def_
    functionStatement g n block start decorators

/-- a decorator, if one is next -/
def decorator (g : Grammar) : Parser (Option Expr) := do
  if ← acceptSymbol .at_ then
    let e ← namedExpression g
    expect .newline
    return some e
  else return none

/-- a case of a `match` statement -/
def case (g : Grammar) (n : Nat) (block : Parser (List Stmt)) : Parser Case := do
  expectContextual "case"
  let p ← patterns g n
  let guard ← if ← acceptWord .if_ then (return some (← namedExpression g)) else pure none
  return .mk p guard (← colonBlock block)

/-- the first line of a `match` statement, and its subject -/
def matchLine (g : Grammar) (n : Nat) : Parser Expr := do
  expectContextual "match"
  let start ← here
  let (items, trailing) ← commaSeparated startsExpression (item g) n
  let subject := tupleOr start (items, trailing)
  require !subject.isStarred
  expectSymbol .colon
  expect .newline
  return subject

/-- a `match` statement behind its first line -/
def matchStatement (g : Grammar) (n : Nat) (block : Parser (List Stmt)) (subject : Expr) :
    Parser Stmt := do
  expect .indent
  let first ← case g n block
  let more ← many (do if ← accept .dedent then return none else return some (← case g n block)) n
  return .match_ subject (first :: more)

/-- a statement that starts with a name, which may be a `match` statement -/
def namedStatement (g : Grammar) (n : Nat) (block : Parser (List Stmt)) : Parser (List Stmt) := do
  if ← sees (.name "match" true) then
    match ← (some <$> matchLine g n) <|> pure none with
    | some subject => return [← matchStatement g n block subject]
    | none => simpleStatements g n
  else simpleStatements g n

/-- a compound statement, or a line of simple ones; `block` reads inner blocks -/
def statementWith (g : Grammar) (n : Nat) (block : Parser (List Stmt)) : Parser (List Stmt) := do
  match ← peek, ← peekSecond with
  | some (.word .if_), _ =>
    skip
    return [← ifStatement g block n]
  | some (.word .while_), _ =>
    skip
    return [← whileStatement g block]
  | some (.word .for_), _ =>
    skip
    return [← forStatement g n block]
  | some (.word .with_), _ =>
    skip
    return [← withStatement g n block]
  | some (.word .try_), _ =>
    skip
    return [← tryStatement g n block]
  | some (.word .def_), _ | some (.word .class_), _ => return [← decorated g n block []]
  | some (.symbol .at_), _ =>
    let decorators ← many (decorator g) n
    return [← decorated g n block decorators]
  | some (.word .async_), some (.word .for_) =>
    skip
    skip
    return [← forStatement g n block]
  | some (.word .async_), some (.word .with_) =>
    skip
    skip
    return [← withStatement g n block]
  | some (.word .async_), _ => return [← decorated g n block []]
  | some (.name _ _), _ => namedStatement g n block
  | _, _ => simpleStatements g n

/-- a statement whose blocks stand inside each other at most `fuel` deep -/
def statement (g : Grammar) : (fuel : Nat) → Parser (List Stmt)
  | 0 => failure
  | n + 1 => statementWith g n (block g n (statement g n))

/-- statements up to the end of the tokens -/
def statements (g : Grammar) (n : Nat) : Parser (List Stmt) := do
  let ss ← many (do if (← get).isEmpty then return none else return some (← statement g n)) n
  return ss.flatten

/-- the statements of a source text, if it is a module -/
def parseModule? (cs : List Char) : Option (List Stmt) := do
  let tokens ← tokens? cs
  let fuel := parseFuel cs.length
  let (body, _) ← (statements (grammar fuel) fuel).run tokens
  return body

end Archetype.Code
