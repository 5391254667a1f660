import Archetype.Code.Position
import Archetype.Text.CodePoints

/-!
# Syntax trees

The trees keep what the checks look at: names, calls, displays, what binds a name and what opens a
scope. An expression of any other kind is known by its operands alone, in the order in which they
are visited.

* `Expr`      expressions, with `Keyword`, `Entry`, `Clause` and `Parameter` for their parts;
* `Pattern`   the patterns of a `match` statement;
* `Stmt`      statements, with `Handler` and `Case` for their parts;
* `CallSite`  a call cut out of a tree.
-/

namespace Archetype.Code

/-- the kinds of display whose items stand in a row -/
inductive Row where
  | list
  | tuple
  | set
  deriving DecidableEq

mutual

/-- an expression; the position is that of its first token -/
inductive Expr where
  | name (pos : Position) (id : String)
  /-- a string constant -/
  | str (pos : Position) (value : Text.CodePoints)
  /-- `value.attr` -/
  | member (pos : Position) (value : Expr) (attr : String)
  /-- `func(args, keywords)` -/
  | call (pos : Position) (func : Expr) (args : List Expr) (keywords : List Keyword)
  /-- a list, tuple or set display -/
  | row (pos : Position) (kind : Row) (items : List Expr)
  /-- a dictionary display -/
  | dict (pos : Position) (entries : List Entry)
  /-- `*value` -/
  | starred (pos : Position) (value : Expr)
  /-- `value[index]` -/
  | subscript (pos : Position) (value index : Expr)
  /-- `target := value` -/
  | named (pos : Position) (target value : Expr)
  /-- `lambda parameters: body` -/
  | lambda (pos : Position) (parameters : List Parameter) (body : Expr)
  /-- a comprehension or generator: what it yields, and its clauses -/
  | comprehension (pos : Position) (yields : List Expr) (clauses : List Clause)
  /-- any other expression: constants have no operands -/
  | other (pos : Position) (operands : List Expr)

/-- an argument by name, or `**value` if it has no name -/
inductive Keyword where
  | mk (name : Option String) (value : Expr)

/-- an entry of a dictionary display -/
inductive Entry where
  | pair (key value : Expr)
  /-- `**value` -/
  | spread (value : Expr)

/-- `for target in iter if conditions` -/
inductive Clause where
  | mk (target iter : Expr) (conditions : List Expr)

/-- an expression in a parameter list: the type hint of a parameter, or a default. They are listed
in the order in which they are visited, hints and defaults each at their own depth of the tree. -/
inductive Parameter where
  | hint (value : Expr)
  | default (value : Expr)

end

/-- the place of an expression -/
def Expr.pos : Expr → Position
  | name pos _ | str pos _ | member pos _ _ | call pos _ _ _ | row pos _ _ | dict pos _
  | starred pos _ | subscript pos _ _ | named pos _ _ | lambda pos _ _ | comprehension pos _ _
  | other pos _ => pos

/-- the name of an argument -/
def Keyword.name : Keyword → Option String
  | mk name _ => name

/-- the value of an argument -/
def Keyword.value : Keyword → Expr
  | mk _ value => value

/-- a pattern of a `match` statement -/
inductive Pattern where
  /-- compares with a value -/
  | value (e : Expr)
  /-- compares with `None`, `True` or `False` -/
  | constant
  | sequence (parts : List Pattern)
  /-- keys, the patterns of their values, and the name for the rest -/
  | mapping (keys : List Expr) (parts : List Pattern) (rest : Option String)
  /-- a class with positional and named patterns -/
  | record (cls : Expr) (parts named : List Pattern)
  /-- the rest of a sequence, with a name or without -/
  | rest (name : Option String)
  /-- a pattern whose subject gets a name; without a pattern it matches anything -/
  | capture (inner : Option Pattern) (name : Option String)
  | choice (parts : List Pattern)

/-- `context as target` in a `with` statement -/
structure WithItem where
  context : Expr
  target : Option Expr

/-- an imported name, and the name that it is given -/
structure Import where
  name : String
  asName : Option String

mutual

/-- a statement -/
inductive Stmt where
  /-- a function; its position is that of `def` -/
  | function (pos : Position) (name : String) (parameters : List Parameter) (body : List Stmt)
      (decorators : List Expr) (returns : Option Expr)
  | class_ (name : String) (bases : List Expr) (keywords : List Keyword) (body : List Stmt)
      (decorators : List Expr)
  /-- `targets = value` -/
  | assign (pos : Position) (targets : List Expr) (value : Expr)
  /-- `target: hint = value` -/
  | declare (pos : Position) (target hint : Expr) (value : Option Expr)
  /-- `target += value` and its like -/
  | augment (target value : Expr)
  | delete (targets : List Expr)
  | for_ (target iter : Expr) (body otherwise : List Stmt)
  | while_ (test : Expr) (body otherwise : List Stmt)
  | if_ (test : Expr) (body otherwise : List Stmt)
  | with_ (items : List WithItem) (body : List Stmt)
  /-- `try`; `grouped` if its handlers are `except*` -/
  | try_ (grouped : Bool) (body : List Stmt) (handlers : List Handler) (otherwise final : List Stmt)
  | import_ (names : List Import)
  /-- `from module import names`, with as many dots before the module as the level says -/
  | importFrom (module : Option String) (names : List Import) (level : Nat)
  | match_ (subject : Expr) (cases : List Case)
  /-- any other statement: the expressions that it evaluates, in order -/
  | evaluate (values : List Expr)

/-- `except type as name: body` -/
inductive Handler where
  | mk (type : Option Expr) (name : Option String) (body : List Stmt)

/-- `case pattern if guard: body` -/
inductive Case where
  | mk (pattern : Pattern) (guard : Option Expr) (body : List Stmt)

end

/-- a call cut out of a tree -/
structure CallSite where
  pos : Position
  func : Expr
  args : List Expr
  keywords : List Keyword

/-- the call as an expression -/
def CallSite.expr (c : CallSite) : Expr := .call c.pos c.func c.args c.keywords

end Archetype.Code
