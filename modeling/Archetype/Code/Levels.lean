import Archetype.Code.Tree

/-!
# The calls of a tree, level by level

A tree is searched breadth first: all nodes of one depth, from left to right, before those of the
next. `Levels` holds what a search finds, one list a depth; `merge` puts the levels of neighbours
side by side, and `below` puts a node above its children. The calls of a module in the order of the
search are the lists of its levels one after the other.

* `Expr.levels`, `Stmt.levels`   the calls in an expression or a statement;
* `callsOf`                      the calls of a module, breadth first.

Parts of a statement that are nodes of their own (arguments by name, clauses, parameter lists,
handlers, items of `with`, cases) count as a depth.
-/

namespace Archetype.Code

/-- what is found at each depth -/
abbrev Levels := List (List CallSite)

namespace Levels

/-- the levels of neighbours, side by side -/
def merge : Levels → Levels → Levels
  | [], ys => ys
  | xs, [] => xs
  | x :: xs, y :: ys => (x ++ y) :: merge xs ys

/-- a node with nothing to find, above its children -/
def below (children : Levels) : Levels := [] :: children

theorem merge_nil_left (ys : Levels) : merge [] ys = ys := by cases ys <;> rfl

theorem merge_nil_right (xs : Levels) : merge xs [] = xs := by cases xs <;> rfl

theorem merge_assoc (xs ys zs : Levels) : merge (merge xs ys) zs = merge xs (merge ys zs) := by
  induction xs generalizing ys zs with
  | nil => simp [merge_nil_left]
  | cons x xs ih =>
    cases ys with
    | nil => simp [merge_nil_left, merge_nil_right]
    | cons y ys =>
      cases zs with
      | nil => simp [merge_nil_right]
      | cons z zs => simp [merge, ih, List.append_assoc]

/-- what is found in neighbours is what is found in one of them or the other -/
theorem mem_flatten_merge {c : CallSite} {xs ys : Levels} :
    c ∈ (merge xs ys).flatten ↔ c ∈ xs.flatten ∨ c ∈ ys.flatten := by
  induction xs generalizing ys with
  | nil => simp [merge_nil_left]
  | cons x xs ih =>
    cases ys with
    | nil => simp [merge_nil_right]
    | cons y ys =>
      simp only [merge, List.flatten_cons, List.mem_append, ih]
      exact or_or_or_comm

end Levels

open Levels

mutual

/-- the calls in an expression -/
def Expr.levels : Expr → Levels
  | .name _ _ => below []
  | .str _ _ => below []
  | .member _ value _ => below value.levels
  | .call pos func args keywords =>
    [⟨pos, func, args, keywords⟩]
      :: merge func.levels (merge (Expr.listLevels args) (Keyword.listLevels keywords))
  | .row _ _ items => below (Expr.listLevels items)
  | .dict _ entries => below (merge (Entry.keyLevels entries) (Entry.valueLevels entries))
  | .starred _ value => below value.levels
  | .subscript _ value index => below (merge value.levels index.levels)
  | .named _ target value => below (merge target.levels value.levels)
  | .lambda _ parameters body => below (merge (below (Parameter.listLevels parameters)) body.levels)
  | .comprehension _ yields clauses =>
    below (merge (Expr.listLevels yields) (Clause.listLevels clauses))
  | .other _ operands => below (Expr.listLevels operands)

/-- the calls in a row of expressions -/
def Expr.listLevels : List Expr → Levels
  | [] => []
  | e :: es => merge e.levels (Expr.listLevels es)

/-- the calls in arguments by name -/
def Keyword.listLevels : List Keyword → Levels
  | [] => []
  | .mk _ value :: ks => merge (below value.levels) (Keyword.listLevels ks)

/-- the calls in the keys of entries -/
def Entry.keyLevels : List Entry → Levels
  | [] => []
  | .pair key _ :: es => merge key.levels (Entry.keyLevels es)
  | .spread _ :: es => Entry.keyLevels es

/-- the calls in the values of entries -/
def Entry.valueLevels : List Entry → Levels
  | [] => []
  | .pair _ value :: es => merge value.levels (Entry.valueLevels es)
  | .spread value :: es => merge value.levels (Entry.valueLevels es)

/-- the calls in the clauses of a comprehension -/
def Clause.listLevels : List Clause → Levels
  | [] => []
  | .mk target iter conditions :: cs =>
    merge (below (merge target.levels (merge iter.levels (Expr.listLevels conditions))))
      (Clause.listLevels cs)

/-- the calls in a parameter list -/
def Parameter.listLevels : List Parameter → Levels
  | [] => []
  | .hint value :: ps => merge (below value.levels) (Parameter.listLevels ps)
  | .default value :: ps => merge value.levels (Parameter.listLevels ps)

end

/-- the calls in an expression that may be missing -/
def optionLevels : Option Expr → Levels
  | none => []
  | some e => e.levels

mutual

/-- the calls in a pattern -/
def Pattern.levels : Pattern → Levels
  | .value e => below e.levels
  | .constant => below []
  | .sequence parts => below (Pattern.listLevels parts)
  | .mapping keys parts _ => below (merge (Expr.listLevels keys) (Pattern.listLevels parts))
  | .record cls parts named =>
    below (merge cls.levels (merge (Pattern.listLevels parts) (Pattern.listLevels named)))
  | .rest _ => below []
  | .capture none _ => below []
  | .capture (some inner) _ => below inner.levels
  | .choice parts => below (Pattern.listLevels parts)

/-- the calls in a row of patterns -/
def Pattern.listLevels : List Pattern → Levels
  | [] => []
  | p :: ps => merge p.levels (Pattern.listLevels ps)

end

/-- the calls in the items of a `with` statement -/
def WithItem.listLevels : List WithItem → Levels
  | [] => []
  | item :: items =>
    merge (below (merge item.context.levels (optionLevels item.target))) (WithItem.listLevels items)

mutual

/-- the calls in a statement -/
def Stmt.levels : Stmt → Levels
  | .function _ _ parameters body decorators returns =>
    below (merge (below (Parameter.listLevels parameters))
      (merge (Stmt.listLevels body) (merge (Expr.listLevels decorators) (optionLevels returns))))
  | .class_ _ bases keywords body decorators =>
    below (merge (Expr.listLevels bases) (merge (Keyword.listLevels keywords)
      (merge (Stmt.listLevels body) (Expr.listLevels decorators))))
  | .assign _ targets value => below (merge (Expr.listLevels targets) value.levels)
  | .declare _ target hint value =>
    below (merge target.levels (merge hint.levels (optionLevels value)))
  | .augment target value => below (merge target.levels value.levels)
  | .delete targets => below (Expr.listLevels targets)
  | .for_ target iter body otherwise =>
    below (merge target.levels (merge iter.levels
      (merge (Stmt.listLevels body) (Stmt.listLevels otherwise))))
  | .while_ test body otherwise =>
    below (merge test.levels (merge (Stmt.listLevels body) (Stmt.listLevels otherwise)))
  | .if_ test body otherwise =>
    below (merge test.levels (merge (Stmt.listLevels body) (Stmt.listLevels otherwise)))
  | .with_ items body => below (merge (WithItem.listLevels items) (Stmt.listLevels body))
  | .try_ _ body handlers otherwise final =>
    below (merge (Stmt.listLevels body) (merge (Handler.listLevels handlers)
      (merge (Stmt.listLevels otherwise) (Stmt.listLevels final))))
  | .import_ _ => below []
  | .importFrom _ _ _ => below []
  | .match_ subject cases => below (merge subject.levels (Case.listLevels cases))
  | .evaluate values => below (Expr.listLevels values)

/-- the calls in a row of statements -/
def Stmt.listLevels : List Stmt → Levels
  | [] => []
  | s :: ss => merge s.levels (Stmt.listLevels ss)

/-- the calls in handlers -/
def Handler.listLevels : List Handler → Levels
  | [] => []
  | .mk type _ body :: hs =>
    merge (below (merge (optionLevels type) (Stmt.listLevels body))) (Handler.listLevels hs)

/-- the calls in cases -/
def Case.listLevels : List Case → Levels
  | [] => []
  | .mk pattern guard body :: cs =>
    merge (below (merge pattern.levels (merge (optionLevels guard) (Stmt.listLevels body))))
      (Case.listLevels cs)

end

/-- the calls of a module, breadth first -/
def callsOf (body : List Stmt) : List CallSite := (Stmt.listLevels body).flatten

end Archetype.Code
