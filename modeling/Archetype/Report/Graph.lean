import Archetype.Constraint.Cycle
import Archetype.Report.Json

/-!
# The constraint graph as text

The graph is exported for drawing (`dot`) and for other programs (`json`). In the drawing a name
stands in double quotes; a double quote or a backslash in it has a backslash before it, so that no
name can end its quotes early.
-/

namespace Archetype.Report

/-- a name between double quotes -/
def dotQuote (s : String) : List Char :=
  '"' :: (s.toList.flatMap fun c => if c = '"' || c = '\\' then ['\\', c] else [c]) ++ ['"']

/-- a line of the drawing: two blanks, a statement, a semicolon -/
def dotLine (statement : List Char) : List Char := ' ' :: ' ' :: statement ++ [';', '\n']

/-- the arrow from one name to another -/
def dotArrow (e : Edge) : List Char := dotQuote e.1 ++ " -> ".toList ++ dotQuote e.2

/-- the statements in front of the names -/
def dotSettings : List Char :=
  dotLine "labelloc=t".toList
    ++ dotLine "rankdir=LR".toList
    ++ dotLine "graph [fontname=\"Helvetica\"]".toList
    ++ dotLine "node [fontname=\"Helvetica\", fontsize=10, shape=box, style=rounded]".toList

/-- the graph in the language of the drawing program: dependencies are arrows, conflicts dashed
lines -/
def dot (g : ConstraintGraph) (title : String) : String :=
  String.ofList (
    "digraph components \x7b\n".toList
      ++ dotLine ("label=".toList ++ dotQuote title)
      ++ dotSettings
      ++ g.nodes.flatMap (fun n => dotLine (dotQuote n))
      ++ g.edges.flatMap (fun e => dotLine (dotArrow e))
      ++ g.pairs.flatMap
        (fun e => dotLine (dotArrow e ++ " [style=dashed, color=\"red\", dir=none]".toList))
      ++ "\x7d\n".toList)

/-- the graph as a JSON value -/
def graphJson (g : ConstraintGraph) : Json :=
  .object [
    ("nodes", .texts g.nodes),
    ("dependencies", .list (g.edges.map fun e => .object [("from", .text e.1), ("to", .text e.2)])),
    ("conflicts", .list (g.pairs.map fun e => .texts [e.1, e.2])),
    ("cycles", .list (g.cycles.map .texts))]

end Archetype.Report
