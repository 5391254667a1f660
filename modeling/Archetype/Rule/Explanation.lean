import Archetype.Rule
import Archetype.Text.Split

/-!
# What the rules are about

Each rule is explained in a short text of headings, paragraphs and lists, which can be written with
its marks (`Explanation.marked`) or as plain lines (`Explanation.plain`).
-/

namespace Archetype

/-- a run of text: as it is, stressed, or as code -/
inductive Span where
  | plain (s : String)
  | strong (s : String)
  | code (s : String)

/-- a part of an explanation -/
inductive Block where
  | heading (s : String)
  | paragraph (lines : List (List Span))
  /-- a line and the list that it introduces -/
  | bulleted (lead : List Span) (items : List (List Span))

/-- the explanation of a rule -/
abbrev Explanation := List Block

namespace Span

/-- the run with its marks -/
def marked : Span → String
  | plain s => s
  | strong s => "**" ++ s ++ "**"
  | code s => "`" ++ s ++ "`"

/-- the run without its marks -/
def bare : Span → String
  | plain s | strong s | code s => s

end Span

namespace Block

/-- a line of runs, each written by `f` -/
def line (f : Span → String) (spans : List Span) : String := Text.joinWith "" (spans.map f)

/-- the block with its marks, as lines -/
def markedLines : Block → List String
  | heading s => ["## " ++ s]
  | paragraph lines => lines.map (line Span.marked)
  | bulleted lead items => line Span.marked lead :: items.map fun i => "- " ++ line Span.marked i

/-- the block as groups of plain lines, between which a line is left free; a paragraph is one
line -/
def plainGroups : Block → List (List String)
  | heading s => [[s]]
  | paragraph lines => [[Text.joinWith " " (lines.map (line Span.bare))]]
  | bulleted lead items => [[line Span.bare lead], items.map fun i => " • " ++ line Span.bare i]

end Block

namespace Explanation

/-- the explanation with its marks; it starts and ends with the end of a line, and a line is left
free between its blocks -/
def marked (e : Explanation) : String :=
  "\n" ++ Text.joinWith "\n\n" (e.map fun b => Text.joinWith "\n" b.markedLines) ++ "\n"

/-- the explanation as plain lines -/
def plain (e : Explanation) : List String :=
  [""].intercalate (e.flatMap Block.plainGroups)

end Explanation

/-- the explanation of a rule -/
def Rule.explanation : Rule → Explanation
  | .componentValidator => [
      .heading "component-validator",
      .paragraph [[.plain "Checks every ", .code "register_validator(Component, \x7b...\x7d)",
        .plain " call."]],
      .bulleted [.strong "Reports:"] [
        [.plain "a component listed in its own ", .code "dependencies", .plain " or ",
          .code "conflicts"],
        [.plain "a component that both depends on and conflicts with the same target"],
        [.plain "a name repeated within one ", .code "dependencies", .plain " or ",
          .code "conflicts", .plain " array"],
        [.plain "dependency cycles across every validator in the project (", .code "check_cycles",
          .plain ")"]],
      .paragraph [
        [.plain "Constraints are merged from every file, so a contradiction or cycle may be"],
        [.plain "reported in a file that only declares part of it."]],
      .paragraph [
        [.strong "Fix:", .plain " remove the offending entry, or break the cycle by dropping one"],
        [.plain "dependency."]]]
  | .componentOrder => [
      .heading "component-order",
      .paragraph [
        [.plain "Replays how components are attached and checks each step against the"],
        [.plain "declared constraints."]],
      .paragraph [
        [.strong "Entity builders:", .plain " ", .code "entity = world.create_entity()",
          .plain " followed by"],
        [.code "entity.attach(Component)", .plain "; chained ", .code ".attach(...)",
          .plain " calls are followed too."],
        [.plain "Tracking is local to the enclosing function."]],
      .paragraph [
        [.strong "Templates:", .plain " ",
          .code "register_template(\"name\", \x7b\"components\": [...]\x7d)", .plain " is checked"],
        [.plain "in list order."]],
      .bulleted [.strong "Reports:"] [
        [.plain "a component attached before one of its dependencies"],
        [.plain "a component attached while a conflicting component is already present"]],
      .paragraph [
        [.strong "Fix:", .plain " reorder the attaches (see ", .code "ecslint trace COMPONENT",
          .plain " for a valid"],
        [.plain "order) or remove one side of the conflict."]]]
  | .queryValidator => [
      .heading "query-validator",
      .paragraph [[.plain "Checks ", .code "create_query(...)", .plain " / ",
        .code "create_system(...)", .plain " declarations."]],
      .bulleted [.strong "Reports:"] [
        [.plain "a component in both ", .code "all", .plain " and ", .code "none"],
        [.plain "a tag in both ", .code "tags", .plain " and ", .code "without_tags"],
        [.plain "two components in ", .code "all",
          .plain " that conflict with each other (once per pair)"],
        [.plain "a name repeated within ", .code "all", .plain ", ", .code "none", .plain ", ",
          .code "tags", .plain " or ", .code "without_tags"]],
      .paragraph [[.plain "Any of the first three means the query can never match an entity."]]]

end Archetype
