import Archetype.Rule
import Archetype.Text.Split

/-!
# Problems

A problem is one thing that is wrong, with the names that it is about. It has a kind, and within its
kind a variant, which together choose the message; and it has data, the named parts of the message.
-/

namespace Archetype

/-- which list of a constraint declaration a problem is about -/
inductive Side where
  | dependency
  | conflict
  deriving DecidableEq, Repr

/-- which list of a query a problem is about -/
inductive QueryList where
  | all
  | none
  | tags
  | withoutTags
  deriving DecidableEq, Repr

/-- what components are attached to: an entity, or the template of a name -/
inductive Composite where
  | entity
  | template (name : String)
  deriving DecidableEq, Repr

/-- one thing that is wrong -/
inductive Problem where
  | selfReference (side : Side) (component : String)
  | contradiction (component target : String)
  | repeatedEntry (side : Side) (target : String)
  | cycle (path : List String)
  | missingDependency (composite : Composite) (component dependency : String)
  | conflictingComponent (composite : Composite) (component conflict : String)
  | wantedAndExcluded (component : String)
  | taggedAndUntagged (tag : String)
  | conflictingPair (first second : String)
  | repeatedInQuery (list : QueryList) (name : String)
  deriving DecidableEq, Repr

/-- what chooses a message within a kind -/
inductive Variant where
  | plain
  | dependency
  | conflict
  | all
  | none
  | tags
  | withoutTags
  | entity
  | template
  | allNone
  | conflictingPair
  deriving DecidableEq, Repr

namespace Variant

def name : Variant → String
  | plain => ""
  | dependency => "dependency"
  | conflict => "conflict"
  | all => "all"
  | none => "none"
  | tags => "tags"
  | withoutTags => "without_tags"
  | entity => "entity"
  | template => "template"
  | allNone => "all-none"
  | conflictingPair => "conflicting-pair"

def every : List Variant :=
  [plain, dependency, conflict, all, none, tags, withoutTags, entity, template, allNone,
    conflictingPair]

/-- the variant of a name -/
def ofName? (s : String) : Option Variant := every.find? (·.name == s)

end Variant

/-- a named part of a message -/
inductive Field where
  | component
  | target
  | cycle
  | dependency
  | conflict
  | template
  | tag
  | first
  | second
  deriving DecidableEq, Repr

namespace Field

def name : Field → String
  | component => "component"
  | target => "target"
  | cycle => "cycle"
  | dependency => "dependency"
  | conflict => "conflict"
  | template => "template"
  | tag => "tag"
  | first => "first"
  | second => "second"

def every : List Field :=
  [component, target, cycle, dependency, conflict, template, tag, first, second]

/-- the field of a name -/
def ofName? (s : String) : Option Field := every.find? (·.name == s)

end Field

/-- the parts of a message by their names -/
abbrev Data := List (Field × String)

namespace Side

def variant : Side → Variant
  | dependency => .dependency
  | conflict => .conflict

end Side

namespace QueryList

def variant : QueryList → Variant
  | all => .all
  | none => .none
  | tags => .tags
  | withoutTags => .withoutTags

/-- what the names of the list are -/
def field : QueryList → Field
  | all | none => .component
  | tags | withoutTags => .tag

end QueryList

namespace Composite

def variant : Composite → Variant
  | entity => .entity
  | template _ => .template

def data : Composite → Data
  | entity => []
  | template name => [(.template, name)]

end Composite

namespace Problem

/-- the rule under which the problem is reported -/
def rule : Problem → Rule
  | selfReference _ _ | contradiction _ _ | repeatedEntry _ _ | cycle _ => .componentValidator
  | missingDependency _ _ _ | conflictingComponent _ _ _ => .componentOrder
  | wantedAndExcluded _ | taggedAndUntagged _ | conflictingPair _ _ | repeatedInQuery _ _ =>
    .queryValidator

def kind : Problem → Kind
  | selfReference _ _ => .selfReference
  | contradiction _ _ => .contradiction
  | repeatedEntry _ _ | repeatedInQuery _ _ => .duplicateEntry
  | cycle _ => .cycle
  | missingDependency _ _ _ => .missingDependency
  | conflictingComponent _ _ _ => .conflictingComponent
  | wantedAndExcluded _ | taggedAndUntagged _ | conflictingPair _ _ => .unsatisfiableQuery

def variant : Problem → Variant
  | selfReference side _ | repeatedEntry side _ => side.variant
  | contradiction _ _ | cycle _ => .plain
  | missingDependency composite _ _ | conflictingComponent composite _ _ => composite.variant
  | wantedAndExcluded _ => .allNone
  | taggedAndUntagged _ => .tags
  | conflictingPair _ _ => .conflictingPair
  | repeatedInQuery list _ => list.variant

def data : Problem → Data
  | selfReference _ component => [(.component, component)]
  | contradiction component target => [(.component, component), (.target, target)]
  | repeatedEntry _ target => [(.target, target)]
  | cycle path => [(.cycle, Text.joinWith " -> " path)]
  | missingDependency composite component dependency =>
    (.component, component) :: (.dependency, dependency) :: composite.data
  | conflictingComponent composite component conflict =>
    (.component, component) :: (.conflict, conflict) :: composite.data
  | wantedAndExcluded component => [(.component, component)]
  | taggedAndUntagged tag => [(.tag, tag)]
  | conflictingPair first second => [(.first, first), (.second, second)]
  | repeatedInQuery list name => [(list.field, name)]

/-- a problem is of a kind that its rule lists -/
theorem kind_mem_kinds (p : Problem) : p.kind ∈ p.rule.kinds := by
  cases p <;> simp [kind, rule, Rule.kinds]

end Problem

end Archetype
