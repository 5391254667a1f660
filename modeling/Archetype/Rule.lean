import Archetype.Assoc

/-!
# Rules and how much they weigh

Three rules group the kinds of problems. How much the findings of a rule weigh is its severity,
which a preset gives and which can be overridden rule by rule; a rule that is off finds nothing.

* `Kind`, `Rule`        what can be wrong, and the rule under which it is reported;
* `Severity`, `Level`   the severity of a rule, and the level of a finding, which is never off;
* `severityOf`          the severity of a rule by its name.
-/

namespace Archetype

/-- what can be wrong -/
inductive Kind where
  | selfReference
  | contradiction
  | duplicateEntry
  | cycle
  | missingDependency
  | conflictingComponent
  | unsatisfiableQuery
  deriving DecidableEq, Repr

namespace Kind

/-- the name of a kind in reports -/
def name : Kind → String
  | selfReference => "self-reference"
  | contradiction => "contradiction"
  | duplicateEntry => "duplicate-entry"
  | cycle => "cycle"
  | missingDependency => "missing-dependency"
  | conflictingComponent => "conflicting-component"
  | unsatisfiableQuery => "unsatisfiable-query"

def all : List Kind :=
  [selfReference, contradiction, duplicateEntry, cycle, missingDependency, conflictingComponent,
    unsatisfiableQuery]

/-- the kind of a name -/
def ofName? (s : String) : Option Kind := all.find? (·.name == s)

end Kind

/-- a group of checks that share one severity -/
inductive Rule where
  | componentValidator
  | componentOrder
  | queryValidator
  deriving DecidableEq, Repr

namespace Rule

def id : Rule → String
  | componentValidator => "component-validator"
  | componentOrder => "component-order"
  | queryValidator => "query-validator"

/-- the rules in the order in which they are shown -/
def all : List Rule := [componentValidator, componentOrder, queryValidator]

/-- the rule of a name -/
def ofId? (s : String) : Option Rule := all.find? (·.id == s)

/-- what the rule asks for, in a line -/
def summary : Rule → String
  | componentValidator => "Validator declarations must be self-consistent and acyclic"
  | componentOrder =>
    "Components must be attached after their dependencies and never beside a conflict"
  | queryValidator => "Queries must be satisfiable"

/-- the kinds of problems that the rule reports -/
def kinds : Rule → List Kind
  | componentValidator => [.selfReference, .contradiction, .duplicateEntry, .cycle]
  | componentOrder => [.missingDependency, .conflictingComponent]
  | queryValidator => [.unsatisfiableQuery, .duplicateEntry]

end Rule

/-- how much a finding weighs -/
inductive Level where
  | error
  | warning
  | info
  deriving DecidableEq, Repr

def Level.name : Level → String
  | error => "error"
  | warning => "warning"
  | info => "info"

/-- how much the findings of a rule weigh, if it is not off -/
inductive Severity where
  | error
  | warning
  | info
  | off
  deriving DecidableEq, Repr

namespace Severity

def name : Severity → String
  | error => "error"
  | warning => "warning"
  | info => "info"
  | off => "off"

def all : List Severity := [error, warning, info, off]

/-- the severity of a name -/
def ofName? (s : String) : Option Severity := all.find? (·.name == s)

/-- the level of the findings of a rule, unless it is off -/
def level? : Severity → Option Level
  | error => some .error
  | warning => some .warning
  | info => some .info
  | off => none

end Severity

/-- a choice of severities for all rules -/
inductive Preset where
  | recommended
  | strict
  deriving DecidableEq, Repr

namespace Preset

def name : Preset → String
  | recommended => "recommended"
  | strict => "strict"

def all : List Preset := [recommended, strict]

/-- the preset of a name -/
def ofName? (s : String) : Option Preset := all.find? (·.name == s)

/-- the severity of a rule in a preset -/
def severity : Preset → Rule → Severity
  | recommended, .componentOrder => .warning
  | _, _ => .error

end Preset

/-- what overrides the value of the rule `id`, or else its `own` value -/
def overridden {α : Type} (overrides : Assoc α) (id : String) (own : α) : α :=
  (overrides.get? id).getD own

/-- the severity of the rule `id`: what overrides it, or what the preset says; a rule that is not
known counts as an error -/
def severityOf (preset : Preset) (overrides : Assoc Severity) (id : String) : Severity :=
  overridden overrides id (((Rule.ofId? id).map preset.severity).getD .error)

end Archetype
