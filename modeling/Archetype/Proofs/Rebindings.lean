import Archetype.Check.Tracked

/-!
# Where names are bound

Running code of a function binds names and deletes them. By the rules of the language most of them
are the function's own. A class has names for itself, and so have a function, a lambda and a
comprehension inside; but what stands in a comprehension, in the decorators, defaults and hints of a
function or in the targets of a loop is run by the function around, so that `:=` binds a name of
that function there. The hint of a variable of a function is never run.

Reading the code goes by other lines: a class body and a hint are read along with the names around
them, all of a function or a comprehension is read apart, and of the target of a `for` or `with`
statement only the names are read.

* `Rebinding`           a place where a name is bound or deleted: whether the name is the function's
                        own, and whether the place is in sight, which is to say read along with the
                        function's names;
* `hide`, `disown`      places in a part that is out of sight, or that has names of its own;
* `Expr.rebindings` …   all such places in code.

What `import *` binds cannot be told from the code; it stands under the name `*`.
-/

namespace Archetype

open Code

/-- a place at which a name is bound or deleted, seen from the function around it -/
structure Rebinding where
  name : String
  /-- does the function itself bind the name, and among its own? -/
  own : Bool
  /-- is the place read along with the names of the function? -/
  inSight : Bool
  /-- is the name bound to what another name stands for? -/
  copied : Bool

namespace Rebinding

/-- the places in a part that is read apart, or not at all -/
def hide (places : List Rebinding) : List Rebinding :=
  places.map fun b => { b with inSight := false }

/-- the places in a part that has names for itself, or that is never run -/
def disown (places : List Rebinding) : List Rebinding := places.map fun b => { b with own := false }

/-- a name of the function is bound or deleted -/
def plain (name : String) : Rebinding := ⟨name, true, true, false⟩

/-- a target is bound to something that is no name -/
def targets (target : Expr) : List Rebinding := (boundNames target).map plain

end Rebinding

open Rebinding

/-- is the expression a plain name? -/
def Code.Expr.isName : Expr → Bool
  | .name _ _ => true
  | _ => false

/-- a target is bound to the value of an expression -/
def Rebinding.assigned (value target : Expr) : List Rebinding :=
  (boundNames target).map fun x => ⟨x, true, true, value.isName⟩

/-! ## expressions -/

mutual

/-- the places in an expression -/
def Code.Expr.rebindings : Expr → List Rebinding
  | .name _ _ => []
  | .str _ _ => []
  | .member _ value _ => value.rebindings
  | .call _ func args keywords =>
    func.rebindings ++ (Expr.listRebindings args ++ Keyword.listRebindings keywords)
  | .row _ _ items => Expr.listRebindings items
  | .dict _ entries => Entry.keyRebindings entries ++ Entry.valueRebindings entries
  | .starred _ value => value.rebindings
  | .subscript _ value index => value.rebindings ++ index.rebindings
  | .named _ target value => target.rebindings ++ (value.rebindings ++ assigned value target)
  | .lambda _ parameters body =>
    hide (Parameter.listRebindings parameters ++ disown body.rebindings)
  | .comprehension _ yields clauses =>
    hide (Expr.listRebindings yields ++ Clause.listRebindings clauses)
  | .other _ operands => Expr.listRebindings operands

def Code.Expr.listRebindings : List Expr → List Rebinding
  | [] => []
  | e :: es => e.rebindings ++ Expr.listRebindings es

def Code.Keyword.listRebindings : List Keyword → List Rebinding
  | [] => []
  | .mk _ value :: ks => value.rebindings ++ Keyword.listRebindings ks

def Code.Entry.keyRebindings : List Entry → List Rebinding
  | [] => []
  | .pair key _ :: es => key.rebindings ++ Entry.keyRebindings es
  | .spread _ :: es => Entry.keyRebindings es

def Code.Entry.valueRebindings : List Entry → List Rebinding
  | [] => []
  | .pair _ value :: es => value.rebindings ++ Entry.valueRebindings es
  | .spread value :: es => value.rebindings ++ Entry.valueRebindings es

/-- the places in clauses; what their targets bind is the comprehension's own -/
def Code.Clause.listRebindings : List Clause → List Rebinding
  | [] => []
  | .mk target iter conditions :: cs =>
    hide (disown (targets target)) ++ (target.rebindings ++ (iter.rebindings
      ++ (Expr.listRebindings conditions ++ Clause.listRebindings cs)))

def Code.Parameter.listRebindings : List Parameter → List Rebinding
  | [] => []
  | .hint value :: ps => value.rebindings ++ Parameter.listRebindings ps
  | .default value :: ps => value.rebindings ++ Parameter.listRebindings ps

end

def optionRebindings : Option Expr → List Rebinding
  | none => []
  | some e => e.rebindings

/-- the places in the items of a `with` statement; of a target that is not just names, the rest is
not read -/
def Code.WithItem.listRebindings : List WithItem → List Rebinding
  | [] => []
  | item :: items =>
    item.context.rebindings ++ (hide (optionRebindings item.target)
      ++ ((item.target.map targets).getD [] ++ WithItem.listRebindings items))

/-! ## patterns -/

mutual

def Code.Pattern.rebindings : Pattern → List Rebinding
  | .value e => e.rebindings
  | .constant => []
  | .sequence parts => Pattern.listRebindings parts
  | .mapping keys parts others =>
    Expr.listRebindings keys ++ (Pattern.listRebindings parts ++ others.toList.map plain)
  | .record cls parts named =>
    cls.rebindings ++ (Pattern.listRebindings parts ++ Pattern.listRebindings named)
  | .rest name => name.toList.map plain
  | .capture none name => name.toList.map plain
  | .capture (some inner) name => inner.rebindings ++ name.toList.map plain
  | .choice parts => Pattern.listRebindings parts

def Code.Pattern.listRebindings : List Pattern → List Rebinding
  | [] => []
  | p :: ps => p.rebindings ++ Pattern.listRebindings ps

end

/-! ## statements -/

mutual

/-- the places in a statement -/
def Code.Stmt.rebindings : Stmt → List Rebinding
  | .function _ name parameters body decorators returns =>
    plain name :: hide (Parameter.listRebindings parameters ++ (disown (Stmt.listRebindings body)
      ++ (Expr.listRebindings decorators ++ optionRebindings returns)))
  | .class_ name bases keywords body decorators =>
    plain name :: (Expr.listRebindings bases ++ (Keyword.listRebindings keywords
      ++ (disown (Stmt.listRebindings body) ++ Expr.listRebindings decorators)))
  | .assign _ targets value =>
    Expr.listRebindings targets ++ (value.rebindings ++ targets.flatMap (assigned value))
  | .declare _ target hint none => target.rebindings ++ disown hint.rebindings
  | .declare _ target hint (some value) =>
    target.rebindings ++ (disown hint.rebindings ++ (value.rebindings ++ assigned value target))
  | .augment target value => target.rebindings ++ (value.rebindings ++ Rebinding.targets target)
  | .delete targets => Expr.listRebindings targets ++ targets.flatMap Rebinding.targets
  | .for_ target iter body otherwise =>
    iter.rebindings ++ (hide target.rebindings ++ (Rebinding.targets target
      ++ (Stmt.listRebindings body ++ Stmt.listRebindings otherwise)))
  | .while_ test body otherwise =>
    test.rebindings ++ (Stmt.listRebindings body ++ Stmt.listRebindings otherwise)
  | .if_ test body otherwise =>
    test.rebindings ++ (Stmt.listRebindings body ++ Stmt.listRebindings otherwise)
  | .with_ items body => WithItem.listRebindings items ++ Stmt.listRebindings body
  | .try_ _ body handlers otherwise final =>
    Stmt.listRebindings body ++ (Handler.listRebindings handlers
      ++ (Stmt.listRebindings otherwise ++ Stmt.listRebindings final))
  | .import_ names => names.map fun i => plain i.boundName
  | .importFrom _ names _ => names.map fun i => plain i.boundName
  | .match_ subject cases => subject.rebindings ++ Case.listRebindings cases
  | .evaluate values => Expr.listRebindings values

def Code.Stmt.listRebindings : List Stmt → List Rebinding
  | [] => []
  | s :: ss => s.rebindings ++ Stmt.listRebindings ss

/-- the places in handlers; the name of one is bound on entry and deleted on exit -/
def Code.Handler.listRebindings : List Handler → List Rebinding
  | [] => []
  | .mk type name body :: hs =>
    name.toList.map plain ++ (optionRebindings type ++ (Stmt.listRebindings body
      ++ (name.toList.map plain ++ Handler.listRebindings hs)))

def Code.Case.listRebindings : List Case → List Rebinding
  | [] => []
  | .mk pattern guard body :: cs =>
    pattern.rebindings
      ++ (optionRebindings guard ++ (Stmt.listRebindings body ++ Case.listRebindings cs))

end

/-! ## three sorts of names -/

namespace Code.Stmt

/-- running the statement in a function can bind or delete the name among the function's own -/
def Rebinds (s : Stmt) (x : String) : Prop := ∃ b ∈ s.rebindings, b.name = x ∧ b.own = true

/-- and can do so at a place in sight: not just by `:=` in a comprehension, in a function outside
its body, or in the target of a `for` or `with` statement -/
def RebindsInSight (s : Stmt) (x : String) : Prop :=
  ∃ b ∈ s.rebindings, b.name = x ∧ b.own = true ∧ b.inSight = true

/-- the name is bound or deleted in the body of a class, or would be in the hint of a variable -/
def RebindsInside (s : Stmt) (x : String) : Prop :=
  ∃ b ∈ s.rebindings, b.name = x ∧ b.own = false ∧ b.inSight = true

instance (s : Stmt) (x : String) : Decidable (s.Rebinds x) :=
  inferInstanceAs (Decidable (∃ b ∈ s.rebindings, b.name = x ∧ b.own = true))

instance (s : Stmt) (x : String) : Decidable (s.RebindsInSight x) :=
  inferInstanceAs (Decidable (∃ b ∈ s.rebindings, b.name = x ∧ b.own = true ∧ b.inSight = true))

instance (s : Stmt) (x : String) : Decidable (s.RebindsInside x) :=
  inferInstanceAs (Decidable (∃ b ∈ s.rebindings, b.name = x ∧ b.own = false ∧ b.inSight = true))

end Code.Stmt

end Archetype
