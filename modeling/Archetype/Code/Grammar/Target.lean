import Archetype.Code.Tree

/-!
# Expressions that can be assigned to

* `Expr.isTarget`         targets of an assignment: names, members, items, and rows of targets;
* `Expr.isStarTarget`     the same with a star before it allowed, as in a row;
* `Expr.isSingleTarget`   targets that take a value as a whole;
* `Expr.isDeletable`      targets of `del`.
-/

namespace Archetype.Code

mutual

/-- can it be assigned to? -/
def Expr.isTarget : Expr → Bool
  | .name _ _ | .member _ _ _ | .subscript _ _ _ => true
  | .row _ .tuple items | .row _ .list items => Expr.areTargets items
  | _ => false

/-- can the items of a row be assigned to? One can take the rest, which a star before it says. -/
def Expr.areTargets : List Expr → Bool
  | [] => true
  | .starred _ value :: items => value.isTarget && Expr.areTargets items
  | item :: items => item.isTarget && Expr.areTargets items

end

/-- can it be assigned to, perhaps with a star before it? -/
def Expr.isStarTarget : Expr → Bool
  | .starred _ value => value.isTarget
  | e => e.isTarget

/-- does it take a value as a whole? -/
def Expr.isSingleTarget : Expr → Bool
  | .name _ _ | .member _ _ _ | .subscript _ _ _ => true
  | _ => false

mutual

/-- can it be deleted? -/
def Expr.isDeletable : Expr → Bool
  | .name _ _ | .member _ _ _ | .subscript _ _ _ => true
  | .row _ .tuple items | .row _ .list items => Expr.areDeletable items
  | _ => false

/-- can all items of a row be deleted? -/
def Expr.areDeletable : List Expr → Bool
  | [] => true
  | item :: items => item.isDeletable && Expr.areDeletable items

end

end Archetype.Code
