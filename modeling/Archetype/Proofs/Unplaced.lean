import Archetype.Proofs.Extraction

/-!
# Expressions without their places

Two expressions that are written alike at different places differ in their positions alone.
`Expr.unplaced` puts all positions to the start of the text, so what is written alike becomes equal,
and the names that are read off an expression stay as they are.

* `Expr.unplaced`            an expression whose positions are forgotten;
* `component?_unplaced`      it means the same component;
* `Mentions.map_name_eq`     displays that are written alike give the same names.
-/

namespace Archetype

open Code

mutual

/-- the expression with all places at the start of the text -/
def Code.Expr.unplaced : Expr → Expr
  | .name _ id => .name .start id
  | .str _ value => .str .start value
  | .member _ value attr => .member .start value.unplaced attr
  | .call _ func args keywords =>
    .call .start func.unplaced (Expr.unplacedAll args) (Keyword.unplacedAll keywords)
  | .row _ kind items => .row .start kind (Expr.unplacedAll items)
  | .dict _ entries => .dict .start (Entry.unplacedAll entries)
  | .starred _ value => .starred .start value.unplaced
  | .subscript _ value index => .subscript .start value.unplaced index.unplaced
  | .named _ target value => .named .start target.unplaced value.unplaced
  | .lambda _ parameters body => .lambda .start (Parameter.unplacedAll parameters) body.unplaced
  | .comprehension _ yields clauses =>
    .comprehension .start (Expr.unplacedAll yields) (Clause.unplacedAll clauses)
  | .other _ operands => .other .start (Expr.unplacedAll operands)

def Code.Expr.unplacedAll : List Expr → List Expr
  | [] => []
  | e :: es => e.unplaced :: Expr.unplacedAll es

def Code.Keyword.unplacedAll : List Keyword → List Keyword
  | [] => []
  | .mk name value :: ks => .mk name value.unplaced :: Keyword.unplacedAll ks

def Code.Entry.unplacedAll : List Entry → List Entry
  | [] => []
  | .pair key value :: es => .pair key.unplaced value.unplaced :: Entry.unplacedAll es
  | .spread value :: es => .spread value.unplaced :: Entry.unplacedAll es

def Code.Clause.unplacedAll : List Clause → List Clause
  | [] => []
  | .mk target iter conditions :: cs =>
    .mk target.unplaced iter.unplaced (Expr.unplacedAll conditions) :: Clause.unplacedAll cs

def Code.Parameter.unplacedAll : List Parameter → List Parameter
  | [] => []
  | .hint value :: ps => .hint value.unplaced :: Parameter.unplacedAll ps
  | .default value :: ps => .default value.unplaced :: Parameter.unplacedAll ps

end

theorem unplacedAll_eq_map (es : List Expr) : Expr.unplacedAll es = es.map Expr.unplaced := by
  induction es with
  | nil => rfl
  | cons e es ih => rw [Expr.unplacedAll, ih, List.map_cons]

/-- the entry with all places at the start of the text -/
def Code.Entry.unplaced : Entry → Entry
  | .pair key value => .pair key.unplaced value.unplaced
  | .spread value => .spread value.unplaced

theorem unplacedEntries_eq_map (es : List Entry) :
    Entry.unplacedAll es = es.map Entry.unplaced := by
  induction es with
  | nil => rfl
  | cons e es ih => cases e <;> rw [Entry.unplacedAll, ih, List.map_cons] <;> rfl

/-! ## what does not look at places -/

theorem spelledName?_unplaced (e : Expr) : e.unplaced.spelledName? = e.spelledName? := by
  cases e <;> rfl

theorem constant?_unplaced (e : Expr) : constant? e.unplaced = constant? e := by cases e <;> rfl

theorem isStarred_unplaced (e : Expr) : e.unplaced.isStarred = e.isStarred := by cases e <;> rfl

theorem itemsOf_unplaced (e : Option Expr) :
    itemsOf (e.map Expr.unplaced) = (itemsOf e).map Expr.unplaced := by
  cases e with
  | none => rfl
  | some e =>
    cases e with
    | row pos kind items => exact unplacedAll_eq_map items
    | _ => rfl

theorem resolveExprWith_unplaced (lookup : String → String → Index.Lookup) (module : String)
    (e : Expr) :
    Index.resolveExprWith lookup module e.unplaced = Index.resolveExprWith lookup module e := by
  match e with
  | .member pos value attr =>
    have ih := resolveExprWith_unplaced lookup module value
    rw [Expr.unplaced, Index.resolveExprWith, Index.resolveExprWith, ih]
  | .name .. | .str .. | .call .. | .row .. | .dict .. | .starred .. | .subscript .. | .named ..
  | .lambda .. | .comprehension .. | .other .. => rfl

theorem symbol?_unplaced (r : Resolver) (e : Option Expr) :
    r.symbol? (e.map Expr.unplaced) = r.symbol? e := by
  obtain ⟨module, index⟩ := r
  cases index with
  | none => cases e <;> rfl
  | some index =>
    cases e with
    | none => rfl
    | some e =>
      have hresolve : index.resolve module e.unplaced = index.resolve module e := by
        unfold Index.resolve
        rw [resolveExprWith_unplaced]
      unfold Resolver.symbol?
      simp only [Option.map_some, hresolve]

theorem name?_unplaced (r : Resolver) (e : Option Expr) :
    r.name? (e.map Expr.unplaced) = r.name? e := by
  have hspelled : (e.map Expr.unplaced).bind Expr.spelledName? = e.bind Expr.spelledName? := by
    cases e with
    | none => rfl
    | some e => exact spelledName?_unplaced e
  unfold Resolver.name?
  rw [symbol?_unplaced, hspelled]

/-- an expression means the same component wherever it is written -/
theorem component?_unplaced (r : Resolver) (e : Option Expr) :
    r.component? (e.map Expr.unplaced) = r.component? e := by
  unfold Resolver.component?
  rw [name?_unplaced]

theorem entryValue?_unplaced (keys : List String) (e : Entry) :
    entryValue? keys e.unplaced = (entryValue? keys e).map Expr.unplaced := by
  cases e with
  | spread value => rfl
  | pair key value =>
    cases key with
    | str pos text =>
      show (if text.text ∈ keys then some value.unplaced else none)
        = (if text.text ∈ keys then some value else none).map Expr.unplaced
      split <;> rfl
    | _ => rfl

theorem dictValue?_unplaced (e : Option Expr) (keys : List String) :
    dictValue? (e.map Expr.unplaced) keys = (dictValue? e keys).map Expr.unplaced := by
  cases e with
  | none => rfl
  | some e =>
    cases e with
    | dict pos entries =>
      show (Entry.unplacedAll entries).findSome? (entryValue? keys)
        = (entries.findSome? (entryValue? keys)).map Expr.unplaced
      rw [unplacedEntries_eq_map, List.findSome?_map, List.map_findSome?]
      congr 1
      funext entry
      exact entryValue?_unplaced keys entry
    | _ => rfl

theorem entryMeaning_unplaced (e : Expr) :
    entryMeaning e.unplaced = (entryMeaning e).map Expr.unplaced := by
  cases e with
  | dict pos entries => exact dictValue?_unplaced (some (.dict pos entries)) ["type"]
  | _ => rfl

/-! ## displays that are written alike -/

theorem Mentions.map_name {κ : Type} {reads : Expr → Option κ} {e : Option Expr}
    {ms : List (Mention κ)} (h : Mentions reads e ms) :
    ms.map Mention.name = ((itemsOf e).filter fun item => !item.isStarred).filterMap reads := by
  have hfilter : ∀ items : List Expr, (items.filter fun item => !item.isStarred).filterMap reads
      = (items.filter fun item => !item.isStarred && (reads item).isSome).filterMap reads := by
    intro items
    induction items with
    | nil => rfl
    | cons item items ih =>
      cases hstar : item.isStarred <;> cases hread : reads item <;> simp [hstar, hread, ih]
  rw [hfilter]
  unfold Mentions at h
  generalize (itemsOf e).filter _ = kept at h
  induction h with
  | nil => rfl
  | cons hab _ ih => rw [List.map_cons, List.filterMap_cons_some hab.1, ih]

/-- displays that are written alike give the same names, if these do not depend on places -/
theorem Mentions.map_name_eq {κ : Type} {reads : Expr → Option κ}
    (hreads : ∀ e : Expr, reads e.unplaced = reads e) {e e' : Option Expr}
    {ms ms' : List (Mention κ)} (h : Mentions reads e ms) (h' : Mentions reads e' ms')
    (halike : e.map Expr.unplaced = e'.map Expr.unplaced) :
    ms.map Mention.name = ms'.map Mention.name := by
  have hplaceless : ∀ e : Option Expr,
      ((itemsOf (e.map Expr.unplaced)).filter fun item => !item.isStarred).filterMap reads
      = ((itemsOf e).filter fun item => !item.isStarred).filterMap reads := by
    intro e
    rw [itemsOf_unplaced, List.filter_map, List.filterMap_map]
    simp only [Function.comp_def, isStarred_unplaced, hreads]
  rw [h.map_name, h'.map_name, ← hplaceless e, ← hplaceless e', halike]

end Archetype
