import Archetype.Declaration
import Archetype.Proofs.Nodes
import Mathlib.Data.List.Forall2

/-!
# What a unit declares

The declarations of a unit are read off its calls, which a search by levels finds and a sort puts in
the order of their places. Here the three lists are set against the tree itself: its call nodes at
any depth, and the items of the displays that a call is given.

* `ListedInOrder`        one declaration for each call that counts, in the order of the places of
                         the calls;
* `Mentions`             what a list of references takes from a display;
* `orderedCalls`         the calls that have a shape, in the order in which they are read;
* `declarations_exact`   no declaration of a unit is lost or made twice, and each says what its call
                         says.
-/

namespace Archetype

open Code (Expr CallSite Position Stmt callNodes callsOf)
open Text (CodePoints)

/-! ## source order -/

/-- `found` has one entry for each call of the module that `counts`, and each is what its call
`gives`; they come in the order of the places of the calls -/
def ListedInOrder {β : Type} (body : List Stmt) (counts : CallSite → Bool)
    (gives : CallSite → β → Prop) (found : List β) : Prop :=
  ∃ calls : List CallSite, calls.Perm ((callNodes body).filter counts) ∧
    calls.Pairwise (fun c d => c.pos.le d.pos = true) ∧ List.Forall₂ gives calls found

/-! ## what lists of references hold -/

/-- the items of a display -/
def itemsOf : Option Expr → List Expr
  | some (.row _ _ items) => items
  | _ => []

/-- is it a list, tuple or set display? -/
def isDisplay : Option Expr → Bool
  | some (.row _ _ _) => true
  | _ => false

/-- `mentions` are what `reads` makes of the items of `e`, one for each item that is not starred and
that it makes something of, in the order of the display -/
def Mentions {κ : Type} (reads : Expr → Option κ) (e : Option Expr) (mentions : List (Mention κ)) :
    Prop :=
  List.Forall₂ (fun item m => reads item = some m.name ∧ m.pos = item.pos)
    ((itemsOf e).filter fun item => !item.isStarred && (reads item).isSome) mentions

theorem forall₂_filterMap {α β : Type} (f : α → Option β) (l : List α) :
    List.Forall₂ (fun a b => f a = some b) (l.filter fun a => (f a).isSome) (l.filterMap f) := by
  induction l with
  | nil => exact List.Forall₂.nil
  | cons a l ih =>
    cases hf : f a with
    | none => simpa [hf] using ih
    | some b => simpa [hf] using ih

theorem getD_displayItems? (e : Option Expr) :
    (e.bind displayItems?).getD [] = (itemsOf e).filter fun item => !item.isStarred := by
  cases e with
  | none => rfl
  | some e =>
    cases e with
    | row pos kind items =>
      refine List.filter_congr fun item _ => ?_
      cases item <;> rfl
    | _ => rfl

/-- the entries that a display gives to a reading -/
theorem mentions_filterMap {κ : Type} (reads : Expr → Option κ) (e : Option Expr) :
    Mentions reads e (((e.bind displayItems?).getD []).filterMap fun item =>
      (reads item).map fun name => ⟨name, item.pos⟩) := by
  have hboth : ((itemsOf e).filter fun item => !item.isStarred && (reads item).isSome)
      = (((e.bind displayItems?).getD []).filter fun item =>
          ((reads item).map fun name => (⟨name, item.pos⟩ : Mention κ)).isSome) := by
    rw [getD_displayItems?, List.filter_filter]
    simp only [Option.isSome_map, Bool.and_comm]
  unfold Mentions
  rw [hboth]
  refine (forall₂_filterMap _ _).imp fun item m hm => ?_
  obtain ⟨name, hname, rfl⟩ := Option.map_eq_some_iff.mp hm
  exact ⟨hname, rfl⟩

/-- what an entry of a template names: the entry itself, or what its dictionary has as type -/
def entryMeaning : Expr → Option Expr
  | .dict pos entries => dictValue? (some (.dict pos entries)) ["type"]
  | e => some e

theorem templateEntry?_eq (r : Resolver) (entry : Expr) :
    r.templateEntry? entry = (r.component? (entryMeaning entry)).map fun name =>
      ⟨name, entry.pos⟩ := by
  cases entry <;> rfl

/-! ## what the calls declare -/

/-- what a reading of shapes makes of a call -/
def declaredBy {β : Type} (read : CallSite → Shape → Option β) (c : CallSite) : Option β :=
  (classify? c).bind (read c)

namespace Resolver

/-- `v` is what the call `c` says of the component that it is about -/
structure GivesValidator (r : Resolver) (c : CallSite) (v : Validator) : Prop where
  call : v.call = c.pos
  shape : ∃ s : ValidatorShape, classify? c = some (.validator s) ∧ s.subject = some v.subjectExpr ∧
    Mentions (fun item => r.component? (some item)) s.dependencies v.dependencies ∧
    Mentions (fun item => r.component? (some item)) s.conflicts v.conflicts ∧
    v.dependenciesPos = s.dependencies.map Expr.pos ∧ v.conflictsPos = s.conflicts.map Expr.pos
  subject : r.component? (some v.subjectExpr) = some v.subject.name ∧
    v.subject.pos = v.subjectExpr.pos

/-- `t` is the template that the call `c` declares -/
structure GivesTemplate (r : Resolver) (c : CallSite) (t : Template) : Prop where
  call : t.call = c.pos
  shape : ∃ s : TemplateShape, classify? c = some (.template s) ∧ t.name = s.name ∧
    Mentions (fun entry => r.component? (entryMeaning entry)) s.components t.components

/-- `q` is the query that the call `c` declares -/
structure GivesQuery (r : Resolver) (c : CallSite) (q : Query) : Prop where
  call : q.call = c.pos
  shape : ∃ s : QueryShape, classify? c = some (.query s) ∧ q.name = s.name ∧
    Mentions (fun item => r.component? (some item)) s.all q.all ∧
    Mentions (fun item => r.component? (some item)) s.any q.any ∧
    Mentions (fun item => r.component? (some item)) s.none q.none ∧
    Mentions constant? s.tags q.tags ∧ Mentions constant? s.withoutTags q.withoutTags

/-- is the call one that declares constraints of a component, and does that resolve? -/
def isValidator (r : Resolver) (c : CallSite) : Bool :=
  match classify? c with
  | some (.validator s) => (r.component? s.subject).isSome
  | _ => false

/-- the constraints that a call of a given shape declares -/
def validatorIn? (r : Resolver) (c : CallSite) : Shape → Option Validator
  | .validator s => r.validator? c.pos s
  | _ => none

/-- the template that a call of a given shape declares -/
def templateIn? (r : Resolver) (c : CallSite) : Shape → Option Template
  | .template s => r.template? c.pos s
  | _ => none

/-- the query that a call of a given shape declares -/
def queryIn? (r : Resolver) (c : CallSite) : Shape → Option Query
  | .query s => some (r.query c.pos s)
  | _ => none

end Resolver

/-- is the call one that declares a template with a display of components? -/
def isTemplate (c : CallSite) : Bool :=
  match classify? c with
  | some (.template s) => isDisplay s.components
  | _ => false

/-- is the call one that declares a query? -/
def isQuery (c : CallSite) : Bool :=
  match classify? c with
  | some (.query _) => true
  | _ => false

namespace Resolver

theorem component?_none (r : Resolver) : r.component? none = none := by
  cases r with
  | mk module index => cases index <;> rfl

theorem isSome_validatorIn? (r : Resolver) (c : CallSite) :
    (declaredBy r.validatorIn? c).isSome = r.isValidator c := by
  unfold declaredBy isValidator
  cases classify? c with
  | none => rfl
  | some shape =>
    cases shape with
    | validator s =>
      show (r.validator? c.pos s).isSome = _
      unfold validator?
      cases hsubject : s.subject with
      | none => simp only [hsubject, component?_none]; rfl
      | some e => cases hname : r.component? (some e) <;> simp only [hsubject, hname] <;> rfl
    | _ => rfl

theorem gives_of_validatorIn? {r : Resolver} {c : CallSite} {v : Validator}
    (h : declaredBy r.validatorIn? c = some v) : r.GivesValidator c v := by
  obtain ⟨shape, hs, h⟩ := Option.bind_eq_some_iff.mp h
  cases shape with
  | validator s =>
    change r.validator? c.pos s = some v at h
    unfold validator? at h
    split at h
    · rename_i e name hsubject hname
      cases h
      exact ⟨rfl, ⟨s, hs, hsubject, mentions_filterMap _ _, mentions_filterMap _ _, rfl, rfl⟩,
        hsubject ▸ hname, rfl⟩
    · cases h
  | _ => cases h

theorem isSome_templateIn? (r : Resolver) (c : CallSite) :
    (declaredBy r.templateIn? c).isSome = isTemplate c := by
  unfold declaredBy isTemplate
  cases classify? c with
  | none => rfl
  | some shape =>
    cases shape with
    | template s =>
      show (r.template? c.pos s).isSome = isDisplay s.components
      unfold template?
      rw [Option.isSome_map]
      cases s.components with
      | none => rfl
      | some e => cases e <;> rfl
    | _ => rfl

theorem gives_of_templateIn? {r : Resolver} {c : CallSite} {t : Template}
    (h : declaredBy r.templateIn? c = some t) : r.GivesTemplate c t := by
  obtain ⟨shape, hs, h⟩ := Option.bind_eq_some_iff.mp h
  cases shape with
  | template s =>
    obtain ⟨items, hitems, rfl⟩ := Option.map_eq_some_iff.mp h
    refine ⟨rfl, s, hs, rfl, ?_⟩
    have hentries :=
      mentions_filterMap (fun entry => r.component? (entryMeaning entry)) s.components
    rw [hitems] at hentries
    simp only [← templateEntry?_eq] at hentries
    exact hentries
  | _ => cases h

theorem isSome_queryIn? (r : Resolver) (c : CallSite) :
    (declaredBy r.queryIn? c).isSome = isQuery c := by
  unfold declaredBy isQuery
  cases classify? c with
  | none => rfl
  | some shape => cases shape <;> rfl

theorem gives_of_queryIn? {r : Resolver} {c : CallSite} {q : Query}
    (h : declaredBy r.queryIn? c = some q) : r.GivesQuery c q := by
  obtain ⟨shape, hs, h⟩ := Option.bind_eq_some_iff.mp h
  cases shape with
  | query s =>
    cases h
    exact ⟨rfl, s, hs, rfl, mentions_filterMap _ _, mentions_filterMap _ _, mentions_filterMap _ _,
      mentions_filterMap _ _, mentions_filterMap _ _⟩
  | _ => cases h

end Resolver

/-! ## the calls in order -/

/-- the calls that have a shape, in the order in which they are read -/
def orderedCalls (body : List Stmt) : List CallSite :=
  (Declarations.orderedShapes body).map Prod.fst

theorem mem_orderedShapes {body : List Stmt} {p : CallSite × Shape}
    (h : p ∈ Declarations.orderedShapes body) :
    classify? p.1 = some p.2 := by
  obtain ⟨c, _, hc⟩ := List.mem_filterMap.mp (List.mem_mergeSort.mp h)
  obtain ⟨s, hs, rfl⟩ := Option.map_eq_some_iff.mp hc
  exact hs

theorem map_fst_shapesOf (body : List Stmt) :
    (shapesOf body).map Prod.fst = (callsOf body).filter fun c => (classify? c).isSome := by
  unfold shapesOf
  induction callsOf body with
  | nil => rfl
  | cons c cs ih => cases hc : classify? c <;> simp [hc, ih]

theorem orderedCalls_perm (body : List Stmt) :
    (orderedCalls body).Perm ((callNodes body).filter fun c => (classify? c).isSome) := by
  have hsorted : (orderedCalls body).Perm ((shapesOf body).map Prod.fst) :=
    (List.mergeSort_perm _ _).map _
  rw [map_fst_shapesOf] at hsorted
  exact hsorted.trans ((Code.callsOf_perm body).filter _)

theorem orderedCalls_pairwise (body : List Stmt) :
    (orderedCalls body).Pairwise fun c d => c.pos.le d.pos = true := by
  unfold orderedCalls Declarations.orderedShapes
  rw [List.pairwise_map]
  exact List.pairwise_mergeSort (fun a b c => Position.le_trans a.1.pos b.1.pos c.1.pos)
    (fun a b => Position.le_total a.1.pos b.1.pos) _

theorem filterMap_orderedShapes {β : Type} (read : CallSite → Shape → Option β) (body : List Stmt) :
    ((Declarations.orderedShapes body).filterMap fun p => read p.1 p.2)
      = (orderedCalls body).filterMap (declaredBy read) := by
  unfold orderedCalls
  rw [List.filterMap_map]
  refine List.filterMap_congr fun p hp => ?_
  show read p.1 p.2 = (classify? p.1).bind (read p.1)
  rw [mem_orderedShapes hp]
  rfl

theorem validators_ofUnit (u : SourceUnit) (r : Resolver) :
    (Declarations.ofUnit u r).validators
      = (orderedCalls u.body).filterMap (declaredBy r.validatorIn?) := by
  rw [← filterMap_orderedShapes]
  refine List.filterMap_congr fun p _ => ?_
  obtain ⟨c, s⟩ := p
  cases s <;> rfl

theorem templates_ofUnit (u : SourceUnit) (r : Resolver) :
    (Declarations.ofUnit u r).templates
      = (orderedCalls u.body).filterMap (declaredBy r.templateIn?) := by
  rw [← filterMap_orderedShapes]
  refine List.filterMap_congr fun p _ => ?_
  obtain ⟨c, s⟩ := p
  cases s <;> rfl

theorem queries_ofUnit (u : SourceUnit) (r : Resolver) :
    (Declarations.ofUnit u r).queries
      = (orderedCalls u.body).filterMap (declaredBy r.queryIn?) := by
  rw [← filterMap_orderedShapes]
  refine List.filterMap_congr fun p _ => ?_
  obtain ⟨c, s⟩ := p
  cases s <;> rfl

/-- what is read off the calls in order is listed, if it is one entry for each call that counts -/
theorem listedInOrder_filterMap {β : Type} {read : CallSite → Shape → Option β}
    {counts : CallSite → Bool} {gives : CallSite → β → Prop}
    (hcounts : ∀ c, (declaredBy read c).isSome = counts c)
    (hgives : ∀ c b, declaredBy read c = some b → gives c b) (body : List Stmt) :
    ListedInOrder body counts gives ((orderedCalls body).filterMap (declaredBy read)) := by
  have hshaped : ∀ c, (counts c && (classify? c).isSome) = counts c := by
    intro c
    rw [← hcounts c]
    unfold declaredBy
    cases classify? c with
    | none => rfl
    | some s => exact Bool.and_true _
  refine ⟨(orderedCalls body).filter counts, ?_, (orderedCalls_pairwise body).filter _, ?_⟩
  · have hperm := (orderedCalls_perm body).filter counts
    rw [List.filter_filter] at hperm
    simpa only [hshaped] using hperm
  · have hread := forall₂_filterMap (declaredBy read) (orderedCalls body)
    simp only [hcounts] at hread
    exact hread.imp fun c b => hgives c b

/-- Extraction neither loses nor duplicates declarations. Each of the three lists has one entry for
each call of the module, at any depth, that declares such a thing: constraints where the subject
resolves, a template where the components are a display, a query always. The entries come in the
order of the places of the calls, and each list of references holds what the items of its display
name, in their order. -/
theorem declarations_exact (u : SourceUnit) (r : Resolver) :
    ListedInOrder u.body r.isValidator r.GivesValidator (Declarations.ofUnit u r).validators ∧
    ListedInOrder u.body isTemplate r.GivesTemplate (Declarations.ofUnit u r).templates ∧
    ListedInOrder u.body isQuery r.GivesQuery (Declarations.ofUnit u r).queries := by
  rw [validators_ofUnit, templates_ofUnit, queries_ofUnit]
  exact ⟨listedInOrder_filterMap r.isSome_validatorIn?
    (fun _ _ => Resolver.gives_of_validatorIn?) _,
    listedInOrder_filterMap r.isSome_templateIn? (fun _ _ => Resolver.gives_of_templateIn?) _,
    listedInOrder_filterMap r.isSome_queryIn? (fun _ _ => Resolver.gives_of_queryIn?) _⟩

end Archetype
