import Archetype.Check.Tracked

/-!
# Chains of attaches

What an attach gives can be attached to again, as in `world.create_entity().attach(A).attach(B)`.
Such a chain means the entity that it starts from, however long it is; it attaches its components to
that entity one after the other, and does nothing if it starts from no entity.

* `Dotted`              dotted names, and `Resolver.dotted`, the component that one means;
* `Attach`, `ChainStart`   an attach in a chain, and what a chain starts from;
* `Means`               what reading an expression does, and the entity that the expression means;
* `Means.chain`         what reading a chain does;
* `found_attachAll`     the problems of a chain are those of replaying its components.
-/

namespace Archetype

open Code

/-! ## dotted names -/

/-- a name that is not empty -/
abbrev Identifier := { id : String // id ≠ "" }

/-- a name, or a member of what a dotted name means -/
inductive Dotted where
  | name (id : Identifier)
  | member (value : Dotted) (attr : Identifier)

namespace Dotted

/-- the expression of a dotted name that starts at a place -/
def expr (pos : Position) : Dotted → Expr
  | name id => .name pos id.val
  | member value attr => .member pos (value.expr pos) attr.val

/-- what a dotted name ends in -/
def last : Dotted → Identifier
  | name id => id
  | member _ attr => attr

/-- reading a dotted name does nothing -/
theorem track_expr (ctx : TrackingContext) (pos : Position) (d : Dotted) (t : Tracker) :
    (d.expr pos).track ctx t = (t, none) := by
  induction d with
  | name id => rw [expr, Expr.track]
  | member value attr ih => rw [expr, Expr.track, ih]

theorem trackAll_expr (ctx : TrackingContext) (pos : Position) (d : Dotted) (t : Tracker) :
    Expr.trackAll ctx [d.expr pos] t = t := by
  rw [Expr.trackAll, d.track_expr, Expr.trackAll]

theorem spelledName?_expr (pos : Position) (d : Dotted) :
    (d.expr pos).spelledName? = some d.last.val := by
  cases d <;> rfl

/-- an argument that is a dotted name is never starred -/
theorem place?_expr (call : Position) (func : Expr) (pos : Position) (d : Dotted) (args : List Expr)
    (keywords : List Keyword) :
    CallSite.place? ⟨call, func, d.expr pos :: args, keywords⟩ 0 = some (d.expr pos) := by
  cases d <;> rfl

/-- what a dotted name means does not depend on its place -/
theorem resolveExprWith_expr (look : String → String → Index.Lookup) (module : String)
    (pos pos' : Position) (d : Dotted) :
    Index.resolveExprWith look module (d.expr pos)
      = Index.resolveExprWith look module (d.expr pos') := by
  induction d with
  | name id => rfl
  | member value attr ih => simp only [expr, Index.resolveExprWith, ih]

end Dotted

/-- the component that a dotted name means: the declaration behind it, or else what it ends in -/
def Resolver.dotted (r : Resolver) (d : Dotted) : String :=
  match r.symbol? (some (d.expr .start)) with
  | some s => s.name
  | none => d.last.val

/-- a dotted name always means a component -/
theorem Resolver.name?_dotted (r : Resolver) (pos : Position) (d : Dotted) :
    r.name? (some (d.expr pos)) = some (r.dotted d) := by
  have hplace : r.symbol? (some (d.expr pos)) = r.symbol? (some (d.expr .start)) := by
    have hresolve (index : Index) : index.resolve r.module (d.expr pos)
        = index.resolve r.module (d.expr .start) := by
      rw [Index.resolve, Index.resolve, d.resolveExprWith_expr _ _ pos .start]
    unfold Resolver.symbol?
    cases r.index with
    | none => rfl
    | some index => simp only [hresolve]
  unfold Resolver.name? Resolver.dotted
  rw [hplace]
  cases r.symbol? (some (d.expr .start)) with
  | some s => rfl
  | none => exact d.spelledName?_expr pos

/-! ## chains -/

/-- `.attach(component)`, where the call starts and where the component stands -/
structure Attach where
  pos : Position
  component : Dotted
  place : Position

/-- the attach called on something -/
def Attach.on (receiver : Expr) (a : Attach) : Expr :=
  .call a.pos (.member a.pos receiver "attach") [a.component.expr a.place] []

/-- what a chain starts from: a new entity, or what a name stands for -/
inductive ChainStart where
  | create (pos : Position) (world : Dotted)
  | name (pos : Position) (id : String)

namespace ChainStart

def expr : ChainStart → Expr
  | create pos world => .call pos (.member pos (world.expr pos) "create_entity") [] []
  | name pos id => .name pos id

/-- the chain of attaches from there on -/
def chain (start : ChainStart) (attaches : List Attach) : Expr :=
  attaches.foldl Attach.on start.expr

/-- what the start of a chain does, and the entity that it means -/
def enter (t : Tracker) : ChainStart → Tracker × Option Nat
  | create _ _ => (t.create.1, some t.entities.length)
  | name _ id => (t, t.names.get? id)

end ChainStart

/-- attaches to an entity, if there is one -/
def Tracker.attachTo (ctx : TrackingContext) (entity : Option Nat) (t : Tracker) (a : Attach) :
    Tracker :=
  match entity with
  | none => t
  | some entity => t.attach ctx.graph entity (ctx.resolver.dotted a.component) a.pos

/-- attaches to an entity, if there is one, one after the other -/
def Tracker.attachAll (ctx : TrackingContext) (entity : Option Nat) (t : Tracker)
    (attaches : List Attach) : Tracker :=
  attaches.foldl (Tracker.attachTo ctx entity) t

/-- reading `e` leads from `t` to `t'`, and `e` means `entity` -/
structure Means (ctx : TrackingContext) (e : Expr) (t t' : Tracker) (entity : Option Nat) :
    Prop where
  reads : (e.track ctx t).1 = t'
  gives : entityOf? t' e (e.track ctx t).2 = entity

theorem classify?_create (pos : Position) (receiver : Expr) :
    classify? ⟨pos, .member pos receiver "create_entity", [], []⟩ = some .create := by
  simp [classify?, calledName?, validatorNames, templateNames, queryNames, createNames]

theorem classify?_attach (a : Attach) (receiver : Expr) :
    classify? ⟨a.pos, .member a.pos receiver "attach", [a.component.expr a.place], []⟩
      = some (.attach receiver (some (a.component.expr a.place))) := by
  have hplace := a.component.place?_expr a.pos (.member a.pos receiver "attach") a.place [] []
  simp [classify?, calledName?, validatorNames, templateNames, queryNames, createNames,
    attachNames, hplace]

section
variable {ctx : TrackingContext}

theorem means_enter (start : ChainStart) (t : Tracker) :
    Means ctx start.expr t (start.enter t).1 (start.enter t).2 := by
  cases start with
  | create pos world =>
    have htrack : (ChainStart.create pos world).expr.track ctx t
        = (t.create.1, some t.entities.length) := by
      simp only [ChainStart.expr, Expr.track, world.track_expr, Expr.trackAll, Keyword.trackAll,
        TrackingContext.call, classify?_create]
      rfl
    exact ⟨by rw [htrack]; rfl, by rw [htrack]; rfl⟩
  | name pos id => exact ⟨by rw [ChainStart.expr, Expr.track]; rfl, rfl⟩

/-- one attach more: the entity stays the same -/
theorem Means.attach {e : Expr} {t t' : Tracker} {entity : Option Nat} (h : Means ctx e t t' entity)
    (a : Attach) :
    Means ctx (a.on e) t (t'.attachTo ctx entity a) entity := by
  have htrack : (a.on e).track ctx t = (t'.attachTo ctx entity a, entity) := by
    have hgives := h.gives
    simp only [Attach.on, Expr.track, h.reads, a.component.trackAll_expr, Keyword.trackAll,
      TrackingContext.call, classify?_attach, hgives, ctx.resolver.name?_dotted]
    cases entity with
    | none => rfl
    | some entity => rfl
  exact ⟨by rw [htrack], by rw [htrack]; rfl⟩

/-- reading a chain attaches its components to the entity that it starts from, and the chain means
that entity -/
theorem Means.foldl {e : Expr} {t t' : Tracker} {entity : Option Nat} (h : Means ctx e t t' entity)
    (attaches : List Attach) :
    Means ctx (attaches.foldl Attach.on e) t (t'.attachAll ctx entity attaches) entity := by
  induction attaches generalizing e t' with
  | nil => exact h
  | cons a attaches ih => exact ih (h.attach a)

theorem means_chain (ctx : TrackingContext) (start : ChainStart) (attaches : List Attach)
    (t : Tracker) :
    Means ctx (start.chain attaches) t ((start.enter t).1.attachAll ctx (start.enter t).2 attaches)
      (start.enter t).2 :=
  (means_enter start t).foldl attaches

/-! ## what is attached -/

theorem names_attachTo (entity : Option Nat) (t : Tracker) (a : Attach) :
    (t.attachTo ctx entity a).names = t.names := by
  cases entity <;> rfl

/-- the component of an attach, at the place where its problems are reported -/
def Attach.reference (r : Resolver) (a : Attach) : Reference := ⟨r.dotted a.component, a.pos⟩

/-- the problems of attaching to one entity are those of replaying the components -/
theorem found_attachAll (entity : Nat) (t : Tracker) (attaches : List Attach)
    (h : entity < t.entities.length) :
    (t.attachAll ctx (some entity) attaches).found = t.found
      ++ replay ctx.graph .entity (t.entities.getD entity [])
        (attaches.map (Attach.reference ctx.resolver)) := by
  induction attaches generalizing t with
  | nil => exact (List.append_nil _).symm
  | cons a attaches ih =>
    have hlen : entity < (t.attachTo ctx (some entity) a).entities.length := by
      show entity < (t.entities.set entity _).length
      rwa [List.length_set]
    have hset : (t.attachTo ctx (some entity) a).entities.getD entity []
        = (t.entities.getD entity []).add (ctx.resolver.dotted a.component) := by
      show (t.entities.set entity _).getD entity [] = _
      rw [List.getD_eq_getElem?_getD, List.getElem?_set_self h, Option.getD_some]
    show ((t.attachTo ctx (some entity) a).attachAll ctx (some entity) attaches).found = _
    rw [ih _ hlen, hset, List.map_cons, replay, ← List.append_assoc]
    rfl

end

end Archetype
