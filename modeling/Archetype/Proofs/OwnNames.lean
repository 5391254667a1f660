import Archetype.Proofs.Tracking
import Mathlib.Data.List.GetD

/-!
# Code with names of its own

A function, a lambda and a comprehension are read with names of their own. All code shares one row
of entities, and attaching changes it in place, so it has to be shown that such code touches none of
the entities around it: it reads just as it does alone, with the numbers of its entities moved up
behind those that were there before.

* `Enclosed`                 such code, what reading it does, and what reading its inside does;
* `Behind`                   a state that is another one, put behind entities and problems that were
                             there before;
* `tandem_behind`            every operation keeps it, so two runs of the same code end as far apart
                             as they began;
* `enclosed_reads_as_alone`  what reading such code does to any state;
* `later`                    a function that uses a name of the code around it for an entity of its
                             own.
-/

namespace Archetype

open Code

/-! ## the code -/

/-- code with names of its own -/
inductive Enclosed where
  | function (pos : Position) (name : String) (parameters : List Parameter) (body : List Stmt)
      (decorators : List Expr) (returns : Option Expr)
  | lambda (pos : Position) (parameters : List Parameter) (body : Expr)
  | comprehension (pos : Position) (yields : List Expr) (clauses : List Clause)

namespace Enclosed

/-- reads the code where it stands -/
def read (ctx : TrackingContext) : Enclosed → Tracker → Tracker
  | function pos name parameters body decorators returns, t =>
    (Stmt.function pos name parameters body decorators returns).track ctx t
  | lambda pos parameters body, t => ((Expr.lambda pos parameters body).track ctx t).1
  | comprehension pos yields clauses, t => ((Expr.comprehension pos yields clauses).track ctx t).1

/-- the name that the code is bound to: that of a function -/
def name? : Enclosed → Option String
  | function _ name _ _ _ _ => some name
  | lambda _ _ _ | comprehension _ _ _ => none

/-- reads what stands inside, once its names have been set apart -/
def readInside (ctx : TrackingContext) : Enclosed → Tracker → Tracker
  | function _ _ parameters body decorators returns, t =>
    trackOption ctx returns
      (Expr.trackAll ctx decorators (Stmt.trackAll ctx body (Parameter.trackAll ctx parameters t)))
  | lambda _ parameters body, t => (body.track ctx (Parameter.trackAll ctx parameters t)).1
  | comprehension _ yields clauses, t => Clause.trackAll ctx clauses (Expr.trackAll ctx yields t)

theorem read_eq_apart (ctx : TrackingContext) (f : Enclosed) (t : Tracker) :
    f.read ctx t = (t.drop? f.name?).apart (f.readInside ctx) := by
  cases f with
  | function pos name parameters body decorators returns =>
    rw [read, Stmt.track]
    rfl
  | lambda pos parameters body =>
    rw [read, Expr.track]
    rfl
  | comprehension pos yields clauses =>
    rw [read, Expr.track]
    rfl

theorem readInside_tandem {ctx ctx' : TrackingContext} {E : Nat → Nat → Prop}
    {R : Tracker → Tracker → Prop} (K : ctx.Tandem ctx' E R) (f : Enclosed) (t t' : Tracker)
    (h : R t t') :
    R (f.readInside ctx t) (f.readInside ctx' t') := by
  cases f with
  | function pos name parameters body decorators returns =>
    have hbody := Stmt.trackAll_tandem K body _ _ (Parameter.trackAll_tandem K parameters t t' h)
    exact trackOption_tandem K returns _ _ (Expr.trackAll_tandem K decorators _ _ hbody)
  | lambda pos parameters body =>
    exact (body.track_tandem K _ _ (Parameter.trackAll_tandem K parameters t t' h)).1
  | comprehension pos yields clauses =>
    exact Clause.trackAll_tandem K clauses _ _ (Expr.trackAll_tandem K yields t t' h)

end Enclosed

/-! ## tables with other values -/

section
variable {β γ : Type}

/-- the table with each value changed by `f` -/
def Assoc.mapValues (f : β → γ) (m : Assoc β) : Assoc γ := m.map fun e => (e.1, f e.2)

theorem Assoc.mapValues_cons (f : β → γ) (k : String) (v : β) (m : Assoc β) :
    Assoc.mapValues f ((k, v) :: m) = (k, f v) :: Assoc.mapValues f m := rfl

theorem Assoc.get?_mapValues (f : β → γ) (m : Assoc β) (key : String) :
    (Assoc.mapValues f m).get? key = (m.get? key).map f := by
  induction m with
  | nil => rfl
  | cons e m ih =>
    obtain ⟨k, v⟩ := e
    rw [mapValues_cons, get?_cons, get?_cons, ih]
    split <;> rfl

theorem Assoc.insert_mapValues (f : β → γ) (m : Assoc β) (key : String) (value : β) :
    (Assoc.mapValues f m).insert key (f value) = Assoc.mapValues f (m.insert key value) := by
  induction m with
  | nil => rfl
  | cons e m ih =>
    obtain ⟨k, v⟩ := e
    rw [mapValues_cons, Assoc.insert, Assoc.insert, ih]
    split <;> rfl

theorem Assoc.erase_mapValues (f : β → γ) (m : Assoc β) (key : String) :
    (Assoc.mapValues f m).erase key = Assoc.mapValues f (m.erase key) := by
  induction m with
  | nil => rfl
  | cons e m ih =>
    obtain ⟨k, v⟩ := e
    rw [mapValues_cons, Assoc.erase, Assoc.erase, ih]
    split <;> rfl

end

/-! ## one state behind another -/

/-- `t` is `t'` behind the entities `base` and the problems `before` -/
structure Behind (base : List Names) (before : List Placed) (t t' : Tracker) : Prop where
  names : t.names = t'.names.mapValues (base.length + ·)
  entities : t.entities = base ++ t'.entities
  found : t.found = before ++ t'.found

namespace Behind

variable {base : List Names} {before : List Placed} {t t' : Tracker}

theorem create (h : Behind base before t t') :
    Behind base before t.create.1 t'.create.1 ∧ t.create.2 = base.length + t'.create.2 := by
  refine ⟨⟨h.names, ?_, h.found⟩, ?_⟩
  · show t.entities ++ [[]] = base ++ (t'.entities ++ [[]])
    rw [h.entities, List.append_assoc]
  · show t.entities.length = base.length + t'.entities.length
    rw [h.entities, List.length_append]

/-- no number from `base.length` on is that of an entity of `base` -/
theorem attach (h : Behind base before t t') (g : ConstraintGraph) (entity : Nat)
    (component : String) (pos : Position) :
    Behind base before (t.attach g (base.length + entity) component pos)
      (t'.attach g entity component pos) := by
  have hpresent : t.entities.getD (base.length + entity) [] = t'.entities.getD entity [] := by
    rw [h.entities, List.getD_append_right _ _ _ _ (Nat.le_add_right _ _), Nat.add_sub_cancel_left]
  refine ⟨h.names, ?_, ?_⟩
  · show t.entities.set (base.length + entity)
      (Names.add (t.entities.getD (base.length + entity) []) component)
      = base ++ t'.entities.set entity (Names.add (t'.entities.getD entity []) component)
    rw [hpresent, h.entities, List.set_append_right _ _ (Nat.le_add_right _ _),
      Nat.add_sub_cancel_left]
  · show t.found
      ++ (attachProblems g .entity (t.entities.getD (base.length + entity) []) component).map _
      = before ++ (t'.found
        ++ (attachProblems g .entity (t'.entities.getD entity []) component).map _)
    rw [hpresent, h.found, List.append_assoc]

end Behind

/-- two runs of the same code, one of them behind what was there before -/
theorem TrackingContext.tandem_behind (ctx : TrackingContext) (base : List Names)
    (before : List Placed) :
    ctx.Tandem ctx (fun e e' => e = base.length + e') (Behind base before) where
  component _ := rfl
  bound := by
    intro t t' h name
    rw [h.names, Assoc.get?_mapValues]
    cases t'.names.get? name with
    | none => exact .none
    | some e => exact .some rfl
  bind := by
    rintro t t' _ e name h rfl
    refine ⟨?_, h.entities, h.found⟩
    show t.names.insert name (base.length + e)
      = (t'.names.insert name e).mapValues (base.length + ·)
    rw [h.names, Assoc.insert_mapValues]
  drop := by
    intro t t' name h
    refine ⟨?_, h.entities, h.found⟩
    show t.names.erase name = (t'.names.erase name).mapValues (base.length + ·)
    rw [h.names, Assoc.erase_mapValues]
  clear h := ⟨rfl, h.entities, h.found⟩
  restore h h' := ⟨h.names, h'.entities, h'.found⟩
  create := Behind.create
  attach := by
    rintro t t' _ e component pos h rfl
    exact h.attach ctx.graph e component pos

/-- an empty state, behind what a state without names has -/
theorem behind_start (entities : List Names) (found : List Placed) :
    Behind entities found ⟨[], entities, found⟩ .start :=
  ⟨rfl, (List.append_nil entities).symm, (List.append_nil found).symm⟩

/-! ## what is around the code -/

/-- the entities that the names stand for are known -/
def Tracker.Holds (t : Tracker) (names : Assoc Nat) : Prop :=
  ∀ x, ∀ n ∈ names.get? x, n < t.entities.length

/-- the components of the entity that a name stands for, by a table of names: that of the code which
is read, or of code around it -/
def Tracker.reached? (t : Tracker) (names : Assoc Nat) (x : String) : Option Names :=
  (names.get? x).bind fun n => t.entities[n]?

/-- Reading code with names of its own. Whatever was read before, the problems that it adds are
those which are found when it is read alone. Of the names around, it takes away that of a function
and leaves all others; entities that were known are as they were, and behind them are those of the
code. So nothing changes for the names of the code around it, nor for those of code further out,
whose tables are set aside while this is read. -/
theorem enclosed_reads_as_alone (ctx : TrackingContext) (f : Enclosed) (t : Tracker) :
    let alone := f.read ctx .start
    f.read ctx t = ⟨(t.drop? f.name?).names, t.entities ++ alone.entities, t.found ++ alone.found⟩ ∧
    ∀ names, t.Holds names → ∀ x, (f.read ctx t).reached? names x = t.reached? names x := by
  intro alone
  have hdrop : (t.drop? f.name?).entities = t.entities ∧ (t.drop? f.name?).found = t.found := by
    cases f.name? <;> exact ⟨rfl, rfl⟩
  have hstart : Tracker.start.drop? f.name? = .start := by
    cases f.name? <;> rfl
  have hinside : Behind t.entities t.found (f.readInside ctx ⟨[], t.entities, t.found⟩)
      (f.readInside ctx .start) :=
    f.readInside_tandem (ctx.tandem_behind t.entities t.found) _ _ (behind_start t.entities t.found)
  have halone : alone = { f.readInside ctx .start with names := [] } := by
    show f.read ctx .start = _
    rw [f.read_eq_apart, hstart]
    rfl
  have hread : f.read ctx t
      = ⟨(t.drop? f.name?).names, t.entities ++ alone.entities, t.found ++ alone.found⟩ := by
    rw [f.read_eq_apart, Tracker.apart, hdrop.1, hdrop.2, hinside.entities, hinside.found, halone]
  refine ⟨hread, fun names hnames x => ?_⟩
  rw [hread, Tracker.reached?, Tracker.reached?]
  cases hx : names.get? x with
  | none => rfl
  | some n =>
    show (t.entities ++ alone.entities)[n]? = t.entities[n]?
    exact List.getElem?_append_left (hnames x n hx)

/-! ## two entities of one name -/

/-- components of which one disturbs the other -/
def hauntedContext : TrackingContext :=
  ⟨.ofDeclared true [("Ghost", ⟨[], ["Health"]⟩)], ⟨"main", none⟩⟩

/-- `e.attach(component)` -/
def attachToE (component : String) : Stmt :=
  .evaluate [.call default (.member default (.name default "e") "attach")
    [.name default component] []]

/-- a function with an entity of its own under a name that is in use around it, to which both
components are attached -/
def later : Enclosed :=
  .function default "later" []
    [.assign default [.name default "e"] (.call default (.name default "create_entity") [] []),
      attachToE "Health", attachToE "Ghost"] [] none

/-- an entity with one of the components, under two names -/
def aroundLater : Tracker := ⟨[("e", 0), ("later", 0)], [["Health"]], []⟩

/-- The clash inside is reported as it is alone. The entity around, which goes by the same name,
still has its one component; the name of the function is gone. -/
theorem enclosed_reads_as_alone_later :
    aroundLater.Holds aroundLater.names ∧
    (later.read hauntedContext aroundLater).found = (later.read hauntedContext .start).found ∧
    (later.read hauntedContext .start).found
      = [⟨.conflictingComponent .entity "Ghost" "Health", some default⟩] ∧
    (later.read hauntedContext aroundLater).names = [("e", 0)] ∧
    (later.read hauntedContext aroundLater).reached? aroundLater.names "e" = some ["Health"] := by
  have hholds : aroundLater.Holds aroundLater.names := by
    intro x n hn
    have hn : (if "e" = x then some 0 else if "later" = x then some 0 else none) = some n := hn
    split at hn
    · cases hn
      decide
    · split at hn <;> cases hn
      decide
  obtain ⟨hread, hreached⟩ := enclosed_reads_as_alone hauntedContext later aroundLater
  refine ⟨hholds, ?_, by decide +kernel, ?_, hreached _ hholds "e"⟩
  · rw [hread]
    rfl
  · rw [hread]
    rfl

end Archetype
