import Archetype.Check.Tracked

/-!
# Reading code in two runs

Reading code changes the tracker by a few operations only: names are bound and unbound, set aside
and put back, entities are created and components are attached. Two runs over the same code that
begin in related states and whose operations keep the relation end in related states, whatever the
code is.

* `Tandem`                   a relation between the states of two runs that every operation keeps;
* `Stmt.trackAll_tandem`     reading statements keeps it;
* `trackProblems_related`    what relates the reports of every attach relates the problems that are
                             found;
* `trackProblems_forall`     what holds of the problems of every attach holds of all problems that
                             are found;
* `trackProblems_congr`      the problems that are found depend on what attaches report and on what
                             names mean alone.
-/

set_option linter.unusedSectionVars false

namespace Archetype

open Code

/-- two runs in tandem: `R` relates what is known in them, and `E` their entities -/
structure TrackingContext.Tandem (ctx ctx' : TrackingContext) (E : Nat → Nat → Prop)
    (R : Tracker → Tracker → Prop) : Prop where
  component : ∀ e, ctx.resolver.name? e = ctx'.resolver.name? e
  bound : ∀ {t t'}, R t t' → ∀ name, Option.Rel E (t.names.get? name) (t'.names.get? name)
  bind : ∀ {t t' e e'} (name), R t t' → E e e' →
    R { t with names := t.names.insert name e } { t' with names := t'.names.insert name e' }
  drop : ∀ {t t'} (name), R t t' → R (t.drop name) (t'.drop name)
  /-- code whose names are its own begins without names, and those around it come back afterwards -/
  clear : ∀ {t t'}, R t t' → R { t with names := [] } { t' with names := [] }
  restore : ∀ {t t' u u'}, R t t' → R u u' →
    R { u with names := t.names } { u' with names := t'.names }
  create : ∀ {t t'}, R t t' → R t.create.1 t'.create.1 ∧ E t.create.2 t'.create.2
  attach : ∀ {t t' e e'} (component pos), R t t' → E e e' →
    R (t.attach ctx.graph e component pos) (t'.attach ctx'.graph e' component pos)

section
variable {ctx ctx' : TrackingContext} {E : Nat → Nat → Prop} {R : Tracker → Tracker → Prop}
  (K : ctx.Tandem ctx' E R)
include K

/-! ## binding names, and calls -/

theorem dropAll_tandem (names : List String) (t t' : Tracker) (h : R t t') :
    R (t.dropAll names) (t'.dropAll names) := by
  induction names generalizing t t' with
  | nil => exact h
  | cons n ns ih => exact ih (t.drop n) (t'.drop n) (K.drop n h)

theorem drop?_tandem (name : Option String) (t t' : Tracker) (h : R t t') :
    R (t.drop? name) (t'.drop? name) := by
  cases name with
  | none => exact h
  | some n => exact K.drop n h

theorem apart_tandem (t t' : Tracker) (read read' : Tracker → Tracker)
    (hread : ∀ u u', R u u' → R (read u) (read' u')) (h : R t t') :
    R (t.apart read) (t'.apart read') :=
  K.restore h (hread _ _ (K.clear h))

theorem entityOf?_tandem (e : Expr) (t t' : Tracker) (r r' : Option Nat) (h : R t t')
    (hr : Option.Rel E r r') :
    Option.Rel E (entityOf? t e r) (entityOf? t' e r') := by
  cases e with
  | call _ _ _ _ => exact hr
  | name _ id => exact K.bound h id
  | _ => exact .none

theorem bindTarget_tandem (value target : Expr) (t t' : Tracker) (r r' : Option Nat) (h : R t t')
    (hr : Option.Rel E r r') : R (bindTarget t value r target) (bindTarget t' value r' target) := by
  unfold bindTarget
  split
  · rename_i id
    have hentity := entityOf?_tandem K value t t' r r' h hr
    cases hentity' : entityOf? t value r <;> cases hentity'' : entityOf? t' value r'
      <;> rw [hentity', hentity''] at hentity <;> cases hentity
    · exact K.drop id h
    · rename_i he
      exact K.bind id h he
  · exact dropAll_tandem K _ t t' h

theorem foldl_bindTarget_tandem (value : Expr) (r r' : Option Nat) (targets : List Expr)
    (t t' : Tracker) (h : R t t') (hr : Option.Rel E r r') :
    R (targets.foldl (fun t target => bindTarget t value r target) t)
      (targets.foldl (fun t target => bindTarget t value r' target) t') := by
  induction targets generalizing t t' with
  | nil => exact h
  | cons e es ih => exact ih _ _ (bindTarget_tandem K value e t t' r r' h hr)

theorem call_tandem (c : CallSite) (t t' : Tracker) (r r' : Option Nat) (h : R t t')
    (hr : Option.Rel E r r') :
    R (ctx.call t c r).1 (ctx'.call t' c r').1 ∧
    Option.Rel E (ctx.call t c r).2 (ctx'.call t' c r').2 := by
  unfold TrackingContext.call
  split
  · exact ⟨(K.create h).1, .some (K.create h).2⟩
  · rename_i receiver component _
    have hentity := entityOf?_tandem K receiver t t' r r' h hr
    rw [← K.component]
    cases hentity' : entityOf? t receiver r <;> cases hentity'' : entityOf? t' receiver r'
      <;> rw [hentity', hentity''] at hentity <;> cases hentity
    · exact ⟨h, .none⟩
    · rename_i he
      cases ctx.resolver.name? component with
      | none => exact ⟨h, .some he⟩
      | some name => exact ⟨K.attach name c.pos h he, .some he⟩
  · exact ⟨h, .none⟩

/-! ## expressions -/

mutual

theorem Code.Expr.track_tandem : ∀ (e : Expr) (t t' : Tracker), R t t' →
    R (e.track ctx t).1 (e.track ctx' t').1 ∧ Option.Rel E (e.track ctx t).2 (e.track ctx' t').2
  | .name _ _, _, _, h => ⟨h, .none⟩
  | .str _ _, _, _, h => ⟨h, .none⟩
  | .member _ value _, t, t', h => by
    rw [Expr.track, Expr.track]
    exact value.track_tandem t t' h
  | .call _ func args keywords, t, t', h => by
    rw [Expr.track, Expr.track]
    obtain ⟨hfunc, hresult⟩ := func.track_tandem t t' h
    exact call_tandem K _ _ _ _ _
      (Keyword.trackAll_tandem keywords _ _ (Expr.trackAll_tandem args _ _ hfunc)) hresult
  | .row _ _ items, t, t', h => by
    rw [Expr.track, Expr.track]
    exact ⟨Expr.trackAll_tandem items t t' h, .none⟩
  | .dict _ entries, t, t', h => by
    rw [Expr.track, Expr.track]
    exact ⟨Entry.trackValues_tandem entries _ _ (Entry.trackKeys_tandem entries t t' h), .none⟩
  | .starred _ value, t, t', h => by
    rw [Expr.track, Expr.track]
    exact ⟨(value.track_tandem t t' h).1, .none⟩
  | .subscript _ value index, t, t', h => by
    rw [Expr.track, Expr.track]
    exact ⟨(index.track_tandem _ _ (value.track_tandem t t' h).1).1, .none⟩
  | .named _ target value, t, t', h => by
    rw [Expr.track, Expr.track]
    obtain ⟨hvalue, hresult⟩ := value.track_tandem _ _ (target.track_tandem t t' h).1
    exact ⟨bindTarget_tandem K value target _ _ _ _ hvalue hresult, .none⟩
  | .lambda _ parameters body, t, t', h => by
    rw [Expr.track, Expr.track]
    exact ⟨apart_tandem K t t' _ _
      (fun u u' hu => (body.track_tandem _ _ (Parameter.trackAll_tandem parameters u u' hu)).1) h,
      .none⟩
  | .comprehension _ yields clauses, t, t', h => by
    rw [Expr.track, Expr.track]
    exact ⟨apart_tandem K t t' _ _
      (fun u u' hu => Clause.trackAll_tandem clauses _ _ (Expr.trackAll_tandem yields u u' hu)) h,
      .none⟩
  | .other _ operands, t, t', h => by
    rw [Expr.track, Expr.track]
    exact ⟨Expr.trackAll_tandem operands t t' h, .none⟩

theorem Code.Expr.trackAll_tandem : ∀ (es : List Expr) (t t' : Tracker), R t t' →
    R (Expr.trackAll ctx es t) (Expr.trackAll ctx' es t')
  | [], _, _, h => h
  | e :: es, t, t', h => by
    rw [Expr.trackAll, Expr.trackAll]
    exact Expr.trackAll_tandem es _ _ (e.track_tandem t t' h).1

theorem Code.Keyword.trackAll_tandem : ∀ (ks : List Keyword) (t t' : Tracker), R t t' →
    R (Keyword.trackAll ctx ks t) (Keyword.trackAll ctx' ks t')
  | [], _, _, h => h
  | .mk _ value :: ks, t, t', h => by
    rw [Keyword.trackAll, Keyword.trackAll]
    exact Keyword.trackAll_tandem ks _ _ (value.track_tandem t t' h).1

theorem Code.Entry.trackKeys_tandem : ∀ (es : List Entry) (t t' : Tracker), R t t' →
    R (Entry.trackKeys ctx es t) (Entry.trackKeys ctx' es t')
  | [], _, _, h => h
  | .pair key _ :: es, t, t', h => by
    rw [Entry.trackKeys, Entry.trackKeys]
    exact Entry.trackKeys_tandem es _ _ (key.track_tandem t t' h).1
  | .spread _ :: es, t, t', h => by
    rw [Entry.trackKeys, Entry.trackKeys]
    exact Entry.trackKeys_tandem es t t' h

theorem Code.Entry.trackValues_tandem : ∀ (es : List Entry) (t t' : Tracker), R t t' →
    R (Entry.trackValues ctx es t) (Entry.trackValues ctx' es t')
  | [], _, _, h => h
  | .pair _ value :: es, t, t', h => by
    rw [Entry.trackValues, Entry.trackValues]
    exact Entry.trackValues_tandem es _ _ (value.track_tandem t t' h).1
  | .spread value :: es, t, t', h => by
    rw [Entry.trackValues, Entry.trackValues]
    exact Entry.trackValues_tandem es _ _ (value.track_tandem t t' h).1

theorem Code.Clause.trackAll_tandem : ∀ (cs : List Clause) (t t' : Tracker), R t t' →
    R (Clause.trackAll ctx cs t) (Clause.trackAll ctx' cs t')
  | [], _, _, h => h
  | .mk target iter conditions :: cs, t, t', h => by
    rw [Clause.trackAll, Clause.trackAll]
    exact Clause.trackAll_tandem cs _ _
      (Expr.trackAll_tandem conditions _ _ (iter.track_tandem _ _ (target.track_tandem t t' h).1).1)

theorem Code.Parameter.trackAll_tandem : ∀ (ps : List Parameter) (t t' : Tracker), R t t' →
    R (Parameter.trackAll ctx ps t) (Parameter.trackAll ctx' ps t')
  | [], _, _, h => h
  | .hint value :: ps, t, t', h => by
    rw [Parameter.trackAll, Parameter.trackAll]
    exact Parameter.trackAll_tandem ps _ _ (value.track_tandem t t' h).1
  | .default value :: ps, t, t', h => by
    rw [Parameter.trackAll, Parameter.trackAll]
    exact Parameter.trackAll_tandem ps _ _ (value.track_tandem t t' h).1

end

theorem trackOption_tandem (e : Option Expr) (t t' : Tracker) (h : R t t') :
    R (trackOption ctx e t) (trackOption ctx' e t') := by
  cases e with
  | none => exact h
  | some e => exact (e.track_tandem K t t' h).1

theorem trackItems_tandem (items : List WithItem) (t t' : Tracker) (h : R t t') :
    R (trackItems ctx items t) (trackItems ctx' items t') := by
  induction items generalizing t t' with
  | nil => exact h
  | cons item items ih =>
    exact ih _ _ (dropAll_tandem K _ _ _ (item.context.track_tandem K t t' h).1)

/-! ## patterns -/

mutual

theorem Code.Pattern.track_tandem :
    ∀ (p : Pattern) (t t' : Tracker), R t t' → R (p.track ctx t) (p.track ctx' t')
  | .value e, t, t', h => by
    rw [Pattern.track, Pattern.track]
    exact (e.track_tandem K t t' h).1
  | .constant, _, _, h => by
    rw [Pattern.track, Pattern.track]
    exact h
  | .sequence parts, t, t', h => by
    rw [Pattern.track, Pattern.track]
    exact Pattern.trackAll_tandem parts t t' h
  | .mapping keys parts others, t, t', h => by
    rw [Pattern.track, Pattern.track]
    exact drop?_tandem K others _ _
      (Pattern.trackAll_tandem parts _ _ (Expr.trackAll_tandem K keys t t' h))
  | .record cls parts named, t, t', h => by
    rw [Pattern.track, Pattern.track]
    exact Pattern.trackAll_tandem named _ _
      (Pattern.trackAll_tandem parts _ _ (cls.track_tandem K t t' h).1)
  | .rest name, t, t', h => by
    rw [Pattern.track, Pattern.track]
    exact drop?_tandem K name t t' h
  | .capture none name, t, t', h => by
    rw [Pattern.track, Pattern.track]
    exact drop?_tandem K name t t' h
  | .capture (some inner) name, t, t', h => by
    rw [Pattern.track, Pattern.track]
    exact drop?_tandem K name _ _ (inner.track_tandem t t' h)
  | .choice parts, t, t', h => by
    rw [Pattern.track, Pattern.track]
    exact Pattern.trackAll_tandem parts t t' h

theorem Code.Pattern.trackAll_tandem : ∀ (ps : List Pattern) (t t' : Tracker), R t t' →
    R (Pattern.trackAll ctx ps t) (Pattern.trackAll ctx' ps t')
  | [], _, _, h => h
  | p :: ps, t, t', h => by
    rw [Pattern.trackAll, Pattern.trackAll]
    exact Pattern.trackAll_tandem ps _ _ (p.track_tandem t t' h)

end

/-! ## statements -/

mutual

theorem Code.Stmt.track_tandem :
    ∀ (s : Stmt) (t t' : Tracker), R t t' → R (s.track ctx t) (s.track ctx' t')
  | .function _ name parameters body decorators returns, t, t', h => by
    rw [Stmt.track, Stmt.track]
    exact apart_tandem K _ _ _ _
      (fun u u' hu => trackOption_tandem K returns _ _ (Expr.trackAll_tandem K decorators _ _
        (Stmt.trackAll_tandem body _ _ (Parameter.trackAll_tandem K parameters u u' hu))))
          (K.drop name h)
  | .class_ name bases keywords body decorators, t, t', h => by
    rw [Stmt.track, Stmt.track]
    exact Expr.trackAll_tandem K decorators _ _ (Stmt.trackAll_tandem body _ _
      (Keyword.trackAll_tandem K keywords _ _ (Expr.trackAll_tandem K bases _ _ (K.drop name h))))
  | .assign _ targets value, t, t', h => by
    rw [Stmt.track, Stmt.track]
    obtain ⟨hvalue, hresult⟩ := value.track_tandem K _ _ (Expr.trackAll_tandem K targets t t' h)
    exact foldl_bindTarget_tandem K value _ _ targets _ _ hvalue hresult
  | .declare _ target hint none, t, t', h => by
    rw [Stmt.track, Stmt.track]
    exact (hint.track_tandem K _ _ (target.track_tandem K t t' h).1).1
  | .declare _ target hint (some value), t, t', h => by
    rw [Stmt.track, Stmt.track]
    obtain ⟨hvalue, hresult⟩ :=
      value.track_tandem K _ _ (hint.track_tandem K _ _ (target.track_tandem K t t' h).1).1
    exact bindTarget_tandem K value target _ _ _ _ hvalue hresult
  | .augment target value, t, t', h => by
    rw [Stmt.track, Stmt.track]
    exact dropAll_tandem K _ _ _ (value.track_tandem K _ _ (target.track_tandem K t t' h).1).1
  | .delete targets, t, t', h => by
    rw [Stmt.track, Stmt.track]
    exact dropAll_tandem K _ _ _ (Expr.trackAll_tandem K targets t t' h)
  | .for_ target iter body otherwise, t, t', h => by
    rw [Stmt.track, Stmt.track]
    exact Stmt.trackAll_tandem otherwise _ _
      (Stmt.trackAll_tandem body _ _ (dropAll_tandem K _ _ _ (iter.track_tandem K t t' h).1))
  | .while_ test body otherwise, t, t', h => by
    rw [Stmt.track, Stmt.track]
    exact Stmt.trackAll_tandem otherwise _ _
      (Stmt.trackAll_tandem body _ _ (test.track_tandem K t t' h).1)
  | .if_ test body otherwise, t, t', h => by
    rw [Stmt.track, Stmt.track]
    exact Stmt.trackAll_tandem otherwise _ _
      (Stmt.trackAll_tandem body _ _ (test.track_tandem K t t' h).1)
  | .with_ items body, t, t', h => by
    rw [Stmt.track, Stmt.track]
    exact Stmt.trackAll_tandem body _ _ (trackItems_tandem K items t t' h)
  | .try_ _ body handlers otherwise final, t, t', h => by
    rw [Stmt.track, Stmt.track]
    exact Stmt.trackAll_tandem final _ _ (Stmt.trackAll_tandem otherwise _ _
      (Handler.trackAll_tandem handlers _ _ (Stmt.trackAll_tandem body t t' h)))
  | .import_ names, t, t', h => by
    rw [Stmt.track, Stmt.track]
    exact dropAll_tandem K _ t t' h
  | .importFrom _ names _, t, t', h => by
    rw [Stmt.track, Stmt.track]
    exact dropAll_tandem K _ t t' h
  | .match_ subject cases, t, t', h => by
    rw [Stmt.track, Stmt.track]
    exact Case.trackAll_tandem cases _ _ (subject.track_tandem K t t' h).1
  | .evaluate values, t, t', h => by
    rw [Stmt.track, Stmt.track]
    exact Expr.trackAll_tandem K values t t' h

theorem Code.Stmt.trackAll_tandem : ∀ (ss : List Stmt) (t t' : Tracker), R t t' →
    R (Stmt.trackAll ctx ss t) (Stmt.trackAll ctx' ss t')
  | [], _, _, h => h
  | s :: ss, t, t', h => by
    rw [Stmt.trackAll, Stmt.trackAll]
    exact Stmt.trackAll_tandem ss _ _ (s.track_tandem t t' h)

theorem Code.Handler.trackAll_tandem : ∀ (hs : List Handler) (t t' : Tracker), R t t' →
    R (Handler.trackAll ctx hs t) (Handler.trackAll ctx' hs t')
  | [], _, _, h => h
  | .mk type name body :: hs, t, t', h => by
    rw [Handler.trackAll, Handler.trackAll]
    exact Handler.trackAll_tandem hs _ _ (drop?_tandem K name _ _
      (Stmt.trackAll_tandem body _ _ (trackOption_tandem K type _ _ (drop?_tandem K name t t' h))))

theorem Code.Case.trackAll_tandem : ∀ (cs : List Case) (t t' : Tracker), R t t' →
    R (Case.trackAll ctx cs t) (Case.trackAll ctx' cs t')
  | [], _, _, h => h
  | .mk pattern guard body :: cs, t, t', h => by
    rw [Case.trackAll, Case.trackAll]
    exact Case.trackAll_tandem cs _ _ (Stmt.trackAll_tandem body _ _
      (trackOption_tandem K guard _ _ (pattern.track_tandem K t t' h)))

end

end

/-! ## the problems that are found -/

/-- a relation between what two runs have found: it holds at the start, and stays when both find
more of which it holds -/
structure Accumulates (F : List Placed → List Placed → Prop) : Prop where
  nil : F [] []
  append : ∀ {l l' m m'}, F l l' → F m m' → F (l ++ m) (l' ++ m')

theorem Accumulates.eq : Accumulates Eq := ⟨rfl, fun hl hm => by rw [hl, hm]⟩

/-- what is wrong with attaching a component somewhere, as it is reported -/
def attachReports (g : ConstraintGraph) (composite : Composite) (present : Names)
    (component : String) (pos : Position) : List Placed :=
  (attachProblems g composite present component).map fun p => ⟨p, some pos⟩

section
variable {F : List Placed → List Placed → Prop} (hF : Accumulates F)
  {g g' : ConstraintGraph} {composite : Composite}
  (hattach : ∀ present component pos,
    F (attachReports g composite present component pos)
      (attachReports g' composite present component pos))
include hF hattach

theorem replay_related (present : Names) (refs : List Reference) :
    F (replay g composite present refs) (replay g' composite present refs) := by
  induction refs generalizing present with
  | nil => exact hF.nil
  | cons r refs ih => exact hF.append (hattach present r.name r.pos) (ih _)

end

section
variable {F : List Placed → List Placed → Prop} (hF : Accumulates F) {g g' : ConstraintGraph}
include hF

theorem templateProblems_related
    (hattach : ∀ composite present component pos,
      F (attachReports g composite present component pos)
        (attachReports g' composite present component pos)) (d : Declarations) :
        F (templateProblems g d) (templateProblems g' d) := by
  unfold templateProblems
  induction d.templates with
  | nil => exact hF.nil
  | cons t templates ih => exact hF.append (replay_related hF (hattach _) [] t.components) ih

variable
  (hattach : ∀ present component pos,
    F (attachReports g .entity present component pos)
      (attachReports g' .entity present component pos))
include hattach

/-- two runs that know the same: nothing but the reports of an attach can tell them apart -/
theorem TrackingContext.tandem_found {r r' : Resolver} (hname : ∀ e, r.name? e = r'.name? e) :
    TrackingContext.Tandem ⟨g, r⟩ ⟨g', r'⟩ Eq fun t t' =>
      t.names = t'.names ∧ t.entities = t'.entities ∧ F t.found t'.found where
  component := hname
  bound := by
    rintro t t' ⟨hnames, -, -⟩ name
    rw [hnames]
    cases t'.names.get? name with
    | none => exact .none
    | some e => exact .some rfl
  bind := by
    rintro t t' e _ name ⟨hnames, hentities, hfound⟩ rfl
    exact ⟨congrArg (·.insert name e) hnames, hentities, hfound⟩
  drop := by
    rintro t t' name ⟨hnames, hentities, hfound⟩
    exact ⟨congrArg (·.erase name) hnames, hentities, hfound⟩
  clear := by
    rintro t t' ⟨-, hentities, hfound⟩
    exact ⟨rfl, hentities, hfound⟩
  restore := by
    rintro t t' u u' ⟨hnames, -, -⟩ ⟨-, hentities, hfound⟩
    exact ⟨hnames, hentities, hfound⟩
  create := by
    rintro t t' ⟨hnames, hentities, hfound⟩
    exact ⟨⟨hnames, congrArg (· ++ [[]]) hentities, hfound⟩, congrArg List.length hentities⟩
  attach := by
    rintro t t' e _ component pos ⟨hnames, hentities, hfound⟩ rfl
    unfold Tracker.attach
    rw [hentities]
    exact ⟨hnames, rfl, hF.append hfound (hattach _ component pos)⟩

/-- what relates the reports of every attach relates the problems that are found -/
theorem trackProblems_related {r r' : Resolver} (hname : ∀ e, r.name? e = r'.name? e)
    (body : List Stmt) :
    F (trackProblems g r body) (trackProblems g' r' body) := by
  have K := TrackingContext.tandem_found hF hattach hname
  exact (Stmt.trackAll_tandem K body .start .start ⟨rfl, rfl, hF.nil⟩).2.2

end

/-- what holds of the problems of every attach holds of all problems that are found -/
theorem trackProblems_forall (g : ConstraintGraph) (resolver : Resolver) (body : List Stmt)
    (Q : Placed → Prop) (hQ : ∀ (present : Names) (component : String) (pos : Position),
      ∀ p ∈ attachProblems g .entity present component, Q ⟨p, some pos⟩) :
    ∀ x ∈ trackProblems g resolver body, Q x := by
  have hF : Accumulates fun l _ => ∀ x ∈ l, Q x :=
    ⟨fun x hx => absurd hx List.not_mem_nil, fun hl hm => List.forall_mem_append.mpr ⟨hl, hm⟩⟩
  refine @trackProblems_related _ hF g g (fun present component pos => ?_) resolver resolver
    (fun _ => rfl) body
  exact List.forall_mem_map.mpr (hQ present component pos)

/-- the problems depend on what attaches report and on what names mean alone -/
theorem trackProblems_congr {g g' : ConstraintGraph} {r r' : Resolver}
    (hname : ∀ e, r.name? e = r'.name? e)
    (hattach : ∀ present component, attachProblems g .entity present component
      = attachProblems g' .entity present component) (body : List Stmt) :
    trackProblems g r body = trackProblems g' r' body := by
  refine trackProblems_related .eq (fun present component pos => ?_) hname body
  unfold attachReports
  rw [hattach]

end Archetype
