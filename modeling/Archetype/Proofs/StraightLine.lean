import Mathlib.Logic.Function.Basic
import Archetype.Proofs.Chains

/-!
# Straight-line code

A body without branches and loops is run by a machine: an environment says which entity a name is
bound to, and a heap says what was attached to each entity. Following entities through such a body
reports just what the machine reports.

* `Line`, `Line.stmt`       the statements of a straight-line body;
* `Machine`, `Line.run`     the machine, and what a line does to it;
* `Mirrors`                 what a tracker knows is what the machine holds; the tracker's entities
                            are numbered from `base` on, because other code may have been read
                            before;
* `Mirrors.line`            one line keeps it;
* `found_straightLine`      the problems of a function with a straight-line body.
-/

namespace Archetype

open Code

/-! ## the code -/

/-- a constant in code: a text, or one of another kind -/
inductive Literal where
  | text (value : Text.CodePoints)
  | other

def Literal.expr (pos : Position) : Literal → Expr
  | text value => .str pos value
  | other => .other pos []

/-- a line of a straight-line body -/
inductive Line where
  /-- `x = start.attach(..)..` -/
  | assign (pos place : Position) (x : String) (start : ChainStart) (attaches : List Attach)
  /-- `start.attach(..)..` -/
  | attach (start : ChainStart) (attaches : List Attach)
  /-- `del x` -/
  | delete (place : Position) (x : String)
  /-- `x = constant` -/
  | constant (pos place : Position) (x : String) (valuePos : Position) (value : Literal)

def Line.stmt : Line → Stmt
  | assign pos place x start attaches => .assign pos [.name place x] (start.chain attaches)
  | attach start attaches => .evaluate [start.chain attaches]
  | delete place x => .delete [.name place x]
  | constant pos place x valuePos value => .assign pos [.name place x] (value.expr valuePos)

/-! ## the machine -/

/-- a machine that runs straight-line code -/
structure Machine where
  /-- the entities that names are bound to -/
  env : String → Option Nat
  /-- what was attached to each entity, the last one first -/
  heap : Nat → List String
  /-- the next new entity -/
  next : Nat
  reports : List Placed

namespace Machine

/-- nothing is bound, and there are no entities -/
def start : Machine := ⟨fun _ => none, fun _ => [], 0, []⟩

/-- a new entity, with nothing attached -/
def create (m : Machine) : Machine :=
  { m with heap := Function.update m.heap m.next [], next := m.next + 1 }

/-- binds a name to an entity, or unbinds it -/
def bind (m : Machine) (x : String) (entity : Option Nat) : Machine :=
  { m with env := Function.update m.env x entity }

/-- what is wrong with a component where `attached` are there: first dependencies, then conflicts,
each by name -/
def check (g : ConstraintGraph) (attached : List String) (component : String) : List Problem :=
  let missing := (Names.sorted (g.dependenciesOf component)).filter (· ∉ attached)
  let disturbed := (Names.sorted (g.conflictsOf component)).filter (· ∈ attached)
  missing.map (.missingDependency .entity component)
    ++ disturbed.map (.conflictingComponent .entity component)

/-- attaches to an entity, if there is one -/
def attachTo (ctx : TrackingContext) (entity : Option Nat) (m : Machine) (a : Attach) : Machine :=
  match entity with
  | none => m
  | some n =>
    let component := ctx.resolver.dotted a.component
    { m with
      heap := Function.update m.heap n (component :: m.heap n)
      reports := m.reports ++ (check ctx.graph (m.heap n) component).map (⟨·, some a.pos⟩) }

/-- starts a chain: the entity is a new one, or the one that the name is bound to -/
def enter (m : Machine) : ChainStart → Machine × Option Nat
  | .create _ _ => (m.create, some m.next)
  | .name _ id => (m, m.env id)

/-- runs a chain of attaches, which gives the entity that it starts from -/
def chain (ctx : TrackingContext) (m : Machine) (start : ChainStart) (attaches : List Attach) :
    Machine × Option Nat :=
  let (m, entity) := m.enter start
  (attaches.foldl (attachTo ctx entity) m, entity)

end Machine

def Line.run (ctx : TrackingContext) (m : Machine) : Line → Machine
  | assign _ _ x start attaches =>
    let (m, entity) := m.chain ctx start attaches
    m.bind x entity
  | attach start attaches => (m.chain ctx start attaches).1
  | delete _ x => m.bind x none
  | constant _ _ x _ _ => m.bind x none

/-- runs a straight-line body -/
def Machine.run (ctx : TrackingContext) (lines : List Line) : Machine :=
  lines.foldl (Line.run ctx) .start

/-! ## reading lines -/

/-- binds a name to an entity, or unbinds it -/
def Tracker.bind (t : Tracker) (x : String) (entity : Option Nat) : Tracker :=
  match entity with
  | none => t.drop x
  | some n => { t with names := t.names.insert x n }

theorem Tracker.names_bind (t : Tracker) (x : String) (entity : Option Nat) (y : String) :
    (t.bind x entity).names.get? y = if x = y then entity else t.names.get? y := by
  cases entity with
  | none => exact Assoc.get?_erase t.names x y
  | some n => exact Assoc.get?_insert t.names x n y

section
variable {ctx : TrackingContext}

theorem means_literal (pos : Position) (value : Literal) (t : Tracker) :
    Means ctx (value.expr pos) t t none := by
  cases value with
  | text value => exact ⟨by rw [Literal.expr, Expr.track], rfl⟩
  | other => exact ⟨by rw [Literal.expr, Expr.track, Expr.trackAll], rfl⟩

theorem Means.track_assign {e : Expr} {t t' : Tracker} {entity : Option Nat}
    (h : Means ctx e t t' entity) (pos place : Position) (x : String) :
    (Stmt.assign pos [.name place x] e).track ctx t = t'.bind x entity := by
  have hgives := h.gives
  simp only [Stmt.track, Expr.trackAll, Expr.track, List.foldl_cons, List.foldl_nil, bindTarget,
    h.reads, hgives]
  cases entity <;> rfl

theorem Means.track_evaluate {e : Expr} {t t' : Tracker} {entity : Option Nat}
    (h : Means ctx e t t' entity) :
    (Stmt.evaluate [e]).track ctx t = t' := by
  rw [Stmt.track, Expr.trackAll, Expr.trackAll, h.reads]

theorem track_delete (place : Position) (x : String) (t : Tracker) :
    (Stmt.delete [.name place x]).track ctx t = t.bind x none := by
  simp only [Stmt.track, Expr.trackAll, Expr.track, listBoundNames, boundNames]
  rfl

/-- a function has names of its own -/
theorem found_function (pos : Position) (name : String) (body : List Stmt) (t : Tracker) :
    ((Stmt.function pos name [] body [] none).track ctx t).found
      = (Stmt.trackAll ctx body { t with names := [] }).found := by
  simp only [Stmt.track, Tracker.apart, Parameter.trackAll, Expr.trackAll, trackOption]
  rfl

theorem trackProblems_function (g : ConstraintGraph) (r : Resolver) (pos : Position) (name : String)
    (body : List Stmt) :
    trackProblems g r [.function pos name [] body [] none] = trackProblems g r body := by
  rw [trackProblems, Stmt.trackAll, Stmt.trackAll, found_function]
  rfl

/-! ## the simulation -/

/-- the tracker knows what the machine holds, and has found `before` and what the machine reports -/
structure Mirrors (base : Nat) (before : List Placed) (t : Tracker) (m : Machine) : Prop where
  names : ∀ x, t.names.get? x = (m.env x).map (base + ·)
  bound : ∀ x, ∀ n ∈ m.env x, n < m.next
  count : t.entities.length = base + m.next
  components : ∀ n < m.next, ∀ c, c ∈ t.entities.getD (base + n) [] ↔ c ∈ m.heap n
  found : t.found = before ++ m.reports

namespace Mirrors

variable {base : Nat} {before : List Placed} {t : Tracker} {m : Machine}

theorem bind (h : Mirrors base before t m) (x : String) (entity : Option Nat)
    (hbound : ∀ n ∈ entity, n < m.next) :
    Mirrors base before (t.bind x (entity.map (base + ·))) (m.bind x entity) where
  names y := by
    rw [Tracker.names_bind, h.names]
    show _ = (Function.update m.env x entity y).map (base + ·)
    by_cases hxy : x = y
    · rw [if_pos hxy, ← hxy, Function.update_self]
    · rw [if_neg hxy, Function.update_of_ne (Ne.symm hxy)]
  bound y n hn := by
    have hn : n ∈ Function.update m.env x entity y := hn
    by_cases hyx : y = x
    · rw [hyx, Function.update_self] at hn
      exact hbound n hn
    · rw [Function.update_of_ne hyx] at hn
      exact h.bound y n hn
  count := by cases entity <;> exact h.count
  components := by cases entity <;> exact h.components
  found := by cases entity <;> exact h.found

theorem create (h : Mirrors base before t m) : Mirrors base before t.create.1 m.create where
  names := h.names
  bound x n hn := Nat.lt_succ_of_lt (h.bound x n hn)
  count := by
    show (t.entities ++ [[]]).length = base + (m.next + 1)
    rw [List.length_append, h.count, List.length_singleton, Nat.add_assoc]
  components n hn c := by
    show c ∈ (t.entities ++ [[]]).getD (base + n) [] ↔ c ∈ Function.update m.heap m.next [] n
    rw [List.getD_eq_getElem?_getD]
    rcases Nat.lt_succ_iff_lt_or_eq.mp hn with hold | rfl
    · -- an old entity keeps its number
      have hlt : base + n < t.entities.length := by rw [h.count]; omega
      rw [Function.update_of_ne (Nat.ne_of_lt hold), List.getElem?_append_left hlt,
        ← List.getD_eq_getElem?_getD]
      exact h.components n hold c
    · rw [Function.update_self, ← h.count, List.getElem?_concat_length]
      rfl
  found := h.found

/-- what is reported depends only on which components are there -/
theorem check_eq (h : Mirrors base before t m) (n : Nat) (hn : n < m.next) (component : String) :
    attachProblems ctx.graph .entity (t.entities.getD (base + n) []) component
      = Machine.check ctx.graph (m.heap n) component := by
  have hcontains (c : String) : (t.entities.getD (base + n) []).contains c
      = decide (c ∈ m.heap n) := by
    rw [Bool.eq_iff_iff, List.contains_iff_mem, decide_eq_true_iff]
    exact h.components n hn c
  simp only [attachProblems, Machine.check, hcontains, decide_not]

theorem attachTo (h : Mirrors base before t m) (entity : Option Nat)
    (hbound : ∀ n ∈ entity, n < m.next) (a : Attach) :
    Mirrors base before (t.attachTo ctx (entity.map (base + ·)) a) (m.attachTo ctx entity a) := by
  cases entity with
  | none => exact h
  | some n =>
    have hn : n < m.next := hbound n rfl
    have hlt : base + n < t.entities.length := by rw [h.count]; omega
    exact {
      names := h.names
      bound := h.bound
      count := (List.length_set ..).trans h.count
      components := by
        intro k hk c
        show c ∈ (t.entities.set (base + n) _).getD (base + k) [] ↔ c ∈ Function.update m.heap n _ k
        rw [List.getD_eq_getElem?_getD]
        by_cases hkn : k = n
        · rw [hkn, Function.update_self, List.getElem?_set_self hlt, Option.getD_some,
            Names.mem_add, h.components n hn c, List.mem_cons]
          exact or_comm
        · have hne : base + n ≠ base + k := by omega
          rw [Function.update_of_ne hkn, List.getElem?_set_ne hne, ← List.getD_eq_getElem?_getD]
          exact h.components k hk c
      found := by
        show t.found
          ++ (attachProblems ctx.graph .entity (t.entities.getD (base + n) []) _).map _ = _
        rw [h.found, h.check_eq n hn, List.append_assoc]
        rfl }

theorem next_attachTo (entity : Option Nat) (a : Attach) :
    (m.attachTo ctx entity a).next = m.next := by
  cases entity <;> rfl

theorem attachAll (h : Mirrors base before t m) (entity : Option Nat)
    (hbound : ∀ n ∈ entity, n < m.next) (attaches : List Attach) :
    Mirrors base before (t.attachAll ctx (entity.map (base + ·)) attaches)
      (attaches.foldl (Machine.attachTo ctx entity) m) ∧
    ∀ n ∈ entity, n < (attaches.foldl (Machine.attachTo ctx entity) m).next := by
  induction attaches generalizing t m with
  | nil => exact ⟨h, hbound⟩
  | cons a attaches ih =>
    refine ih (h.attachTo entity hbound a) fun n hn => ?_
    rw [next_attachTo]
    exact hbound n hn

/-- both start a chain from the same entity -/
theorem enter (h : Mirrors base before t m) (start : ChainStart) :
    Mirrors base before (start.enter t).1 (m.enter start).1 ∧
    (start.enter t).2 = (m.enter start).2.map (base + ·) ∧
    ∀ n ∈ (m.enter start).2, n < (m.enter start).1.next := by
  cases start with
  | create pos world =>
    refine ⟨h.create, congrArg some h.count, fun n hn => ?_⟩
    have hn : m.next = n := Option.some.inj hn
    rw [← hn]
    exact Nat.lt_succ_self m.next
  | name pos id => exact ⟨h, h.names id, h.bound id⟩

/-- the chain is read as the machine runs it -/
theorem chain (h : Mirrors base before t m) (ctx : TrackingContext) (start : ChainStart)
    (attaches : List Attach) :
    ∃ t', Means ctx (start.chain attaches) t t' ((m.chain ctx start attaches).2.map (base + ·)) ∧
      Mirrors base before t' (m.chain ctx start attaches).1 ∧
      ∀ n ∈ (m.chain ctx start attaches).2, n < (m.chain ctx start attaches).1.next := by
  obtain ⟨hmirrors, hentity, hbound⟩ := h.enter start
  have hmeans := means_chain ctx start attaches t
  rw [hentity] at hmeans
  exact ⟨_, hmeans, hmirrors.attachAll _ hbound attaches⟩

/-- one line keeps what the tracker knows and what the machine holds the same -/
theorem line (h : Mirrors base before t m) (l : Line) :
    Mirrors base before (l.stmt.track ctx t) (l.run ctx m) := by
  have hnone : ∀ n ∈ (none : Option Nat), n < m.next := fun n hn => nomatch hn
  cases l with
  | assign pos place x start attaches =>
    obtain ⟨t', hmeans, hmirrors, hbound⟩ := h.chain ctx start attaches
    rw [Line.stmt, hmeans.track_assign]
    exact hmirrors.bind x _ hbound
  | attach start attaches =>
    obtain ⟨t', hmeans, hmirrors, _⟩ := h.chain ctx start attaches
    rw [Line.stmt, hmeans.track_evaluate]
    exact hmirrors
  | delete place x =>
    rw [Line.stmt, track_delete]
    exact h.bind x none hnone
  | constant pos place x valuePos value =>
    rw [Line.stmt, (means_literal valuePos value t).track_assign]
    exact h.bind x none hnone

theorem lines (h : Mirrors base before t m) (ctx : TrackingContext) (ls : List Line) :
    Mirrors base before (Stmt.trackAll ctx (ls.map Line.stmt) t) (ls.foldl (Line.run ctx) m) := by
  induction ls generalizing t m with
  | nil => rwa [List.map_nil, Stmt.trackAll]
  | cons l ls ih =>
    rw [List.map_cons, Stmt.trackAll]
    exact ih (h.line l)

end Mirrors

/-- where no name stands for an entity, the machine can start -/
theorem mirrors_start (t : Tracker) (h : t.names = []) :
    Mirrors t.entities.length t.found t .start where
  names x := by rw [h]; rfl
  bound x n hn := nomatch hn
  count := rfl
  components n hn := absurd hn (Nat.not_lt_zero n)
  found := (List.append_nil _).symm

end

/-- reading a function with a straight-line body finds, in order, just what the machine reports when
it runs the body; this holds wherever the function stands, and for a unit that consists of it -/
theorem found_straightLine (g : ConstraintGraph) (r : Resolver) (pos : Position) (name : String)
    (lines : List Line) :
    let body := lines.map Line.stmt
    let reports := (Machine.run ⟨g, r⟩ lines).reports
    (∀ t : Tracker, ((Stmt.function pos name [] body [] none).track ⟨g, r⟩ t).found
      = t.found ++ reports) ∧
    trackProblems g r [.function pos name [] body [] none] = reports := by
  intro body reports
  have hmirrors (t : Tracker) (h : t.names = []) := (mirrors_start t h).lines ⟨g, r⟩ lines
  refine ⟨fun t => ?_, ?_⟩
  · rw [found_function]
    exact (hmirrors { t with names := [] } rfl).found
  · rw [trackProblems_function]
    exact (hmirrors .start rfl).found

end Archetype
