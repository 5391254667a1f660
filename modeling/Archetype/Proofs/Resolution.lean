import Archetype.Resolve.Symbol
import Mathlib.Order.WellFounded

/-!
# What names mean

The meaning of a name is given by rules that know nothing of guards: a binding refers to other
names, a module that takes all names of others is searched from left to right, and a member is
looked up in the module before it. Following the rules may never end. Resolution follows them too,
but refuses a lookup that stands inside itself and more than `maxDepth` lookups inside each other.
Here it is shown that it refuses no more than it must: what ends within the depth is resolved as the
rules say, and a cycle is only ever reported of what never ends.

* `Task`, `Evaluates`        the rules, with the number of lookups that stand inside each other;
* `Calls`, `Endless`         what the rules ask for next, and tasks for which they never come to an
                             end;
* `LookupOutcome`            what a lookup has to give where the depth is bounded;
* `Index.unguarded`          following the rules up to a depth, and `Evaluates.unique`, which comes
                             from it;
* `endless_iff`              a task ends just if it has a result;
* `resolveName_outcome`      what the guards make of a lookup that ends;
* `resolveName_justified`    what resolution gives is what the rules give;
* `resolve_exact`            resolution of expressions.
-/

namespace Archetype

/-! ## the rules -/

/-- what can be asked: what a name means in a module, what it means in the first of some modules in
which it means something, and what an expression means in a module -/
inductive Task where
  | name (module name : String)
  | stars (modules : List String) (name : String)
  | expr (module : String) (e : Code.Expr)

/-- `Evaluates index t d r`: the answer to `t` is `r`, and `d` lookups of names stand inside each
other on the way. -/
inductive Evaluates (index : Index) : Task → Nat → Option Meaning → Prop
  /-- a package without a file, or a module outside -/
  | outside {m x : String} :
    index.get? m = none → Evaluates index (.name m x) 1 (index.submodule? m x)
  | class_ {m x c : String} {entry : IndexEntry} : index.get? m = some entry →
      entry.scope.bindings.get? x = some (.class_ c) →
      Evaluates index (.name m x) 1 (some (.declaration ⟨c, m, entry.path, true, entry.isStub⟩))
  | other {m x : String} {entry : IndexEntry} {line : Nat} : index.get? m = some entry →
      entry.scope.bindings.get? x = some (.other line) →
      Evaluates index (.name m x) 1 (some (.declaration ⟨x, m, entry.path, false, entry.isStub⟩))
  | module {m x k : String} {entry : IndexEntry} : index.get? m = some entry →
      entry.scope.bindings.get? x = some (.module k) →
      Evaluates index (.name m x) 1 (if index.isModule k then some (.module k) else none)
  | imported {m x k y : String} {entry : IndexEntry} {d : Nat} {r : Option Meaning} :
    index.get? m = some entry →
      entry.scope.bindings.get? x = some (.imported k y) → index.isModule k = true →
      Evaluates index (.name k y) d r → Evaluates index (.name m x) (d + 1) r
  | foreign {m x k y : String} {entry : IndexEntry} : index.get? m = some entry →
      entry.scope.bindings.get? x = some (.imported k y) → index.isModule k = false →
      Evaluates index (.name m x) 1 none
  | renamed {m x : String} {entry : IndexEntry} {e : Code.Expr} {d : Nat} {r : Option Meaning} :
      index.get? m = some entry → entry.scope.bindings.get? x = some (.alias e) →
      Evaluates index (.expr m e) d r → Evaluates index (.name m x) (d + 1) r
  | starred {m x : String} {entry : IndexEntry} {d : Nat} {r : Meaning} :
    index.get? m = some entry →
      entry.scope.bindings.get? x = none → Evaluates index (.stars entry.scope.stars x) d (some r) →
      Evaluates index (.name m x) (d + 1) (some r)
  | unbound {m x : String} {entry : IndexEntry} {d : Nat} : index.get? m = some entry →
      entry.scope.bindings.get? x = none → Evaluates index (.stars entry.scope.stars x) d none →
      Evaluates index (.name m x) (d + 1) (index.submodule? m x)
  | exhausted {x : String} : Evaluates index (.stars [] x) 0 none
  | found {m x : String} {ms : List String} {d : Nat} {r : Meaning} :
    Evaluates index (.name m x) d (some r) →
      Evaluates index (.stars (m :: ms) x) d (some r)
  | next {m x : String} {ms : List String} {d d' : Nat} {r : Option Meaning} :
    Evaluates index (.name m x) d none →
      Evaluates index (.stars ms x) d' r → Evaluates index (.stars (m :: ms) x) (max d d') r
  | spelled {m x : String} {pos : Code.Position} {d : Nat} {r : Option Meaning} :
    Evaluates index (.name m x) d r →
      Evaluates index (.expr m (.name pos x)) d r
  | member {m a k : String} {pos : Code.Position} {e : Code.Expr} {d d' : Nat}
    {r : Option Meaning} :
      Evaluates index (.expr m e) d (some (.module k)) → Evaluates index (.name k a) d' r →
      Evaluates index (.expr m (.member pos e a)) (max d d') r
  | noModule {m a : String} {pos : Code.Position} {e : Code.Expr} {d : Nat} {r : Option Meaning} :
      Evaluates index (.expr m e) d r → (∀ k, r ≠ some (.module k)) →
      Evaluates index (.expr m (.member pos e a)) d none
  | noName {m : String} {e : Code.Expr} : e.spelledName? = none → Evaluates index (.expr m e) 0 none

/-- `Calls index t u`: the rules for `t` ask for `u`, after what they asked for before has been
answered. -/
inductive Calls (index : Index) : Task → Task → Prop
  | imported {m x k y : String} {entry : IndexEntry} : index.get? m = some entry →
      entry.scope.bindings.get? x = some (.imported k y) → index.isModule k = true →
      Calls index (.name m x) (.name k y)
  | renamed {m x : String} {entry : IndexEntry} {e : Code.Expr} : index.get? m = some entry →
      entry.scope.bindings.get? x = some (.alias e) → Calls index (.name m x) (.expr m e)
  | stars {m x : String} {entry : IndexEntry} : index.get? m = some entry →
      entry.scope.bindings.get? x = none → Calls index (.name m x) (.stars entry.scope.stars x)
  | first {m x : String} {ms : List String} : Calls index (.stars (m :: ms) x) (.name m x)
  | next {m x : String} {ms : List String} {d : Nat} : Evaluates index (.name m x) d none →
      Calls index (.stars (m :: ms) x) (.stars ms x)
  | spelled {m x : String} {pos : Code.Position} : Calls index (.expr m (.name pos x)) (.name m x)
  | base {m a : String} {pos : Code.Position} {e : Code.Expr} :
    Calls index (.expr m (.member pos e a)) (.expr m e)
  | member {m a k : String} {pos : Code.Position} {e : Code.Expr} {d : Nat} :
      Evaluates index (.expr m e) d (some (.module k)) →
      Calls index (.expr m (.member pos e a)) (.name k a)

/-- the rules ask for one thing after the other and never come to an end -/
def Endless (index : Index) (t : Task) : Prop :=
  ∃ path : Nat → Task, path 0 = t ∧ ∀ n, Calls index (path n) (path (n + 1))

/-- the declaration that a meaning is, if it is one -/
def Meaning.symbol? : Meaning → Option Symbol
  | declaration s => some s
  | module _ => none

/-! ## the parts of resolution -/

/-- what a result has to be where `d` lookups stand inside each other and `n` can: the answer if
that is enough, and else the complaint that it is not -/
structure LookupOutcome (n d : Nat) (r : Option Meaning) (result : Index.Lookup) : Prop where
  ok : d ≤ n → result = .ok r
  tooDeep : n < d → ∃ x m, result = .error (.tooDeep x m)

theorem LookupOutcome.of_ok {n d : Nat} {r : Option Meaning} (h : d ≤ n) :
    LookupOutcome n d r (.ok r) :=
  ⟨fun _ => rfl, fun hlt => absurd h (by omega)⟩

section
variable {index : Index} {look : String → String → Index.Lookup} {n b : Nat}

/-- `look` does what it should for all names with less than `b` lookups inside each other -/
def Follows (index : Index) (look : String → String → Index.Lookup) (n b : Nat) : Prop :=
  ∀ m x d r, Evaluates index (.name m x) d r → d < b → LookupOutcome n d r (look m x)

variable (hlook : Follows index look n b)
include hlook

theorem firstFound_outcome (ms : List String) (x : String) {d : Nat} {r : Option Meaning}
    (h : Evaluates index (.stars ms x) d r) (hb : d < b) :
    LookupOutcome n d r (Index.firstFound (fun m => look m x) ms) := by
  induction ms generalizing d r with
  | nil =>
    cases h
    exact LookupOutcome.of_ok (Nat.zero_le n)
  | cons m ms ih =>
    cases h with
    | found h =>
      have ho := hlook _ _ _ _ h hb
      refine ⟨fun hle => ?_, fun hlt => ?_⟩
      · simp only [Index.firstFound, ho.ok hle]
      · obtain ⟨y, k, e⟩ := ho.tooDeep hlt
        exact ⟨y, k, by simp only [Index.firstFound, e]⟩
    | @next _ _ _ d₁ d₂ _ h₁ h₂ =>
      have ho₁ := hlook _ _ _ _ h₁ (by omega)
      have ho₂ := ih h₂ (by omega)
      refine ⟨fun hle => ?_, fun hlt => ?_⟩
      · simp only [Index.firstFound, ho₁.ok (by omega)]
        exact ho₂.ok (by omega)
      · by_cases hd : d₁ ≤ n
        · simp only [Index.firstFound, ho₁.ok hd]
          exact ho₂.tooDeep (by omega)
        · obtain ⟨y, k, e⟩ := ho₁.tooDeep (by omega)
          exact ⟨y, k, by simp only [Index.firstFound, e]⟩

theorem resolveExprWith_outcome {m : String} : ∀ {e : Code.Expr} {d : Nat} {r : Option Meaning},
    Evaluates index (.expr m e) d r → d < b → LookupOutcome n d r (Index.resolveExprWith look m e)
  | _, _, _, .spelled h, hb => hlook _ _ _ _ h hb
  | _, _, _, .member (d := d₁) h₁ h₂, hb => by
    have ho₁ := resolveExprWith_outcome h₁ (by omega)
    have ho₂ := hlook _ _ _ _ h₂ (by omega)
    refine ⟨fun hle => ?_, fun hlt => ?_⟩
    · simp only [Index.resolveExprWith, ho₁.ok (by omega)]
      exact ho₂.ok (by omega)
    · by_cases hd : d₁ ≤ n
      · simp only [Index.resolveExprWith, ho₁.ok hd]
        exact ho₂.tooDeep (by omega)
      · obtain ⟨y, k, e⟩ := ho₁.tooDeep (by omega)
        exact ⟨y, k, by simp only [Index.resolveExprWith, e]⟩
  | _, _, _, .noModule (r := r) h hr, hb => by
    have ho := resolveExprWith_outcome h hb
    refine ⟨fun hle => ?_, fun hlt => ?_⟩
    · cases r with
      | none => simp only [Index.resolveExprWith, ho.ok hle]
      | some meaning =>
        cases meaning with
        | declaration s => simp only [Index.resolveExprWith, ho.ok hle]
        | module k => exact absurd rfl (hr k)
    · obtain ⟨y, k, e⟩ := ho.tooDeep hlt
      exact ⟨y, k, by simp only [Index.resolveExprWith, e]⟩
  | e, _, _, .noName he, _ => by
    have hnone : Index.resolveExprWith look m e = .ok none := by
      cases e <;> first | rfl | cases he
    rw [hnone]
    exact LookupOutcome.of_ok (Nat.zero_le n)

/-- a step of resolution does what it should if the lookups inside it do -/
theorem step_outcome {m x : String} {d : Nat} {r : Option Meaning}
    (h : Evaluates index (.name m x) d r) (hb : d ≤ b) :
    LookupOutcome (n + 1) d r (index.step m x look) := by
  have hsucc : ∀ {d r result}, LookupOutcome n d r result →
      LookupOutcome (n + 1) (d + 1) r result := fun ho =>
    ⟨fun hle => ho.ok (by omega), fun hlt => ho.tooDeep (by omega)⟩
  cases h with
  | outside hm =>
    simp only [Index.step, hm]
    exact LookupOutcome.of_ok (by omega)
  | class_ hm hx | other hm hx | module hm hx =>
    simp only [Index.step, hm, hx, Index.follow]
    exact LookupOutcome.of_ok (by omega)
  | imported hm hx hk h =>
    simp only [Index.step, hm, hx, Index.follow, hk, if_true]
    exact hsucc (hlook _ _ _ _ h (by omega))
  | foreign hm hx hk =>
    simp only [Index.step, hm, hx, Index.follow, hk]
    exact LookupOutcome.of_ok (by omega)
  | renamed hm hx h =>
    simp only [Index.step, hm, hx, Index.follow]
    exact hsucc (resolveExprWith_outcome hlook h (by omega))
  | starred hm hx h =>
    have ho := hsucc (firstFound_outcome hlook _ x h (by omega))
    simp only [Index.step, hm, hx]
    refine ⟨fun hle => by rw [ho.ok hle], fun hlt => ?_⟩
    obtain ⟨y, k, e⟩ := ho.tooDeep hlt
    exact ⟨y, k, by rw [e]⟩
  | unbound hm hx h =>
    have ho := hsucc (firstFound_outcome hlook _ x h (by omega))
    simp only [Index.step, hm, hx]
    refine ⟨fun hle => by rw [ho.ok hle], fun hlt => ?_⟩
    obtain ⟨y, k, e⟩ := ho.tooDeep hlt
    exact ⟨y, k, by rw [e]⟩

end

/-! ## there is one answer -/

variable {index : Index}

theorem Evaluates.name_pos {m x : String} {d : Nat} {r : Option Meaning}
    (h : Evaluates index (.name m x) d r) :
    0 < d := by
  cases h <;> omega

/-- what a name means by the rules alone, if at most `n` lookups stand inside each other -/
def Index.unguarded (index : Index) : Nat → String → String → Index.Lookup
  | 0, m, x => .error (.tooDeep x m)
  | n + 1, m, x => index.step m x (index.unguarded n)

theorem unguarded_follows (n b : Nat) : Follows index (index.unguarded n) n b := by
  induction n generalizing b with
  | zero =>
    intro m x d r h _
    have hpos := h.name_pos
    exact ⟨fun hle => absurd hle (by omega), fun _ => ⟨x, m, rfl⟩⟩
  | succ n ih =>
    intro m x d r h _
    exact step_outcome (ih d) h (Nat.le_refl d)

/-- the answer to a task, with `look` for the lookups of names -/
def Task.run (look : String → String → Index.Lookup) : Task → Index.Lookup
  | name m x => look m x
  | stars ms x => Index.firstFound (fun m => look m x) ms
  | expr m e => Index.resolveExprWith look m e

theorem Follows.run_outcome {look : String → String → Index.Lookup} {n b : Nat}
    (hlook : Follows index look n b) {t : Task} {d : Nat} {r : Option Meaning}
    (h : Evaluates index t d r) (hb : d < b) :
    LookupOutcome n d r (t.run look) := by
  cases t with
  | name m x => exact hlook m x d r h hb
  | stars ms x => exact firstFound_outcome hlook ms x h hb
  | expr m e => exact resolveExprWith_outcome hlook h hb

/-- the answer and the depth are determined -/
theorem Evaluates.unique {t : Task} {d d' : Nat} {r r' : Option Meaning} (h : Evaluates index t d r)
    (h' : Evaluates index t d' r') : d = d' ∧ r = r' := by
  have hrun : ∀ n, LookupOutcome n d r (t.run (index.unguarded n)) := fun n =>
    (unguarded_follows n (d + 1)).run_outcome h (Nat.lt_succ_self d)
  have hrun' : ∀ n, LookupOutcome n d' r' (t.run (index.unguarded n)) := fun n =>
    (unguarded_follows n (d' + 1)).run_outcome h' (Nat.lt_succ_self d')
  have hnot : ∀ {a a' : Nat} {s s' : Option Meaning},
      (∀ n, LookupOutcome n a s (t.run (index.unguarded n))) →
      (∀ n, LookupOutcome n a' s' (t.run (index.unguarded n))) → ¬ a < a' := by
    intro a a' s s' ha ha' hlt
    obtain ⟨x, m, e⟩ := (ha' a).tooDeep hlt
    rw [(ha a).ok (Nat.le_refl a)] at e
    cases e
  obtain rfl : d = d' :=
    Nat.le_antisymm (Nat.not_lt.mp (hnot hrun' hrun)) (Nat.not_lt.mp (hnot hrun hrun'))
  refine ⟨rfl, ?_⟩
  exact Except.ok.inj (((hrun d).ok (Nat.le_refl d)).symm.trans ((hrun' d).ok (Nat.le_refl d)))

/-! ## a task ends just if it has an answer -/

/-- everything that the rules ask for, from `t` on, ends -/
def Finishes (index : Index) (t : Task) : Prop := Acc (fun u t => Calls index t u) t

theorem endless_iff_not_finishes {t : Task} : Endless index t ↔ ¬ Finishes index t :=
  (@not_acc_iff_exists_descending_chain Task (fun u t => Calls index t u) t).symm

theorem evaluates_of_finishes {t : Task} (h : Finishes index t) : ∃ d r, Evaluates index t d r := by
  induction h with
  | intro t _ ih =>
    cases t with
    | name m x =>
      cases hm : index.get? m with
      | none => exact ⟨_, _, .outside hm⟩
      | some entry =>
        cases hx : entry.scope.bindings.get? x with
        | none =>
          obtain ⟨d, r, h⟩ := ih _ (.stars hm hx)
          cases r with
          | none => exact ⟨_, _, .unbound hm hx h⟩
          | some r => exact ⟨_, _, .starred hm hx h⟩
        | some binding =>
          rcases binding with c | k | ⟨k, y⟩ | e | line
          · exact ⟨_, _, .class_ hm hx⟩
          · exact ⟨_, _, .module hm hx⟩
          · cases hk : index.isModule k with
            | false => exact ⟨_, _, .foreign hm hx hk⟩
            | true =>
              obtain ⟨d, r, h⟩ := ih _ (.imported hm hx hk)
              exact ⟨_, _, .imported hm hx hk h⟩
          · obtain ⟨d, r, h⟩ := ih _ (.renamed hm hx)
            exact ⟨_, _, .renamed hm hx h⟩
          · exact ⟨_, _, .other hm hx⟩
    | stars ms x =>
      cases ms with
      | nil => exact ⟨_, _, .exhausted⟩
      | cons m ms =>
        obtain ⟨d, r, h⟩ := ih _ .first
        cases r with
        | some r => exact ⟨_, _, .found h⟩
        | none =>
          obtain ⟨d', r', h'⟩ := ih _ (.next h)
          exact ⟨_, _, .next h h'⟩
    | expr m e =>
      cases e with
      | name pos x =>
        obtain ⟨d, r, h⟩ := ih _ .spelled
        exact ⟨_, _, .spelled h⟩
      | member pos e a =>
        obtain ⟨d, r, h⟩ := ih _ .base
        by_cases hr : ∃ k, r = some (.module k)
        · obtain ⟨k, rfl⟩ := hr
          obtain ⟨d', r', h'⟩ := ih _ (.member h)
          exact ⟨_, _, .member h h'⟩
        · exact ⟨_, _, .noModule h fun k e => hr ⟨k, e⟩⟩
      | _ => exact ⟨_, _, .noName rfl⟩

theorem finishes_of_evaluates {t : Task} {d : Nat} {r : Option Meaning}
    (h : Evaluates index t d r) :
    Finishes index t := by
  induction h with
  | outside | class_ | other | module | foreign =>
    -- nothing is asked for
    refine Acc.intro _ fun u hu => ?_
    cases hu <;> simp_all
  | imported hm hx hk h ih | renamed hm hx h ih | starred hm hx h ih | unbound hm hx h ih =>
    refine Acc.intro _ fun u hu => ?_
    cases hu <;> simp_all [Finishes]
  | exhausted =>
    refine Acc.intro _ fun u hu => ?_
    cases hu
  | found h ih =>
    refine Acc.intro _ fun u hu => ?_
    cases hu with
    | first => exact ih
    | next h' => cases (h.unique h').2
  | next h h' ih ih' =>
    refine Acc.intro _ fun u hu => ?_
    cases hu with
    | first => exact ih
    | next _ => exact ih'
  | spelled h ih =>
    refine Acc.intro _ fun u hu => ?_
    cases hu
    exact ih
  | member h h' ih ih' =>
    refine Acc.intro _ fun u hu => ?_
    cases hu with
    | base => exact ih
    | member h'' =>
      cases (h.unique h'').2
      exact ih'
  | noModule h hr ih =>
    refine Acc.intro _ fun u hu => ?_
    cases hu with
    | base => exact ih
    | member h' => exact absurd (h.unique h').2 (hr _)
  | noName he =>
    refine Acc.intro _ fun u hu => ?_
    cases hu <;> cases he

theorem endless_iff {t : Task} : Endless index t ↔ ¬ ∃ d r, Evaluates index t d r := by
  rw [endless_iff_not_finishes]
  refine not_congr ⟨evaluates_of_finishes, ?_⟩
  rintro ⟨d, r, h⟩
  exact finishes_of_evaluates h

/-! ## what the guards do -/

/-- The guards of a lookup that ends. The lookups around it have more lookups inside each other than
it has itself, so it is none of them. -/
theorem resolveName_outcome (n : Nat) (seen : List (String × String)) {m x : String} {d : Nat}
    {r : Option Meaning} (h : Evaluates index (.name m x) d r)
    (hseen : ∀ key ∈ seen, ∀ d' r', Evaluates index (.name key.1 key.2) d' r' → d < d') :
    LookupOutcome n d r (index.resolveName n seen m x) := by
  have hnew : (m, x) ∉ seen := fun hmem => Nat.lt_irrefl d (hseen _ hmem d r h)
  induction n generalizing seen m x d r with
  | zero =>
    have hpos := h.name_pos
    refine ⟨fun hle => absurd hle (by omega), fun _ => ⟨x, m, ?_⟩⟩
    simp only [Index.resolveName, hnew, if_false]
  | succ n ih =>
    simp only [Index.resolveName, hnew, if_false]
    refine step_outcome (b := d) ?_ h (Nat.le_refl d)
    intro m' x' d' r' h' hlt
    have hseen' : ∀ key ∈ (m, x) :: seen, ∀ e s, Evaluates index (.name key.1 key.2) e s →
        d' < e := by
      intro key hkey e s he
      rcases List.mem_cons.mp hkey with rfl | hkey
      · rw [← (h.unique he).1]
        exact hlt
      · exact Nat.lt_trans hlt (hseen key hkey e s he)
    exact ih _ h' hseen' fun hmem => Nat.lt_irrefl d' (hseen' _ hmem d' r' h')

section
variable {look : String → String → Index.Lookup} {n : Nat}

/-- what `look` gives is what the rules give, with at most `n` lookups inside each other -/
def Justified (index : Index) (look : String → String → Index.Lookup) (n : Nat) : Prop :=
  ∀ m x r, look m x = .ok r → ∃ d ≤ n, Evaluates index (.name m x) d r

variable (hlook : Justified index look n)
include hlook

theorem evaluates_of_firstFound (ms : List String) (x : String) {r : Option Meaning}
    (h : Index.firstFound (fun m => look m x) ms = .ok r) :
    ∃ d ≤ n, Evaluates index (.stars ms x) d r := by
  induction ms with
  | nil =>
    cases h
    exact ⟨0, Nat.zero_le n, .exhausted⟩
  | cons m ms ih =>
    unfold Index.firstFound at h
    cases hm : look m x with
    | error e =>
      rw [hm] at h
      cases h
    | ok r' =>
      obtain ⟨d, hd, hev⟩ := hlook m x r' hm
      rw [hm] at h
      cases r' with
      | some meaning =>
        cases h
        exact ⟨d, hd, .found hev⟩
      | none =>
        obtain ⟨d', hd', hev'⟩ := ih h
        exact ⟨max d d', Nat.max_le.mpr ⟨hd, hd'⟩, .next hev hev'⟩

theorem evaluates_of_resolveExprWith (m : String) (e : Code.Expr) {r : Option Meaning}
    (h : Index.resolveExprWith look m e = .ok r) : ∃ d ≤ n, Evaluates index (.expr m e) d r := by
  fun_induction Index.resolveExprWith look m e generalizing r with
  | case1 pos x =>
    obtain ⟨d, hd, hev⟩ := hlook m x r h
    exact ⟨d, hd, .spelled hev⟩
  | case2 pos e a k he ih =>
    obtain ⟨d, hd, hev⟩ := ih he
    obtain ⟨d', hd', hev'⟩ := hlook k a r h
    exact ⟨max d d', Nat.max_le.mpr ⟨hd, hd'⟩, .member hev hev'⟩
  | case3 pos e a r' hr he ih =>
    cases h
    obtain ⟨d, hd, hev⟩ := ih he
    exact ⟨d, hd, .noModule hev hr⟩
  | case4 pos e a err he ih => cases h
  | case5 e h1 h2 =>
    cases h
    refine ⟨0, Nat.zero_le n, .noName ?_⟩
    cases e <;> simp_all [Code.Expr.spelledName?]

/-- a step of resolution gives what the rules give if the lookups inside it do -/
theorem evaluates_of_step {m x : String} {r : Option Meaning} (h : index.step m x look = .ok r) :
    ∃ d ≤ n + 1, Evaluates index (.name m x) d r := by
  unfold Index.step at h
  cases hm : index.get? m with
  | none =>
    rw [hm] at h
    cases h
    exact ⟨1, by omega, .outside hm⟩
  | some entry =>
    simp only [hm] at h
    cases hx : entry.scope.bindings.get? x with
    | none =>
      simp only [hx] at h
      cases hfirst : Index.firstFound (fun m => look m x) entry.scope.stars with
      | error e =>
        rw [hfirst] at h
        cases h
      | ok found =>
        obtain ⟨d, hd, hev⟩ := evaluates_of_firstFound hlook _ x hfirst
        rw [hfirst] at h
        cases found with
        | none =>
          cases h
          exact ⟨d + 1, by omega, .unbound hm hx hev⟩
        | some meaning =>
          cases h
          exact ⟨d + 1, by omega, .starred hm hx hev⟩
    | some binding =>
      simp only [hx] at h
      rcases binding with c | k | ⟨k, y⟩ | e | line
      · cases h
        exact ⟨1, by omega, .class_ hm hx⟩
      · cases h
        exact ⟨1, by omega, .module hm hx⟩
      · simp only [Index.follow] at h
        split at h
        · rename_i hk
          obtain ⟨d, hd, hev⟩ := hlook k y r h
          exact ⟨d + 1, by omega, .imported hm hx hk hev⟩
        · rename_i hk
          cases h
          exact ⟨1, by omega, .foreign hm hx (by simpa using hk)⟩
      · obtain ⟨d, hd, hev⟩ := evaluates_of_resolveExprWith hlook m e h
        exact ⟨d + 1, by omega, .renamed hm hx hev⟩
      · cases h
        exact ⟨1, by omega, .other hm hx⟩

end

/-- what resolution gives is what the rules give -/
theorem resolveName_justified (n : Nat) (seen : List (String × String)) :
    Justified index (index.resolveName n seen) n := by
  induction n generalizing seen with
  | zero =>
    intro m x r h
    simp only [Index.resolveName] at h
    cases h
  | succ n ih =>
    intro m x r h
    simp only [Index.resolveName] at h
    split at h
    · cases h
    · exact evaluates_of_step (ih _) h

/-! ## expressions -/

theorem resolve_eq_map (module : String) (e : Code.Expr) : index.resolve module e =
    (Index.resolveExprWith (index.resolveName 64 []) module e).map (·.bind Meaning.symbol?) := by
  unfold Index.resolve Index.maxDepth
  rcases Index.resolveExprWith (index.resolveName 64 []) module e with err | _ | s | k <;> rfl

/-- an expression that has an answer is resolved to it, or refused as too deep -/
theorem resolve_of_evaluates {module : String} {e : Code.Expr} {d : Nat} {r : Option Meaning}
    (h : Evaluates index (.expr module e) d r) :
    (d ≤ 64 → index.resolve module e = .ok (r.bind Meaning.symbol?)) ∧
    (64 < d → ∃ x m, index.resolve module e = .error (.tooDeep x m)) := by
  have hout : LookupOutcome 64 d r (Index.resolveExprWith (index.resolveName 64 []) module e) :=
    resolveExprWith_outcome (fun m x d r h _ => resolveName_outcome 64 [] h (by simp)) h
      (Nat.lt_succ_self d)
  rw [resolve_eq_map]
  refine ⟨fun hle => by rw [hout.ok hle]; rfl, fun hlt => ?_⟩
  obtain ⟨x, m, e⟩ := hout.tooDeep hlt
  exact ⟨x, m, by rw [e]; rfl⟩

/-- what is not refused has an answer -/
theorem evaluates_of_resolve {module : String} {e : Code.Expr} {s : Option Symbol}
    (h : index.resolve module e = .ok s) : ∃ d r, Evaluates index (.expr module e) d r := by
  rw [resolve_eq_map] at h
  cases hres : Index.resolveExprWith (index.resolveName 64 []) module e with
  | error err =>
    rw [hres] at h
    cases h
  | ok r =>
    obtain ⟨d, _, hev⟩ := evaluates_of_resolveExprWith (resolveName_justified 64 []) module e hres
    exact ⟨d, r, hev⟩

/-- Resolution of expressions is exact. It fails just if the rules never come to an end or need more
than 64 lookups inside each other, gives what they give in every other case, and reports a cycle
only if they never come to an end. -/
theorem resolve_exact (index : Index) (module : String) (e : Code.Expr) :
    ((∃ err, index.resolve module e = .error err) ↔
      Endless index (.expr module e) ∨ ∃ d r, Evaluates index (.expr module e) d r ∧ 64 < d) ∧
    (∀ d r, Evaluates index (.expr module e) d r → d ≤ 64 →
      index.resolve module e = .ok (r.bind Meaning.symbol?)) ∧
    (∀ name m, index.resolve module e = .error (.cycle name m) →
      Endless index (.expr module e)) := by
  refine ⟨⟨?_, ?_⟩, fun d r h => (resolve_of_evaluates h).1, ?_⟩
  · rintro ⟨err, herr⟩
    by_cases hfin : ∃ d r, Evaluates index (.expr module e) d r
    · obtain ⟨d, r, h⟩ := hfin
      refine Or.inr ⟨d, r, h, Nat.lt_of_not_le fun hle => ?_⟩
      rw [(resolve_of_evaluates h).1 hle] at herr
      cases herr
    · exact Or.inl (endless_iff.mpr hfin)
  · rintro (hendless | ⟨d, r, h, hlt⟩)
    · cases hres : index.resolve module e with
      | error err => exact ⟨err, rfl⟩
      | ok s => exact absurd (evaluates_of_resolve hres) (endless_iff.mp hendless)
    · obtain ⟨x, m, he⟩ := (resolve_of_evaluates h).2 hlt
      exact ⟨_, he⟩
  · intro name m hcycle
    rw [endless_iff]
    rintro ⟨d, r, h⟩
    by_cases hle : d ≤ 64
    · rw [(resolve_of_evaluates h).1 hle] at hcycle
      cases hcycle
    · obtain ⟨x, k, he⟩ := (resolve_of_evaluates h).2 (Nat.lt_of_not_le hle)
      rw [he] at hcycle
      cases hcycle

end Archetype
