import Archetype.Declaration
import Archetype.Proofs.Chains
import Archetype.Proofs.Resolution
import Archetype.Proofs.TopLevel

/-!
# Empty names

No declaration of a program has the empty name, because no identifier is empty. Hence it makes no
difference that a template leaves out what has an empty name, while an attach does not.

* `Program.isSpelled`         the names at the top level of all units are not empty;
* `Index.IsSpelled`           the bindings of all modules lead to names that are not empty;
* `Evaluates.name_ne_empty`   then only such declarations are found;
* `component?_dotted`         the component that a dotted name means.
-/

namespace Archetype

open Code

/-! ## where names come from -/

/-- does an expression end in a name that is not empty, if it ends in a name? -/
def Code.Expr.isSpelled (e : Expr) : Bool := e.spelledName? != some ""

/-- are the names that the statement binds others to not empty? -/
def Code.Stmt.isSpelled : Stmt → Bool
  | .class_ name _ _ _ _ => name != ""
  | .importFrom _ names _ => names.all (·.name != "")
  | .assign _ _ value => value.isSpelled
  | .declare _ _ _ value => value.all Expr.isSpelled
  | _ => true

def SourceUnit.isSpelled (u : SourceUnit) : Bool := (Stmt.topLevelAll u.body).all Stmt.isSpelled

def Program.isSpelled (p : Program) : Bool := p.units.all SourceUnit.isSpelled

/-- does the binding lead to a name that is not empty? -/
def Binding.isSpelled : Binding → Bool
  | .class_ name => name != ""
  | .imported _ name => name != ""
  | .alias value => value.isSpelled
  | .module _ | .other _ => true

def Scope.IsSpelled (s : Scope) : Prop := ∀ x, ∀ b ∈ s.bindings.get? x, b.isSpelled = true

def Index.IsSpelled (index : Index) : Prop := ∀ m, ∀ entry ∈ index.get? m, entry.scope.IsSpelled

/-! ## the scope of a unit -/

namespace Scope

theorem isSpelled_valueBinding (line : Nat) (value : Option Expr)
    (h : value.all Expr.isSpelled = true) :
    (valueBinding line value).isSpelled = true := by
  rcases value with _ | e
  · rfl
  · cases e with
    | name pos id => exact h
    | member pos value attr => exact h
    | _ => rfl

theorem isSpelled_ofUnit (u : SourceUnit) (h : u.isSpelled = true) : (ofUnit u).IsSpelled := by
  intro x b hb
  obtain ⟨st, hst, hgives⟩ := gives_of_ofUnit hb
  have hspelled : st.isSpelled = true := List.all_eq_true.mp h st hst
  cases st with
  | class_ name bases keywords body decorators =>
    obtain ⟨rfl, rfl⟩ := hgives
    exact hspelled
  | function pos name parameters body decorators returns =>
    obtain ⟨-, rfl⟩ := hgives
    rfl
  | import_ names =>
    obtain ⟨i, -, -, rfl⟩ := hgives
    rfl
  | importFrom module names level =>
    obtain ⟨target, -, i, hi, -, rfl⟩ := hgives
    exact List.all_eq_true.mp hspelled i hi
  | assign pos targets value =>
    obtain ⟨rfl, -⟩ := hgives
    exact isSpelled_valueBinding pos.line (some value) hspelled
  | declare pos target hint value =>
    obtain ⟨rfl, -⟩ := hgives
    exact isSpelled_valueBinding pos.line value hspelled
  | _ => exact hgives.elim

end Scope

/-! ## the index of a program -/

theorem Index.isSpelled_ofProgram (p : Program) (h : p.isSpelled = true) :
    (ofProgram p).IsSpelled := by
  intro m entry hentry
  rw [Option.mem_def, get?_ofProgram, Option.map_eq_some_iff] at hentry
  obtain ⟨u, hu, rfl⟩ := hentry
  have hmem : u ∈ p.units := p.mem_units_of_byModule m u hu
  exact Scope.isSpelled_ofUnit u (List.all_eq_true.mp h u hmem)

/-! ## what is found -/

/-- is the name that is asked for not empty? -/
def Task.IsSpelled : Task → Prop
  | .name _ x => x ≠ ""
  | .stars _ x => x ≠ ""
  | .expr _ e => e.isSpelled = true

section
variable {index : Index}

theorem submodule?_ne_declaration (m x : String) (s : Symbol) :
    index.submodule? m x ≠ some (.declaration s) := by
  unfold Index.submodule?
  dsimp only
  split <;> simp

/-- from a name that is not empty, only declarations are found whose name is not empty -/
theorem Evaluates.name_ne_empty (h : index.IsSpelled) {t : Task} {d : Nat} {r : Option Meaning}
    (hev : Evaluates index t d r) (ht : t.IsSpelled) (s : Symbol) (hs : r = some (.declaration s)) :
    s.name ≠ "" := by
  induction hev generalizing s with
  | outside hm => exact absurd hs (submodule?_ne_declaration _ _ s)
  | class_ hm hb =>
    cases hs
    exact bne_iff_ne.mp (h _ _ hm _ _ hb)
  | other hm hb =>
    cases hs
    exact ht
  | module hm hb =>
    split at hs <;> cases hs
  | imported hm hb hk hev ih => exact ih (bne_iff_ne.mp (h _ _ hm _ _ hb)) s hs
  | foreign => cases hs
  | renamed hm hb hev ih => exact ih (h _ _ hm _ _ hb) s hs
  | starred hm hb hev ih => exact ih ht s hs
  | unbound hm hb hev ih => exact absurd hs (submodule?_ne_declaration _ _ s)
  | exhausted => cases hs
  | found hev ih => exact ih ht s hs
  | next hev hev' ih ih' => exact ih' ht s hs
  | spelled hev ih =>
    refine ih (fun hx => ?_) s hs
    rw [hx] at ht
    cases ht
  | member hev hev' ih ih' =>
    -- the member is looked up by its own name, whatever stands before it
    refine ih' (fun ha => ?_) s hs
    rw [ha] at ht
    cases ht
  | noModule => cases hs
  | noName => cases hs

end

/-- a symbol comes from the index -/
theorem Resolver.resolve_of_symbol? {r : Resolver} {e : Expr} {s : Symbol}
    (h : r.symbol? (some e) = some s) :
    ∃ index ∈ r.index, index.resolve r.module e = .ok (some s) := by
  obtain ⟨module, index⟩ := r
  cases index with
  | none => cases h
  | some index =>
    refine ⟨index, rfl, ?_⟩
    cases hresolve : index.resolve module e with
    | ok found =>
      simp only [Resolver.symbol?, hresolve] at h
      rw [h]
    | error err =>
      simp only [Resolver.symbol?, hresolve] at h
      cases h

/-- what is resolved to a declaration has it as its meaning -/
theorem evaluates_of_resolve_some {index : Index} {module : String} {e : Expr} {s : Symbol}
    (h : index.resolve module e = .ok (some s)) :
    ∃ d, Evaluates index (.expr module e) d (some (.declaration s)) := by
  obtain ⟨d, r, hev⟩ := evaluates_of_resolve h
  rcases Nat.lt_or_ge 64 d with hdeep | hdepth
  · obtain ⟨x, m, herr⟩ := (resolve_of_evaluates hev).2 hdeep
    rw [herr] at h
    cases h
  · rw [(resolve_of_evaluates hev).1 hdepth] at h
    rcases r with _ | ⟨s' | k⟩ <;> cases h
    exact ⟨d, hev⟩

theorem Resolver.dotted_ne_empty (r : Resolver) (h : ∀ index ∈ r.index, index.IsSpelled)
    (d : Dotted) :
    r.dotted d ≠ "" := by
  unfold Resolver.dotted
  cases hsymbol : r.symbol? (some (d.expr .start)) with
  | none => exact d.last.property
  | some s =>
    obtain ⟨index, hindex, hresolve⟩ := Resolver.resolve_of_symbol? hsymbol
    obtain ⟨depth, hev⟩ := evaluates_of_resolve_some hresolve
    have hspelled : (d.expr .start).isSpelled = true := by
      unfold Code.Expr.isSpelled
      rw [d.spelledName?_expr, bne_iff_ne]
      exact fun he => d.last.property (Option.some.inj he)
    exact hev.name_ne_empty (h index hindex) hspelled s rfl

/-- a dotted name always means a component, also where empty names are left out -/
theorem Resolver.component?_dotted (r : Resolver) (h : ∀ index ∈ r.index, index.IsSpelled)
    (pos : Position) (d : Dotted) : r.component? (some (d.expr pos)) = some (r.dotted d) := by
  unfold Resolver.component?
  rw [r.name?_dotted, Option.filter_some, if_pos (bne_iff_ne.mpr (r.dotted_ne_empty h d))]

end Archetype
