import Archetype.Resolve.Symbol

/-!
# What the top level binds

The scope of a unit is put together statement by statement, and the table of modules unit by unit;
in both, later entries can take the place of earlier ones. What is found in them in the end was put
in by one of the statements, or is one of the units.

* `Stmt.Gives`                what a statement of the top level binds a name to;
* `Scope.gives_of_ofUnit`     what a unit binds, some statement gives;
* `Program.get?_addModule`    what one more unit does to the table of modules;
* `Program.forall_byModule`   what holds of all units holds of those that are found by their
                              modules;
* `Index.get?_ofProgram`      the entries of an index are the units of its program.
-/

namespace Archetype

open Code

/-! ## the scope of a unit -/

/-- the statement, at the top level of `u`, binds the name `x` to `b` -/
def Code.Stmt.Gives (u : SourceUnit) (x : String) (b : Binding) : Stmt → Prop
  | .class_ name _ _ _ _ => name = x ∧ b = .class_ x
  | .function pos name _ _ _ _ => name = x ∧ b = .other pos.line
  | .import_ names =>
    ∃ i ∈ names, i.asName.getD (Scope.firstName i.name) = x ∧
      b = .module (if i.asName.isSome then i.name else Scope.firstName i.name)
  | .importFrom module names level =>
    ∃ target, relativeModule? u level module = some target ∧
      ∃ i ∈ names, i.asName.getD i.name = x ∧ b = .imported target i.name
  | .assign pos targets value =>
    b = Scope.valueBinding pos.line (some value) ∧ ∃ place, .name place x ∈ targets
  | .declare pos target _ value =>
    b = Scope.valueBinding pos.line value ∧ ∃ place, .name place x = target
  | _ => False

namespace Scope

variable {x : String} {b : Binding}

theorem get?_bind {s : Scope} {name : String} {b' : Binding}
    (h : (s.bind name b').bindings.get? x = some b) :
    s.bindings.get? x = some b ∨ (name = x ∧ b = b') := by
  have hget : (s.bindings.insert name b').get? x = some b := h
  rw [Assoc.get?_insert] at hget
  split at hget
  · rename_i hname
    cases hget
    exact Or.inr ⟨hname, rfl⟩
  · exact Or.inl hget

/-- what a list of elements binds is bound by one of them -/
theorem get?_foldl {α : Type} {f : Scope → α → Scope} {P : α → Prop}
    (hf : ∀ s a, (f s a).bindings.get? x = some b → s.bindings.get? x = some b ∨ P a) (l : List α)
    {s : Scope} (h : (l.foldl f s).bindings.get? x = some b) :
    s.bindings.get? x = some b ∨ ∃ a ∈ l, P a := by
  induction l generalizing s with
  | nil => exact Or.inl h
  | cons a l ih =>
    rw [List.foldl_cons] at h
    rcases ih h with h | ⟨a', ha', hP⟩
    · exact (hf s a h).imp_right fun hP => ⟨a, List.mem_cons_self, hP⟩
    · exact Or.inr ⟨a', List.mem_cons_of_mem a ha', hP⟩

theorem get?_assignTo {s : Scope} {b' : Binding} {target : Expr}
    (h : (s.assignTo b' target).bindings.get? x = some b) :
    s.bindings.get? x = some b ∨ (b = b' ∧ ∃ place, .name place x = target) := by
  cases target with
  | name place id =>
    rcases get?_bind h with h | ⟨rfl, hb⟩
    · exact Or.inl h
    · exact Or.inr ⟨hb, place, rfl⟩
  | _ => exact Or.inl h

/-- one statement adds what it gives -/
theorem get?_add {u : SourceUnit} {s : Scope} {st : Stmt}
    (h : (s.add u st).bindings.get? x = some b) :
    s.bindings.get? x = some b ∨ st.Gives u x b := by
  cases st with
  | class_ name bases keywords body decorators =>
    rcases get?_bind h with h | ⟨rfl, hb⟩
    · exact Or.inl h
    · exact Or.inr ⟨rfl, hb⟩
  | function pos name parameters body decorators returns => exact get?_bind h
  | import_ names =>
    refine get?_foldl (fun s i hi => ?_) names h
    unfold importModule at hi
    cases has : i.asName with
    | some name =>
      rw [has] at hi
      exact get?_bind hi
    | none =>
      rw [has] at hi
      exact get?_bind hi
  | importFrom module names level =>
    rw [Scope.add] at h
    cases htarget : relativeModule? u level module with
    | none =>
      rw [htarget] at h
      exact Or.inl h
    | some target =>
      rw [htarget] at h
      refine (get?_foldl (fun s i hi => ?_) names h).imp_right fun hi => ⟨target, htarget, hi⟩
      unfold importName at hi
      split at hi
      · exact Or.inl hi
      · exact get?_bind hi
  | assign pos targets value =>
    refine (get?_foldl (fun _ _ ht => get?_assignTo ht) targets h).imp_right ?_
    rintro ⟨target, htarget, hb, place, rfl⟩
    exact ⟨hb, place, htarget⟩
  | declare pos target hint value => exact get?_assignTo h
  | _ => exact Or.inl h

/-- what a unit binds is bound by a statement of its top level -/
theorem gives_of_ofUnit {u : SourceUnit} (h : (ofUnit u).bindings.get? x = some b) :
    ∃ st ∈ Stmt.topLevelAll u.body, st.Gives u x b := by
  rcases get?_foldl (fun _ _ hadd => get?_add hadd) _ h with hnone | hgives
  · cases hnone
  · exact hgives

end Scope

/-! ## the modules of a program -/

/-- a unit is taken for its module just if no real source has it yet -/
theorem Program.get?_addModule (table : Assoc SourceUnit) (u : SourceUnit) (m : String) :
    (addModule table u).get? m
      = if u.module = m ∧ (table.get? m).all (·.isStub) = true then some u else table.get? m := by
  unfold addModule
  by_cases hm : u.module = m
  · subst hm
    cases hold : table.get? u.module with
    | none => simp [Assoc.get?_insert]
    | some old => by_cases hstub : old.isStub <;> simp [hstub, hold, Assoc.get?_insert]
  · have hother : (table.insert u.module u).get? m = table.get? m := by
      rw [Assoc.get?_insert, if_neg hm]
    rw [if_neg fun h => hm h.1]
    split
    · exact hother
    · split
      · exact hother
      · rfl

/-- what holds of the units of a program, each with its module, holds of the units by their
modules -/
theorem Program.forall_byModule (p : Program) {P : String → SourceUnit → Prop}
    (h : ∀ u ∈ p.units, P u.module u) (m : String) : ∀ u ∈ p.byModule.get? m, P m u := by
  have hfold (units : List SourceUnit) (table : Assoc SourceUnit)
      (htable : ∀ m, ∀ u ∈ table.get? m, P m u)
      (hunits : ∀ u ∈ units, P u.module u) : ∀ m, ∀ u ∈ (units.foldl addModule table).get? m,
        P m u := by
    induction units generalizing table with
    | nil => exact htable
    | cons v units ih =>
      refine ih (addModule table v) (fun m u hu => ?_) fun u hu =>
        hunits u (List.mem_cons_of_mem v hu)
      rw [get?_addModule] at hu
      split at hu
      · rename_i hm
        cases hu
        exact hm.1 ▸ hunits v List.mem_cons_self
      · exact htable m u hu
  exact hfold p.units [] (fun _ _ hu => nomatch hu) h m

/-- each unit of the table is one of the program -/
theorem Program.mem_units_of_byModule (p : Program) (m : String) :
    ∀ u ∈ p.byModule.get? m, u ∈ p.units :=
  p.forall_byModule (P := fun _ u => u ∈ p.units) (fun _ hu => hu) m

theorem Index.get?_ofProgram (p : Program) (m : String) :
    (ofProgram p).get? m = (p.byModule.get? m).map fun u => ⟨u.path, u.isStub, Scope.ofUnit u⟩ := by
  unfold ofProgram
  induction p.byModule with
  | nil => rfl
  | cons e table ih =>
    obtain ⟨k, u⟩ := e
    rw [List.map_cons, Assoc.get?_cons, Assoc.get?_cons, ih]
    split <;> rfl

end Archetype
