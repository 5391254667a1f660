import Archetype.Analysis
import Archetype.Proofs.Dependency

/-!
# What is on record

The registry of a program unites the constraints of all its units, and the seed of a configuration
unites those of its tables: what they ask for is what some unit, or some entry, asks for.

* `keys_ofProgram`, `known_ofProgram`   the components of the registry in terms of the units;
* `asks_ofProgram`         its constraints in terms of the units;
* `asks_seed`              the seed in terms of the tables of the configuration;
* `unitGraph_eq_project`   a unit of the program is checked against the graph of the whole project.
-/

namespace Archetype

/-! ## tables -/

section
variable {β : Type}

theorem Assoc.update_nil (key : String) (fresh : β) (f : β → β) :
    Assoc.update [] key fresh f = [(key, f fresh)] := rfl

theorem Assoc.update_cons (k : String) (v : β) (m : Assoc β) (key : String) (fresh : β)
    (f : β → β) :
    Assoc.update ((k, v) :: m) key fresh f
      = if k = key then (k, f v) :: m else (k, v) :: Assoc.update m key fresh f := by
  unfold Assoc.update
  rw [Assoc.get?_cons]
  by_cases h : k = key <;> simp [Assoc.insert, h]

theorem Names.add_cons_of_ne {k name : String} (h : k ≠ name) (s : Names) :
    Names.add (k :: s) name = k :: Names.add s name := by
  unfold Names.add
  by_cases hmem : name ∈ s
  · rw [if_pos hmem, if_pos (List.mem_cons_of_mem k hmem)]
  · rw [if_neg hmem, if_neg (List.not_mem_cons_of_ne_of_not_mem h.symm hmem), List.cons_append]

/-- a name that is put in is one of the names of the table, at the end if it is new -/
theorem Assoc.keys_insert (m : Assoc β) (key : String) (value : β) :
    (m.insert key value).keys = Names.add m.keys key := by
  induction m with
  | nil => rfl
  | cons e m ih =>
    obtain ⟨k, v⟩ := e
    have hkeys : Assoc.keys ((k, v) :: m) = k :: Assoc.keys m := rfl
    rw [Assoc.insert, hkeys]
    by_cases h : k = key
    · subst h
      rw [if_pos rfl, Names.add, if_pos (List.mem_cons_self ..)]
      rfl
    · rw [if_neg h, Names.add_cons_of_ne h, ← ih]
      rfl

/-- the names of a table are those that have a value -/
theorem Assoc.exists_get?_iff_mem_keys (m : Assoc β) (key : String) :
    (∃ value, m.get? key = some value) ↔ key ∈ m.keys := by
  induction m with
  | nil => simp [Assoc.get?_nil, Assoc.keys]
  | cons e m ih =>
    obtain ⟨k, v⟩ := e
    have hkeys : Assoc.keys ((k, v) :: m) = k :: Assoc.keys m := rfl
    rw [hkeys, List.mem_cons, ← ih, Assoc.get?_cons]
    by_cases h : k = key
    · simp [h]
    · simp [h, Ne.symm h]

/-- An entry with a property, after a change that can give an entry the property and never takes it
away. -/
theorem Assoc.exists_mem_update (m : Assoc β) (key : String) (fresh : β) (f : β → β) (P : β → Prop)
    (Q : Prop) (hf : ∀ v, P (f v) ↔ P v ∨ Q) (hfresh : ¬ P fresh) (a : String) :
    (∃ x, (a, x) ∈ m.update key fresh f ∧ P x) ↔ (∃ x, (a, x) ∈ m ∧ P x) ∨ (key = a ∧ Q) := by
  induction m with
  | nil =>
    have h := hf fresh
    rw [Assoc.update_nil]
    constructor
    · rintro ⟨x, hx, hp⟩
      obtain ⟨rfl, rfl⟩ := Prod.mk.inj (List.mem_singleton.mp hx)
      exact Or.inr ⟨rfl, (h.mp hp).resolve_left hfresh⟩
    · rintro (⟨x, hx, _⟩ | ⟨rfl, hq⟩)
      · exact absurd hx List.not_mem_nil
      · exact ⟨f fresh, List.mem_singleton.mpr rfl, h.mpr (Or.inr hq)⟩
  | cons e m ih =>
    obtain ⟨k, v⟩ := e
    rw [Assoc.update_cons]
    have hcons : ∀ (w : β) (l : Assoc β), (∃ x, (a, x) ∈ (k, w) :: l ∧ P x)
        ↔ (k = a ∧ P w) ∨ ∃ x, (a, x) ∈ l ∧ P x := by
      intro w l
      constructor
      · rintro ⟨x, hx, hp⟩
        rcases List.mem_cons.mp hx with hx | hx
        · obtain ⟨rfl, rfl⟩ := Prod.mk.inj hx
          exact Or.inl ⟨rfl, hp⟩
        · exact Or.inr ⟨x, hx, hp⟩
      · rintro (⟨rfl, hp⟩ | ⟨x, hx, hp⟩)
        · exact ⟨w, List.mem_cons_self .., hp⟩
        · exact ⟨x, List.mem_cons_of_mem _ hx, hp⟩
    split
    · rename_i hk
      rw [hcons, hcons, hf, hk, and_or_left, or_right_comm]
    · rw [hcons, hcons, ih, or_assoc]

end

/-! ## folds -/

section
variable {α β : Type} {step : β → α → β}

/-- what each step can bring about and none can undo -/
theorem foldl_iff_or {P : β → Prop} {Q : α → Prop} (h : ∀ b a, P (step b a) ↔ P b ∨ Q a)
    (l : List α) (b : β) :
    P (l.foldl step b) ↔ P b ∨ ∃ a ∈ l, Q a := by
  induction l generalizing b with
  | nil => simp
  | cons a l ih =>
    rw [List.foldl_cons, ih, h, or_assoc]
    simp only [List.mem_cons, exists_eq_or_imp]

/-- a set that each step puts names into -/
theorem Names.foldl_addAll {f : β → Names} {g : α → List String}
    (h : ∀ b a, f (step b a) = (f b).addAll (g a)) (l : List α) (b : β) :
    f (l.foldl step b) = (f b).addAll (l.flatMap g) := by
  induction l generalizing b with
  | nil => rfl
  | cons a l ih =>
    rw [List.foldl_cons, ih, h, List.flatMap_cons]
    exact List.foldl_append.symm

end

/-! ## declarations -/

/-- what a unit declares, with the names resolved by `index` if there is one -/
def SourceUnit.declarations (u : SourceUnit) (index : Option Index) : Declarations :=
  Declarations.ofUnit u ⟨u.module, index⟩

theorem asks_declarations (d : Declarations) (side : Side) (a b : String) :
    Asks d.constraints side a b ↔
      ∃ v ∈ d.validators, v.subject.name = a ∧ b ∈ v.constraints.2.on side := by
  constructor
  · rintro ⟨c, hc, hb⟩
    obtain ⟨v, hv, e⟩ := List.mem_map.mp hc
    refine ⟨v, hv, congrArg Prod.fst e, ?_⟩
    rw [e]
    exact hb
  · rintro ⟨v, hv, rfl, hb⟩
    exact ⟨v.constraints.2, List.mem_map.mpr ⟨v, hv, rfl⟩, hb⟩

/-- the components that a declaration of constraints names -/
def Validator.names (v : Validator) : List String :=
  v.subject.name :: v.dependencies.map (·.name) ++ v.conflicts.map (·.name)

namespace Declarations

/-- the components that constraints are declared of -/
def subjects (d : Declarations) : List String := d.validators.map (·.subject.name)

/-- all components that are named -/
def names (d : Declarations) : List String :=
  d.validators.flatMap Validator.names
    ++ (d.templates.flatMap (fun t => t.components.map (·.name))
      ++ d.queries.flatMap Registry.queryNames)

end Declarations

/-! ## the registry -/

namespace Registry

theorem asks_constraints (r : Registry) (side : Side) (a b : String) :
    Asks r.constraints side a b ↔ ∃ c, (a, c) ∈ r.components ∧ b ∈ c.constraints.on side := by
  constructor
  · rintro ⟨k, hk, hb⟩
    obtain ⟨⟨name, c⟩, hc, e⟩ := List.mem_map.mp hk
    obtain ⟨rfl, rfl⟩ := Prod.mk.inj e
    exact ⟨c, hc, hb⟩
  · rintro ⟨c, hc, hb⟩
    exact ⟨c.constraints, List.mem_map.mpr ⟨(a, c), hc, rfl⟩, hb⟩

theorem asks_recordValidator (r : Registry) (resolver : Resolver) (v : Validator) (side : Side)
    (a b : String) :
    Asks (r.recordValidator resolver v).constraints side a b
      ↔ Asks r.constraints side a b ∨ (v.subject.name = a ∧ b ∈ v.constraints.2.on side) := by
  rw [asks_constraints, asks_constraints]
  dsimp only [recordValidator]
  refine Assoc.exists_mem_update _ _ _ _ (fun c : Component => b ∈ c.constraints.on side) _ ?_ ?_ a
  · intro c
    cases side <;> exact Names.mem_addAll ..
  · cases side <;> exact List.not_mem_nil

theorem asks_record (r : Registry) (resolver : Resolver) (d : Declarations) (side : Side)
    (a b : String) :
    Asks (r.record resolver d).constraints side a b
      ↔ Asks r.constraints side a b ∨ Asks d.constraints side a b := by
  rw [asks_declarations]
  exact foldl_iff_or (P := fun r : Registry => Asks r.constraints side a b)
    (fun r v => asks_recordValidator r resolver v side a b) d.validators r

/-- the registry asks for what some unit asks for -/
theorem asks_ofProgram (p : Program) (index : Option Index) (side : Side) (a b : String) :
    Asks (ofProgram p index).constraints side a b
      ↔ ∃ u ∈ p.analyzable, Asks (u.declarations index).constraints side a b := by
  have h0 : ¬ Asks empty.constraints side a b := asks_nil side a b
  have h := foldl_iff_or (P := fun r : Registry => Asks r.constraints side a b)
    (fun r u => asks_record r ⟨u.module, index⟩ (u.declarations index) side a b) p.analyzable empty
  exact h.trans (or_iff_right h0)

theorem keys_record (r : Registry) (resolver : Resolver) (d : Declarations) :
    (r.record resolver d).components.keys = Names.addAll r.components.keys d.subjects := by
  unfold Declarations.subjects
  rw [List.map_eq_flatMap]
  exact Names.foldl_addAll (f := fun r : Registry => r.components.keys)
    (fun r v => Assoc.keys_insert ..) d.validators r

/-- the components with constraints are those that some unit declares constraints of -/
theorem keys_ofProgram (p : Program) (index : Option Index) :
    (ofProgram p index).components.keys
      = Names.unique (p.analyzable.flatMap fun u => (u.declarations index).subjects) :=
  Names.foldl_addAll (f := fun r : Registry => r.components.keys)
    (fun r u => keys_record r _ (u.declarations index))
    p.analyzable empty

theorem known_record (r : Registry) (resolver : Resolver) (d : Declarations) :
    (r.record resolver d).known = r.known.addAll d.names := by
  have h : (d.validators.foldl (·.recordValidator resolver) r).known = _ :=
    Names.foldl_addAll (f := Registry.known) (g := Validator.names) (fun r v => rfl) d.validators r
  show Names.addAll (d.validators.foldl (·.recordValidator resolver) r).known _ = _
  rw [h]
  exact List.foldl_append.symm

/-- the components that are named are those that some unit names -/
theorem known_ofProgram (p : Program) (index : Option Index) :
    (ofProgram p index).known
      = Names.unique (p.analyzable.flatMap fun u => (u.declarations index).names) :=
  Names.foldl_addAll (f := Registry.known) (fun r u => known_record r _ (u.declarations index))
    p.analyzable empty

end Registry

/-! ## the seed -/

namespace Config

/-- the table of the configuration for one side -/
def table (c : Config) : Side → Assoc (List String)
  | .dependency => c.dependencies
  | .conflict => c.conflicts

/-- some entry of a table lists `b` under `a` -/
def Lists (t : Assoc (List String)) (a b : String) : Prop :=
  ∃ targets, (a, targets) ∈ t ∧ b ∈ targets

/-- takes an entry of a table in on one side -/
def takeEntry (side : Side) (m : Assoc Constraints) (e : String × List String) :
    Assoc Constraints :=
  m.update e.1 ⟨[], []⟩ fun k =>
    match side with
    | .dependency => { k with dependencies := Names.addAll k.dependencies e.2 }
    | .conflict => { k with conflicts := Names.addAll k.conflicts e.2 }

theorem seed_eq (c : Config) :
    c.seed = c.conflicts.foldl (takeEntry .conflict)
      (c.dependencies.foldl (takeEntry .dependency) []) := rfl

theorem asks_takeEntry (side side' : Side) (m : Assoc Constraints) (e : String × List String)
    (a b : String) :
    Asks (takeEntry side m e) side' a b ↔
      Asks m side' a b ∨ (e.1 = a ∧ (side = side' ∧ b ∈ e.2)) := by
  refine Assoc.exists_mem_update _ _ _ _ (fun k : Constraints => b ∈ k.on side') _ ?_ ?_ a
  · intro k
    cases side <;> cases side' <;> simp [Constraints.on, Names.mem_addAll]
  · cases side' <;> exact List.not_mem_nil

theorem asks_foldl_takeEntry (side side' : Side) (t : Assoc (List String)) (m : Assoc Constraints)
    (a b : String) :
    Asks (t.foldl (takeEntry side) m) side' a b ↔
      Asks m side' a b ∨ (side = side' ∧ Lists t a b) := by
  refine (foldl_iff_or (P := fun m => Asks m side' a b)
    (fun m e => asks_takeEntry side side' m e a b) t m).trans
    (or_congr_right ?_)
  constructor
  · rintro ⟨e, he, rfl, hside, hb⟩
    exact ⟨hside, e.2, he, hb⟩
  · rintro ⟨hside, targets, ht, hb⟩
    exact ⟨(a, targets), ht, rfl, hside, hb⟩

/-- the seed asks for what the tables list -/
theorem asks_seed (c : Config) (side : Side) (a b : String) :
    Asks c.seed side a b ↔ Lists (c.table side) a b := by
  rw [seed_eq, asks_foldl_takeEntry, asks_foldl_takeEntry]
  cases side <;> simp [asks_nil, table]

end Config

/-! ## the graph of a project -/

/-- the graph of the registry and the configuration, which no single unit adds to -/
def projectGraph (registry : Registry) (config : Config) : ConstraintGraph :=
  ConstraintGraph.ofDeclared config.symmetricConflicts (registry.constraints ++ config.seed)

/-- a unit of the program is checked against the graph of the whole project: what it declares itself
is on record -/
theorem unitGraph_eq_project (p : Program) (index : Option Index) (config : Config) (u : SourceUnit)
    (hu : u ∈ p.analyzable) :
    unitGraph (Registry.ofProgram p index) config (u.declarations index)
      = projectGraph (Registry.ofProgram p index) config := by
  apply ConstraintGraph.ofDeclared_append_eq
  intro side a b hab
  rw [asks_append]
  exact Or.inl ((Registry.asks_ofProgram p index side a b).mpr ⟨u, hu, hab⟩)

end Archetype
