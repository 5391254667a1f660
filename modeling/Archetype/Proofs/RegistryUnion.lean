import Archetype.Proofs.Canonical
import Archetype.Proofs.UnitOrder

/-!
# The registry as a union

The registry is filled in place, unit by unit and declaration by declaration. In the end it is the
union of what the units declare and nothing else, and where it tells the origin of a component, this
is a declaration of that name.

* `Declarations.Mentions`          the components that declarations speak of;
* `Registry.Unites`                the registry holds just what a list of declarations says;
* `Registry.unites_ofProgram`      the registry of a program unites its units;
* `Component.Traced`               the origin of a component, if one is told, is a declaration under
                                   its name;
* `Registry.traced_ofProgram`      all origins in the registry are such, and `tells_ofProgram` says
                                   which are told;
* `registry_is_union`              both, and that stubs have no part in it;
* `splitPosition`                  a component that is declared in one file and constrained in two
                                   others.
-/

namespace Archetype

open Code

/-! ## what declarations say -/

/-- the declarations name the component: as the subject or a target of constraints, in a template or
in a query -/
def Declarations.Mentions (d : Declarations) (n : String) : Prop :=
  (∃ v ∈ d.validators, v.subject.name = n ∨ n ∈ v.dependencies.map (·.name) ∨
    n ∈ v.conflicts.map (·.name)) ∨
  (∃ t ∈ d.templates, n ∈ t.components.map (·.name)) ∨
  ∃ q ∈ d.queries, n ∈ q.all.map (·.name) ∨ n ∈ q.any.map (·.name) ∨ n ∈ q.none.map (·.name)

theorem Declarations.mem_names (d : Declarations) (n : String) : n ∈ d.names ↔ d.Mentions n := by
  have hvalidator (v : Validator) : n ∈ v.names
      ↔ v.subject.name = n ∨ n ∈ v.dependencies.map (·.name) ∨ n ∈ v.conflicts.map (·.name) := by
    unfold Validator.names
    rw [List.mem_append, List.mem_cons, or_assoc, eq_comm]
  have hquery (q : Query) : n ∈ Registry.queryNames q
      ↔ n ∈ q.all.map (·.name) ∨ n ∈ q.any.map (·.name) ∨ n ∈ q.none.map (·.name) := by
    unfold Registry.queryNames
    rw [List.map_append, List.map_append, List.mem_append, List.mem_append, or_assoc]
  unfold Declarations.names Declarations.Mentions
  simp only [List.mem_append, List.mem_flatMap, hvalidator, hquery]

/-- the registry holds what the declarations say: an entry for each subject and for nothing else,
with all that is asked of it, and every component that is named -/
structure Registry.Unites (r : Registry) (all : List Declarations) : Prop where
  entries : ∀ n, (∃ c, r.components.get? n = some c) ↔
    ∃ d ∈ all, ∃ v ∈ d.validators, v.subject.name = n
  once : r.components.keys.Nodup
  dependencies : ∀ n c, r.components.get? n = some c → ∀ b, b ∈ c.constraints.dependencies
    ↔ ∃ d ∈ all, ∃ v ∈ d.validators, v.subject.name = n ∧ b ∈ v.dependencies.map (·.name)
  conflicts : ∀ n c, r.components.get? n = some c → ∀ b, b ∈ c.constraints.conflicts
    ↔ ∃ d ∈ all, ∃ v ∈ d.validators, v.subject.name = n ∧ b ∈ v.conflicts.map (·.name)
  known : ∀ n, n ∈ r.known ↔ ∃ d ∈ all, d.Mentions n

namespace Registry

theorem unites_ofProgram (p : Program) (index : Option Index) :
    (ofProgram p index).Unites (p.analyzable.map (·.declarations index)) := by
  have hon (side : Side) (n : String) (c : Component)
      (hc : (ofProgram p index).components.get? n = some c)
      (b : String) : b ∈ c.constraints.on side ↔ ∃ d ∈ p.analyzable.map (·.declarations index),
        ∃ v ∈ d.validators, v.subject.name = n ∧ b ∈ v.constraints.2.on side := by
    rw [mem_on_iff_asks (nodup_keys_ofProgram p index) hc, asks_ofProgram]
    simp only [List.mem_map, exists_exists_and_eq_and, asks_declarations]
  refine ⟨fun n => ?_, nodup_keys_ofProgram p index, hon .dependency, hon .conflict, fun n => ?_⟩
  · rw [Assoc.exists_get?_iff_mem_keys, keys_ofProgram, Names.mem_unique]
    simp only [List.mem_flatMap, List.mem_map, exists_exists_and_eq_and, Declarations.subjects]
  · rw [known_ofProgram, Names.mem_unique]
    simp only [List.mem_flatMap, List.mem_map, exists_exists_and_eq_and, Declarations.mem_names]

/-- whatever has an entry or is asked for in one is named -/
theorem Unites.known_of_entry {r : Registry} {all : List Declarations} (h : r.Unites all)
    {n : String} {c : Component} (hc : r.components.get? n = some c) :
    n ∈ r.known ∧
      ∀ b, b ∈ c.constraints.dependencies ∨ b ∈ c.constraints.conflicts → b ∈ r.known := by
  refine ⟨?_, fun b hb => ?_⟩
  · obtain ⟨d, hd, v, hv, hn⟩ := (h.entries n).mp ⟨c, hc⟩
    exact (h.known n).mpr ⟨d, hd, Or.inl ⟨v, hv, Or.inl hn⟩⟩
  · rcases hb with hb | hb
    · obtain ⟨d, hd, v, hv, -, hb⟩ := (h.dependencies n c hc b).mp hb
      exact (h.known b).mpr ⟨d, hd, Or.inl ⟨v, hv, Or.inr (Or.inl hb)⟩⟩
    · obtain ⟨d, hd, v, hv, -, hb⟩ := (h.conflicts n c hc b).mp hb
      exact (h.known b).mpr ⟨d, hd, Or.inl ⟨v, hv, Or.inr (Or.inr hb)⟩⟩

/-- only units that are searched have a part in the registry -/
theorem ofProgram_eq_of_analyzable {p q : Program} (h : p.analyzable = q.analyzable)
    (index : Option Index) :
    ofProgram p index = ofProgram q index := by
  unfold ofProgram
  rw [h]

end Registry

/-! ## where components are declared -/

/-- The origin of the component `n`: none is told, or it is told that a module of the program behind
the index declares `n`, and in which file. -/
def Component.Traced (source : Option Program) (n : String) (c : Component) : Prop :=
  (c.qualifiedName = none ∧ c.source = none) ∨
  ∃ program ∈ source, ∃ m owner isClass, program.get? m = some owner ∧ owner.Declares n isClass ∧
    c.qualifiedName = some (m ++ ":" ++ n) ∧ c.source = some owner.path

/-- The name of a subject is that of its symbol. The two are asked for one after the other, of the
same expression. -/
theorem Declarations.name?_subject {u : SourceUnit} {r : Resolver} {v : Validator}
    (hv : v ∈ (Declarations.ofUnit u r).validators) :
    r.name? (some v.subjectExpr) = some v.subject.name := by
  obtain ⟨⟨call, shape⟩, -, hshape⟩ := List.mem_filterMap.mp hv
  cases shape with
  | validator shape =>
    have hshape : r.validator? call.pos shape = some v := hshape
    unfold Resolver.validator? at hshape
    split at hshape
    · rename_i e name hsubject hname
      cases hshape
      rw [Resolver.component?, Option.filter_eq_some_iff, hsubject] at hname
      exact hname.1
    · cases hshape
  | _ => cases hshape

theorem Assoc.get?_update {β : Type} (m : Assoc β) (key : String) (fresh : β) (f : β → β)
    (x : String) :
    (m.update key fresh f).get? x = if key = x then some (f ((m.get? key).getD fresh))
      else m.get? x :=
  Assoc.get?_insert m key _ x

namespace Registry

variable {source : Option Program}

/-- all origins that the registry tells -/
def Traced (source : Option Program) (r : Registry) : Prop :=
  ∀ n c, r.components.get? n = some c → c.Traced source n

/-- A subject that resolves gives both parts of the origin at once, and one that does not leaves
them both. -/
theorem Traced.recordValidator {r : Registry} (h : r.Traced source) {module : String}
    {v : Validator}
    (hv : Resolver.name? ⟨module, source.map Index.ofProgram⟩ (some v.subjectExpr)
      = some v.subject.name) :
    (r.recordValidator ⟨module, source.map Index.ofProgram⟩ v).Traced source := by
  intro n c hc
  dsimp only [Registry.recordValidator] at hc
  rw [Assoc.get?_update] at hc
  split at hc
  · rename_i hn
    subst hn
    cases hc
    cases hsymbol : Resolver.symbol? ⟨module, source.map Index.ofProgram⟩ (some v.subjectExpr) with
    | none =>
      simp only [Component.Traced, Option.map_none, Option.none_or]
      cases hold : r.components.get? v.subject.name with
      | none => exact Or.inl ⟨rfl, rfl⟩
      | some old => exact h _ old hold
    | some s =>
      obtain ⟨index, hindex, hresolve⟩ := Resolver.resolve_of_symbol? hsymbol
      obtain ⟨program, hprogram, rfl⟩ := Option.map_eq_some_iff.mp hindex
      obtain ⟨owner, howner, hpath, -, hdeclares⟩ := (declared_of_resolve hresolve).exists_unit
      have hname : s.name = v.subject.name := by
        rw [Resolver.name?, hsymbol] at hv
        exact Option.some.inj hv
      refine Or.inr ⟨program, hprogram, s.module, owner, s.isClass, howner,
        hname ▸ hdeclares, ?_, ?_⟩
      · rw [← hname]
        rfl
      · rw [hpath]
        rfl
  · exact h n c hc

theorem Traced.record {r : Registry} (h : r.Traced source) (u : SourceUnit) :
    (r.record ⟨u.module, source.map Index.ofProgram⟩
      (u.declarations (source.map Index.ofProgram))).Traced source :=
  List.foldlRecOn (motive := Registry.Traced source) _ _ h fun _ hr _ hv =>
    hr.recordValidator (Declarations.name?_subject hv)

theorem traced_ofProgram (p : Program) : (ofProgram p (source.map Index.ofProgram)).Traced source :=
  List.foldlRecOn (motive := Registry.Traced source) _ _ (fun _ _ hc => nomatch hc) fun _ hr u _ =>
    hr.record u

/-- some entry for the component tells an origin -/
def Tells (r : Registry) (n : String) : Prop :=
  ∃ c, (n, c) ∈ r.components ∧ c.qualifiedName.isSome = true

theorem tells_recordValidator (r : Registry) (resolver : Resolver) (v : Validator) (n : String) :
    (r.recordValidator resolver v).Tells n ↔ r.Tells n ∨
      (v.subject.name = n ∧ (resolver.symbol? (some v.subjectExpr)).isSome = true) := by
  unfold Tells
  dsimp only [recordValidator]
  refine Assoc.exists_mem_update _ _ _ _ (fun c : Component => c.qualifiedName.isSome = true)
    _ ?_ ?_ n
  · intro c
    cases resolver.symbol? (some v.subjectExpr) with
    | none => simp
    | some s => simp
  · exact Bool.false_ne_true

/-- an origin is told if the subject of one of the declarations resolves -/
theorem tells_ofProgram (p : Program) (index : Option Index) (n : String) :
    (ofProgram p index).Tells n ↔ ∃ u ∈ p.analyzable, ∃ v ∈ (u.declarations index).validators,
      v.subject.name = n ∧
      (Resolver.symbol? ⟨u.module, index⟩ (some v.subjectExpr)).isSome = true := by
  have hrecord (r : Registry) (u : SourceUnit) :
      (r.record ⟨u.module, index⟩ (u.declarations index)).Tells n
        ↔ r.Tells n ∨ ∃ v ∈ (u.declarations index).validators,
          v.subject.name = n ∧
          (Resolver.symbol? ⟨u.module, index⟩ (some v.subjectExpr)).isSome = true :=
    foldl_iff_or (P := fun r : Registry => r.Tells n) (fun r v => tells_recordValidator r _ v n) _ r
  have hempty : ¬ empty.Tells n := fun ⟨_, hc, _⟩ => absurd hc List.not_mem_nil
  exact (foldl_iff_or (P := fun r : Registry => r.Tells n) hrecord p.analyzable empty).trans
    (or_iff_right hempty)

end Registry

/-- The registry of a program, built with the index of a program or with none. It has an entry for
each component that a unit declares constraints of and for no other, with the dependencies and the
conflicts from all those declarations; known are all components that a unit names, so every one that
has an entry or is asked for in one. Stubs have no part in it. An entry for `n` tells an origin just
if the subject of one of those declarations resolves, and then it tells a module of the index whose
scope declares `n`, and its file. -/
theorem registry_is_union (p : Program) (source : Option Program) :
    let index := source.map Index.ofProgram
    let r := Registry.ofProgram p index
    r.Unites (p.analyzable.map (·.declarations index)) ∧
    Registry.ofProgram { p with units := p.units.filter (!·.isStub) } index = r ∧
    ∀ n c, r.components.get? n = some c →
      (n ∈ r.known ∧
        ∀ b, b ∈ c.constraints.dependencies ∨ b ∈ c.constraints.conflicts → b ∈ r.known) ∧
      (c.qualifiedName.isSome = true ↔ ∃ u ∈ p.analyzable, ∃ v ∈ (u.declarations index).validators,
        v.subject.name = n ∧
        (Resolver.symbol? ⟨u.module, index⟩ (some v.subjectExpr)).isSome = true) ∧
      ∀ name, c.qualifiedName = some name → ∃ program ∈ source, ∃ m owner isClass,
        program.get? m = some owner ∧ owner.Declares n isClass ∧
        name = m ++ ":" ++ n ∧ c.source = some owner.path := by
  intro index r
  have hunites : r.Unites (p.analyzable.map (·.declarations index)) :=
    Registry.unites_ofProgram p index
  refine ⟨hunites, ?_, fun n c hc => ⟨hunites.known_of_entry hc, ?_, fun name hname => ?_⟩⟩
  · apply Registry.ofProgram_eq_of_analyzable
    unfold Program.analyzable
    rw [List.filter_filter]
    simp only [Bool.and_self]
  · have hmem := Assoc.get?_eq_some_iff_mem hunites.once n
    rw [← Registry.tells_ofProgram]
    constructor
    · exact fun hsome => ⟨c, (hmem c).mp hc, hsome⟩
    · rintro ⟨c', hc', hsome⟩
      rw [← hmem, hc] at hc'
      exact Option.some.inj hc' ▸ hsome
  · rcases Registry.traced_ofProgram p n c hc with ⟨hnone, -⟩ |
      ⟨program, hprogram, m, owner, isClass, ho, hd, hq, hs⟩
    · rw [hnone] at hname
      cases hname
    · rw [hq] at hname
      exact ⟨program, hprogram, m, owner, isClass, ho, hd, (Option.some.inj hname).symm, hs⟩

/-! ## a component of three files -/

/-- a class, two files that declare constraints of it under different names, and a stub that would
declare more -/
def splitPosition : Program :=
  ⟨Program.memoryRoot,
    (Program.unitsOf Program.memoryRoot
      [(Program.memoryRoot.join (.ofString "a.py"),
          "from models import Position as P\nw.register_validator(P, dependencies=[Transform])\n"),
        (Program.memoryRoot.join (.ofString "b.py"),
          "import models\nw.register_validator(models.Position, conflicts=[Ghost])\n"),
        (Program.memoryRoot.join (.ofString "models.py"), "class Position:\n    pass\n"),
        (Program.memoryRoot.join (.ofString "spare.pyi"),
          "w.register_validator(Spare)\n")]).toOption.getD [],
    true⟩

/-- the registry of the four files -/
def splitRegistry : Registry := .ofProgram splitPosition (some (.ofProgram splitPosition))

/-- One entry has the constraints of both files and tells where the class is declared; the stub is
not there. -/
theorem registry_is_union_splitPosition :
    ∃ c, splitRegistry.components.get? "Position" = some c ∧
      "Transform" ∈ c.constraints.dependencies ∧ "Ghost" ∈ c.constraints.conflicts ∧
      "Position" ∈ splitRegistry.known ∧ "Ghost" ∈ splitRegistry.known ∧
      "Spare" ∉ splitRegistry.known ∧
      c.qualifiedName = some "models:Position" ∧
      ∃ m owner isClass, splitPosition.get? m = some owner ∧ owner.Declares "Position" isClass ∧
        "models:Position" = m ++ ":" ++ "Position" ∧ c.source = some owner.path := by
  have hcheck : (splitRegistry.components.get? "Position").any (fun c =>
        c.constraints.dependencies.contains "Transform" && c.constraints.conflicts.contains "Ghost"
          && c.qualifiedName == some "models:Position") = true ∧
      splitRegistry.known.contains "Spare" = false := by
    decide +kernel
  obtain ⟨c, hc, hcheck'⟩ := (Option.any_eq_true _ _).mp hcheck.1
  rw [Bool.and_eq_true, Bool.and_eq_true, List.contains_iff_mem, List.contains_iff_mem,
    beq_iff_eq] at hcheck'
  obtain ⟨⟨hdependency, hconflict⟩, hname⟩ := hcheck'
  have hspare : "Spare" ∉ splitRegistry.known := by
    rw [← List.contains_iff_mem, hcheck.2]
    exact Bool.false_ne_true
  obtain ⟨-, -, hentry⟩ := registry_is_union splitPosition (some splitPosition)
  obtain ⟨⟨hknown, htargets⟩, -, horigin⟩ := hentry "Position" c hc
  obtain ⟨program, hprogram, horigin⟩ := horigin _ hname
  cases hprogram
  exact ⟨c, hc, hdependency, hconflict, hknown, htargets _ (Or.inr hconflict), hspare, hname,
    horigin⟩

end Archetype
