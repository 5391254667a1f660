import Archetype.Proofs.OwnImports

/-!
# Declarations under their own names

A reference can lead to a declaration by many ways: by imports under other names, by assigned names,
by members of modules, by modules that take all names of others. Whatever the way, it ends at a
class, a function or a value at the top level of some module, and what is found bears the name and
the module of the declaration, not those of the reference. So the name, looked up in that module,
leads to the same declaration again.

* `Stmt.Declares`, `SourceUnit.Declares`   what statements and units declare;
* `Declared`                               the symbols of what the modules of an index declare;
* `Evaluates.declared`                     only such symbols are ever found;
* `Declared.exists_unit`                   the unit behind one;
* `resolve_of_declares`                    what a unit declares is found by its own name;
* `resolved_under_own_name`                the declarations that expressions are resolved to;
* `twoWays`                                a class that is reached by two ways.
-/

namespace Archetype

open Code

/-! ## declarations of a unit -/

/-- the statement declares the name: as a class, or as a function or a value. To assign a name or a
member declares nothing, as it only makes another name for something. -/
def Code.Stmt.Declares (x : String) : (isClass : Bool) → Stmt → Prop
  | true, .class_ name _ _ _ _ => name = x
  | false, .function _ name _ _ _ _ => name = x
  | false, .assign _ targets value => value.spelledName? = none ∧ ∃ place, .name place x ∈ targets
  | false, .declare _ target _ value =>
    value.bind Expr.spelledName? = none ∧ ∃ place, .name place x = target
  | _, _ => False

/-- the top level of the unit declares the name, and nothing later takes it for something else -/
structure SourceUnit.Declares (u : SourceUnit) (x : String) (isClass : Bool) : Prop where
  bound : if isClass then u.Binds x (.class_ x) else ∃ line, u.Binds x (.other line)
  stated : ∃ st ∈ Stmt.topLevelAll u.body, st.Declares x isClass

theorem Scope.spelledName?_of_valueBinding {line line' : Nat} {value : Option Expr}
    (h : valueBinding line value = .other line') : value.bind Expr.spelledName? = none := by
  rcases value with _ | e
  · rfl
  · cases e with
    | name pos id => cases h
    | member pos value attr => cases h
    | _ => rfl

theorem Scope.valueBinding_ne_class {line : Nat} {value : Option Expr} {c : String} :
    valueBinding line value ≠ .class_ c := by
  rcases value with _ | e
  · exact nofun
  · cases e <;> exact nofun

/-- a class is bound to its own name -/
theorem SourceUnit.declares_class {u : SourceUnit} {x c : String} (h : u.Binds x (.class_ c)) :
    c = x ∧ u.Declares x true := by
  obtain ⟨st, hst, hgives⟩ := Scope.gives_of_ofUnit h
  cases st with
  | class_ name bases keywords body decorators =>
    obtain ⟨hname, hc⟩ := hgives
    cases hc
    exact ⟨rfl, h, _, hst, hname⟩
  | function pos name parameters body decorators returns => cases hgives.2
  | import_ names =>
    obtain ⟨i, -, -, hb⟩ := hgives
    cases hb
  | importFrom module names level =>
    obtain ⟨target, -, i, -, -, hb⟩ := hgives
    cases hb
  | assign pos targets value => exact absurd hgives.1.symm Scope.valueBinding_ne_class
  | declare pos target hint value => exact absurd hgives.1.symm Scope.valueBinding_ne_class
  | _ => exact hgives.elim

theorem SourceUnit.declares_other {u : SourceUnit} {x : String} {line : Nat}
    (h : u.Binds x (.other line)) :
    u.Declares x false := by
  obtain ⟨st, hst, hgives⟩ := Scope.gives_of_ofUnit h
  refine ⟨⟨line, h⟩, st, hst, ?_⟩
  cases st with
  | class_ name bases keywords body decorators => cases hgives.2
  | function pos name parameters body decorators returns => exact hgives.1
  | import_ names =>
    obtain ⟨i, -, -, hb⟩ := hgives
    cases hb
  | importFrom module names level =>
    obtain ⟨target, -, i, -, -, hb⟩ := hgives
    cases hb
  | assign pos targets value => exact ⟨Scope.spelledName?_of_valueBinding hgives.1.symm, hgives.2⟩
  | declare pos target hint value =>
    exact ⟨Scope.spelledName?_of_valueBinding hgives.1.symm, hgives.2⟩
  | _ => exact hgives.elim

/-! ## what can be found -/

/-- the symbols of what the modules of an index bind to classes, functions and values -/
inductive Declared (index : Index) : Symbol → Prop
  | class_ {m x c : String} {entry : IndexEntry} : index.get? m = some entry →
      entry.scope.bindings.get? x = some (.class_ c) →
      Declared index ⟨c, m, entry.path, true, entry.isStub⟩
  | other {m x : String} {entry : IndexEntry} {line : Nat} : index.get? m = some entry →
      entry.scope.bindings.get? x = some (.other line) →
      Declared index ⟨x, m, entry.path, false, entry.isStub⟩

/-- All rules but two hand on what others give, and those two are about declarations. -/
theorem Evaluates.declared {index : Index} {t : Task} {d : Nat} {r : Option Meaning}
    (h : Evaluates index t d r) {s : Symbol} (hs : r = some (.declaration s)) :
    Declared index s := by
  induction h with
  | class_ hm hx =>
    cases hs
    exact .class_ hm hx
  | other hm hx =>
    cases hs
    exact .other hm hx
  | outside | unbound => exact absurd hs (submodule?_ne_declaration _ _ s)
  | module => split at hs <;> cases hs
  | foreign | exhausted | noModule | noName => cases hs
  | imported _ _ _ _ ih | renamed _ _ _ ih | starred _ _ _ ih | found _ ih | spelled _ ih =>
    exact ih hs
  | next _ _ _ ih' | member _ _ _ ih' => exact ih' hs

theorem declared_of_resolve {index : Index} {module : String} {e : Expr} {s : Symbol}
    (h : index.resolve module e = .ok (some s)) : Declared index s := by
  obtain ⟨d, hev⟩ := evaluates_of_resolve_some h
  exact hev.declared rfl

theorem Program.module_of_get? {p : Program} {m : String} {u : SourceUnit} (h : p.get? m = some u) :
    u.module = m :=
  p.forall_byModule (P := fun m u => u.module = m) (fun _ _ => rfl) m u h

/-- the unit that declares what was found -/
theorem Declared.exists_unit {p : Program} {s : Symbol} (h : Declared (Index.ofProgram p) s) :
    ∃ u, p.get? s.module = some u ∧ u.path = s.path ∧ u.isStub = s.isStub ∧
    u.Declares s.name s.isClass := by
  cases h with
  | @class_ m x c entry hm hx =>
    rw [Index.get?_ofProgram, Option.map_eq_some_iff] at hm
    obtain ⟨u, hu, rfl⟩ := hm
    obtain ⟨rfl, hdeclares⟩ := SourceUnit.declares_class hx
    exact ⟨u, hu, rfl, rfl, hdeclares⟩
  | @other m x entry line hm hx =>
    rw [Index.get?_ofProgram, Option.map_eq_some_iff] at hm
    obtain ⟨u, hu, rfl⟩ := hm
    exact ⟨u, hu, rfl, rfl, SourceUnit.declares_other hx⟩

/-- what a unit declares is found by its own name, at the first lookup -/
theorem resolve_of_declares {p : Program} {m x : String} {isClass : Bool} {u : SourceUnit}
    (hu : p.get? m = some u) (h : u.Declares x isClass) (pos : Position) :
    (Index.ofProgram p).resolve m (.name pos x) = .ok (some ⟨x, m, u.path, isClass, u.isStub⟩) := by
  have hentry := Program.index_get? hu
  have hev : Evaluates (Index.ofProgram p) (.name m x) 1
      (some (.declaration ⟨x, m, u.path, isClass, u.isStub⟩)) := by
    have hbound := h.bound
    cases isClass with
    | true => exact .class_ hentry hbound
    | false =>
      obtain ⟨line, hline⟩ := hbound
      exact .other hentry hline
  exact (resolve_of_evaluates (.spelled hev)).1 (by omega)

theorem Resolver.name?_of_resolve {index : Index} {module : String} {e : Expr} {s : Symbol}
    (h : index.resolve module e = .ok (some s)) :
    Resolver.name? ⟨module, some index⟩ (some e) = some s.name := by
  simp only [Resolver.name?, Resolver.symbol?, h]

/-- What an expression is resolved to, in any unit, is a declaration of the program: the top level
of the unit that has its module declares its name, as a class just if the symbol says so, and path
and kind are those of that unit. The name, resolved there, gives the same symbol again. The module
and the name tell one symbol from another, and the component that an expression means is called by
that name; so two expressions, in whatever units, that lead to the same declaration mean the same
component. -/
theorem resolved_under_own_name (p : Program) (u : SourceUnit) (e : Expr) (s : Symbol)
    (h : (Index.ofProgram p).resolve u.module e = .ok (some s)) :
    (∃ owner, p.get? s.module = some owner ∧ owner.module = s.module ∧
      (Index.ofProgram p).get? s.module = some ⟨owner.path, owner.isStub, Scope.ofUnit owner⟩ ∧
      owner.path = s.path ∧ owner.isStub = s.isStub ∧ owner.Declares s.name s.isClass ∧
      ∀ pos, (Index.ofProgram p).resolve owner.module (.name pos s.name) = .ok (some s)) ∧
    Resolver.name? ⟨u.module, some (Index.ofProgram p)⟩ (some e) = some s.name ∧
    ∀ (u' : SourceUnit) (e' : Expr) (s' : Symbol),
      (Index.ofProgram p).resolve u'.module e' = .ok (some s') →
      s'.module = s.module → s'.name = s.name → s' = s ∧
        Resolver.name? ⟨u'.module, some (Index.ofProgram p)⟩ (some e')
          = Resolver.name? ⟨u.module, some (Index.ofProgram p)⟩ (some e) := by
  -- the symbol is the one that its own name gives in its own module, and that depends on no
  -- reference
  have hown : ∀ {s : Symbol}, Declared (Index.ofProgram p) s → ∀ pos,
      (Index.ofProgram p).resolve s.module (.name pos s.name) = .ok (some s) := by
    intro s hs pos
    obtain ⟨owner, howner, hpath, hstub, hdeclares⟩ := hs.exists_unit
    rw [resolve_of_declares howner hdeclares, hpath, hstub]
  have hs := declared_of_resolve h
  have hname := Resolver.name?_of_resolve h
  refine ⟨?_, hname, fun u' e' s' h' hmodule hsame => ?_⟩
  · obtain ⟨owner, howner, hpath, hstub, hdeclares⟩ := hs.exists_unit
    have hmodule : owner.module = s.module := Program.module_of_get? howner
    refine ⟨owner, howner, hmodule, Program.index_get? howner, hpath, hstub, hdeclares,
      fun pos => ?_⟩
    rw [hmodule]
    exact hown hs pos
  · have hagain := hown (declared_of_resolve h') default
    rw [hmodule, hsame, hown hs default] at hagain
    cases hagain
    exact ⟨rfl, (Resolver.name?_of_resolve h').trans hname.symm⟩

/-! ## a class that is reached by two ways -/

/-- a class, and a file that imports it under another name and takes it from its module under a
third -/
def twoWays : Program :=
  ⟨Program.memoryRoot,
    (Program.unitsOf Program.memoryRoot
      [(Program.memoryRoot.join (.ofString "models.py"), "class Position:\n    pass\n"),
        (Program.memoryRoot.join (.ofString "main.py"),
          "from models import Position as P\nimport models as m\nQ = m.Position\n")
      ]).toOption.getD [],
    true⟩

/-- the class, as it is found -/
def positionSymbol : Symbol :=
  ⟨"Position", "models", Program.memoryRoot.join (.ofString "models.py"), true, false⟩

/-- does the name mean that declaration in the module? -/
def Program.checkResolves (p : Program) (m x : String) (s : Symbol) : Bool :=
  match (Index.ofProgram p).resolve m (.name default x) with
  | .ok found => found = some s
  | .error _ => false

theorem Program.resolve_of_check {p : Program} {m x : String} {s : Symbol}
    (h : p.checkResolves m x s = true) :
    (Index.ofProgram p).resolve m (.name default x) = .ok (some s) := by
  unfold checkResolves at h
  split at h
  · rename_i found hfound
    rw [hfound, of_decide_eq_true h]
  · cases h

/-- both names lead to the class, which is found again by its own name, and they mean the same
component -/
theorem resolved_under_own_name_twoWays :
    ∃ main ∈ twoWays.get? "main", ∃ models ∈ twoWays.get? "models",
      (Index.ofProgram twoWays).resolve main.module (.name default "P")
        = .ok (some positionSymbol) ∧
      (Index.ofProgram twoWays).resolve main.module (.name default "Q")
        = .ok (some positionSymbol) ∧
      models.Declares "Position" true ∧
      (Index.ofProgram twoWays).resolve models.module (.name default "Position")
        = .ok (some positionSymbol) ∧
      Resolver.name? ⟨main.module, some (Index.ofProgram twoWays)⟩ (some (.name default "Q"))
        = some "Position" ∧
      Resolver.name? ⟨main.module, some (Index.ofProgram twoWays)⟩ (some (.name default "Q"))
        = Resolver.name? ⟨main.module, some (Index.ofProgram twoWays)⟩
          (some (.name default "P")) := by
  have hcheck : twoWays.checkResolves "main" "P" positionSymbol = true ∧
      twoWays.checkResolves "main" "Q" positionSymbol = true ∧
      (twoWays.get? "main").isSome = true := by
    decide +kernel
  obtain ⟨hp, hq, hmain⟩ := hcheck
  obtain ⟨main, hmain⟩ := Option.isSome_iff_exists.mp hmain
  have hmodule : main.module = "main" := Program.module_of_get? hmain
  have hp := Program.resolve_of_check hp
  have hq := Program.resolve_of_check hq
  rw [← hmodule] at hp hq
  obtain ⟨⟨models, hmodels, -, -, -, -, hdeclares, hown⟩, -, hsame⟩ :=
    resolved_under_own_name twoWays main (.name default "P") positionSymbol hp
  refine ⟨main, hmain, models, hmodels, hp, hq, hdeclares, hown default, ?_, ?_⟩
  · exact (resolved_under_own_name twoWays main (.name default "Q") positionSymbol hq).2.1
  · exact (hsame main (.name default "Q") positionSymbol hq rfl rfl).2

end Archetype
