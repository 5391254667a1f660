import Archetype.Proofs.Resolution
import Archetype.Proofs.Spelling

/-!
# Packages that import their own submodules

A name that a package does not bind means the submodule of that name. A package can also import the
submodule from itself. If it does so under the submodule's own name, the name is bound, and what it
is bound to is the same name of the same package: the lookup meets itself and is refused as a cycle,
so nothing below the submodule can be reached through the package. Under any other name the import
is followed to the submodule.

* `SourceUnit.Binds`            the top level of a unit binds a name to something;
* `throughPackage`              a name in a submodule, written by way of its package;
* `resolveName_own_import`      the lookup that meets itself;
* `submodule_evaluates`         the names that lead from a package to a submodule;
* `own_import_resolution`       both, for the units of a program;
* `gamePackage`                 a package of one submodule.
-/

namespace Archetype

/-- the top level of the unit binds the name to `b` -/
def SourceUnit.Binds (u : SourceUnit) (x : String) (b : Binding) : Prop :=
  (Scope.ofUnit u).bindings.get? x = some b

/-- the name `c` of what `x` is in what `q` is, with the places of the three parts -/
def throughPackage (pos pos' pos'' : Code.Position) (q x c : String) : Code.Expr :=
  .member pos (.member pos' (.name pos'' q) x) c

namespace Index

variable {index : Index} {m pkg q s c : String} {user package inner : IndexEntry}

theorem isModule_of_get? (h : index.get? m = some user) : index.isModule m = true := by
  unfold isModule
  rw [Assoc.contains, h]
  rfl

/-! ## under its own name -/

/-- The import of a name from the module that it stands in is followed to the same lookup. The guard
against cycles is asked before the bound of the depth, so any depth is enough for it. -/
theorem resolveName_own_import (hpkg : index.get? pkg = some package)
    (hs : package.scope.bindings.get? s = some (.imported pkg s)) (n : Nat)
    {seen : List (String × String)} (hseen : (pkg, s) ∉ seen) :
    index.resolveName (n + 1) seen pkg s = .error (.cycle s pkg) := by
  have hagain : index.resolveName n ((pkg, s) :: seen) pkg s = .error (.cycle s pkg) := by
    cases n <;> simp only [resolveName, List.mem_cons_self, if_true]
  simp only [resolveName, hseen, if_false, step, hpkg, hs, follow, isModule_of_get? hpkg,
    if_true, hagain]

/-- what means the package leads to nothing by way of that name -/
theorem resolve_own_import (hpkg : index.get? pkg = some package)
    (hs : package.scope.bindings.get? s = some (.imported pkg s)) {e : Code.Expr} {d : Nat}
    (he : Evaluates index (.expr m e) d (some (.module pkg))) (hd : d ≤ maxDepth)
    (pos pos' : Code.Position) (c : String) :
    index.resolve m (.member pos (.member pos' e s) c) = .error (.cycle s pkg) := by
  have hpackage : resolveExprWith (index.resolveName maxDepth []) m e = .ok (some (.module pkg)) :=
    (resolveExprWith_outcome (fun m x d r h _ => resolveName_outcome maxDepth [] h (by simp)) he
      (Nat.lt_succ_self d)).ok hd
  have hlookup : index.resolveName maxDepth [] pkg s = .error (.cycle s pkg) :=
    resolveName_own_import hpkg hs 63 List.not_mem_nil
  simp only [resolve, resolveExprWith, hpackage, hlookup]

/-! ## under another name, or none -/

/-- the name of a submodule that its package leaves free, and the names under which the package
imports it -/
theorem submodule_evaluates (hpkg : index.get? pkg = some package)
    (hinner : index.get? (pkg ++ "." ++ s) = some inner)
    (hfree : package.scope.bindings.get? s = none) {d : Nat}
    (hstars : Evaluates index (.stars package.scope.stars s) d none) {t : String}
    (ht : t = s ∨ package.scope.bindings.get? t = some (.imported pkg s)) :
    ∃ d' ≤ d + 2, Evaluates index (.name pkg t) d' (some (.module (pkg ++ "." ++ s))) := by
  have hname : Evaluates index (.name pkg s) (d + 1) (some (.module (pkg ++ "." ++ s))) := by
    have hsub : index.submodule? pkg s = some (.module (pkg ++ "." ++ s)) := by
      simp only [submodule?, isModule_of_get? hinner, if_true]
    exact hsub ▸ .unbound hpkg hfree hstars
  rcases ht with rfl | ht
  · exact ⟨d + 1, by omega, hname⟩
  · exact ⟨d + 2, le_rfl, .imported hpkg ht (isModule_of_get? hpkg) hname⟩

/-- a name bound to a module of the program -/
theorem module_evaluates (huser : index.get? m = some user)
    (hq : user.scope.bindings.get? q = some (.module pkg)) (hpkg : index.get? pkg = some package) :
    Evaluates index (.name m q) 1 (some (.module pkg)) := by
  have hbound := Evaluates.module huser hq
  rwa [isModule_of_get? hpkg, if_pos rfl] at hbound

/-- a class of a module that a name of the package means -/
theorem resolve_throughPackage {t k : String} {d d' : Nat}
    (hq : Evaluates index (.name m q) d (some (.module pkg)))
    (ht : Evaluates index (.name pkg t) d' (some (.module k))) (hinner : index.get? k = some inner)
    (hc : inner.scope.bindings.get? c = some (.class_ c)) (hd : d ≤ maxDepth) (hd' : d' ≤ maxDepth)
    (pos pos' pos'' : Code.Position) :
    index.resolve m (throughPackage pos pos' pos'' q t c)
      = .ok (some ⟨c, k, inner.path, true, inner.isStub⟩) := by
  have hclass : Evaluates index (.expr m (throughPackage pos pos' pos'' q t c)) (max (max d d') 1)
      (some (.declaration ⟨c, k, inner.path, true, inner.isStub⟩)) :=
    .member (.member (.spelled hq) ht) (.class_ hinner hc)
  unfold maxDepth at hd hd'
  exact (resolve_of_evaluates hclass).1 (by omega)

end Index

/-! ## the units of a program -/

theorem Program.index_get? {p : Program} {m : String} {u : SourceUnit} (h : p.get? m = some u) :
    (Index.ofProgram p).get? m = some ⟨u.path, u.isStub, Scope.ofUnit u⟩ := by
  rw [Index.get?_ofProgram, show p.byModule.get? m = some u from h]
  rfl

/-- A class of a submodule, named by way of its package. If the package imports the submodule from
itself under the submodule's own name, the name is refused as a cycle, and the unit that uses it
knows no more than the spelling. The class is found by every name that the package binds to the
submodule as a whole. If the package does not bind the submodule's name, and no module of which it
takes all names gives it a meaning, the class is found by that name too, and by each other name
under which the package imports the submodule from itself. -/
theorem own_import_resolution (p : Program) {m pkg q s c : String} {u i v : SourceUnit}
    (hu : p.get? m = some u) (hq : u.Binds q (.module pkg)) (hi : p.get? pkg = some i)
    (hv : p.get? (pkg ++ "." ++ s) = some v) (hc : v.Binds c (.class_ c))
    (pos pos' pos'' : Code.Position) :
    (i.Binds s (.imported pkg s) →
      (Index.ofProgram p).resolve m (throughPackage pos pos' pos'' q s c) = .error (.cycle s pkg) ∧
      Resolver.symbol? ⟨m, some (Index.ofProgram p)⟩ (some (throughPackage pos pos' pos'' q s c))
        = none ∧
      Resolver.name? ⟨m, some (Index.ofProgram p)⟩ (some (throughPackage pos pos' pos'' q s c))
        = some c) ∧
    (∀ t, i.Binds t (.module (pkg ++ "." ++ s)) →
      (Index.ofProgram p).resolve m (throughPackage pos pos' pos'' q t c)
        = .ok (some ⟨c, pkg ++ "." ++ s, v.path, true, v.isStub⟩)) ∧
    (∀ d ≤ 62, (Scope.ofUnit i).bindings.get? s = none →
      Evaluates (Index.ofProgram p) (.stars (Scope.ofUnit i).stars s) d none →
      ∀ t, t = s ∨ i.Binds t (.imported pkg s) →
        (Index.ofProgram p).resolve m (throughPackage pos pos' pos'' q t c)
          = .ok (some ⟨c, pkg ++ "." ++ s, v.path, true, v.isStub⟩)) := by
  have hpackage := Index.module_evaluates (Program.index_get? hu) hq (Program.index_get? hi)
  refine ⟨fun hs => ?_, fun t ht => ?_, fun d hd hfree hstars t ht => ?_⟩
  · have hcycle : (Index.ofProgram p).resolve m (throughPackage pos pos' pos'' q s c)
      = .error (.cycle s pkg) :=
      Index.resolve_own_import (Program.index_get? hi) hs (.spelled hpackage) (by decide) pos pos' c
    have hsymbol : Resolver.symbol? ⟨m, some (Index.ofProgram p)⟩
        (some (throughPackage pos pos' pos'' q s c))
        = none := by
      simp only [Resolver.symbol?, hcycle]
    refine ⟨hcycle, hsymbol, ?_⟩
    simp only [Resolver.name?, hsymbol]
    rfl
  · have hname := Index.module_evaluates (Program.index_get? hi) ht (Program.index_get? hv)
    exact Index.resolve_throughPackage hpackage hname (Program.index_get? hv) hc (by decide)
      (by decide) pos pos' pos''
  · obtain ⟨d', hd', hname⟩ :=
      Index.submodule_evaluates (Program.index_get? hi) (Program.index_get? hv) hfree hstars ht
    have hdepth : d' ≤ Index.maxDepth := by
      unfold Index.maxDepth
      omega
    exact Index.resolve_throughPackage hpackage hname (Program.index_get? hv) hc (by decide) hdepth
      pos pos' pos''

/-! ## a package of one submodule -/

/-- bindings that can be seen to be the same; those to other expressions are not compared -/
def Binding.agrees : Binding → Binding → Bool
  | .class_ x, .class_ y => x = y
  | .module x, .module y => x = y
  | .imported m x, .imported n y => m = n && x = y
  | .other l, .other l' => l = l'
  | _, _ => false

theorem Binding.eq_of_agrees {a b : Binding} (h : a.agrees b = true) : a = b := by
  cases a <;> cases b <;> simp_all [agrees]

/-- does the unit of the module bind the name so? -/
def Program.checkBinds (p : Program) (m x : String) (b : Binding) : Bool :=
  ((p.get? m).bind fun u => (Scope.ofUnit u).bindings.get? x).any (·.agrees b)

theorem Program.exists_binds {p : Program} {m x : String} {b : Binding}
    (h : p.checkBinds m x b = true) :
    ∃ u, p.get? m = some u ∧ u.Binds x b := by
  obtain ⟨b', hb', hagrees⟩ := (Option.any_eq_true _ _).mp h
  obtain ⟨u, hu, hx⟩ := Option.bind_eq_some_iff.mp hb'
  exact ⟨u, hu, Binding.eq_of_agrees hagrees ▸ hx⟩

/-- a package with the given file and one submodule with one class, and a file that imports the
package -/
def gamePackage (file : String) : Program :=
  ⟨Program.memoryRoot,
    (Program.unitsOf Program.memoryRoot
      [(Program.memoryRoot.join (.ofString "game/__init__.py"), file),
        (Program.memoryRoot.join (.ofString "game/components.py"), "class Position:\n    pass\n"),
        (Program.memoryRoot.join (.ofString "main.py"), "import game as g\n")]).toOption.getD [],
    true⟩

/-- the package imports the submodule under its own name -/
def ownName : Program := gamePackage "from . import components\n"

/-- the package imports the submodule under another name, and as a whole under a third -/
def otherNames : Program :=
  gamePackage "from . import components as parts\nimport game.components as own\n"

theorem ownName_units :
    ∃ u i v, ownName.get? "main" = some u ∧ u.Binds "g" (.module "game") ∧
      ownName.get? "game" = some i ∧ i.isPackage = true ∧
      i.Binds "components" (.imported "game" "components") ∧
      ownName.get? "game.components" = some v ∧ v.Binds "Position" (.class_ "Position") := by
  have hcheck : ownName.checkBinds "main" "g" (.module "game") = true ∧
      ownName.checkBinds "game" "components" (.imported "game" "components") = true ∧
      ownName.checkBinds "game.components" "Position" (.class_ "Position") = true ∧
      (ownName.get? "game").all SourceUnit.isPackage = true := by
    decide +kernel
  obtain ⟨hmain, hgame, hcomponents, hpackage⟩ := hcheck
  obtain ⟨u, hu, hq⟩ := Program.exists_binds hmain
  obtain ⟨i, hi, hs⟩ := Program.exists_binds hgame
  obtain ⟨v, hv, hc⟩ := Program.exists_binds hcomponents
  rw [hi] at hpackage
  exact ⟨u, i, v, hu, hq, hi, hpackage, hs, hv, hc⟩

theorem otherNames_units :
    ∃ u i v, otherNames.get? "main" = some u ∧ u.Binds "g" (.module "game") ∧
      otherNames.get? "game" = some i ∧ i.Binds "parts" (.imported "game" "components") ∧
      i.Binds "own" (.module "game.components") ∧
      (Scope.ofUnit i).bindings.get? "components" = none ∧ (Scope.ofUnit i).stars = [] ∧
      otherNames.get? "game.components" = some v ∧ v.Binds "Position" (.class_ "Position") := by
  have hcheck : otherNames.checkBinds "main" "g" (.module "game") = true ∧
      otherNames.checkBinds "game" "parts" (.imported "game" "components") = true ∧
      otherNames.checkBinds "game" "own" (.module "game.components") = true ∧
      otherNames.checkBinds "game.components" "Position" (.class_ "Position") = true ∧
      (otherNames.get? "game").all (fun i =>
        ((Scope.ofUnit i).bindings.get? "components").isNone
            && (Scope.ofUnit i).stars.isEmpty) = true := by
    decide +kernel
  obtain ⟨hmain, hparts, hown, hcomponents, hfree⟩ := hcheck
  obtain ⟨u, hu, hq⟩ := Program.exists_binds hmain
  obtain ⟨i, hi, hparts⟩ := Program.exists_binds hparts
  obtain ⟨i', hi', hown⟩ := Program.exists_binds hown
  obtain rfl : i = i' := Option.some.inj (hi.symm.trans hi')
  obtain ⟨v, hv, hc⟩ := Program.exists_binds hcomponents
  rw [hi, Option.all_some, Bool.and_eq_true, Option.isNone_iff_eq_none, List.isEmpty_iff] at hfree
  exact ⟨u, i, v, hu, hq, hi, hparts, hown, hfree.1, hfree.2, hv, hc⟩

/-- a cycle under the submodule's own name, and the class under each of the other three -/
theorem own_import_resolution_game :
    (Index.ofProgram ownName).resolve "main"
      (throughPackage default default default "g" "components" "Position")
      = .error (.cycle "components" "game") ∧
    ∀ t ∈ ["components", "parts", "own"], ∃ path stub,
      (Index.ofProgram otherNames).resolve "main"
        (throughPackage default default default "g" t "Position")
        = .ok (some ⟨"Position", "game.components", path, true, stub⟩) := by
  have hdot : "game" ++ "." ++ "components" = "game.components" := by decide
  constructor
  · obtain ⟨u, i, v, hu, hq, hi, _, hs, hv, hc⟩ := ownName_units
    rw [← hdot] at hv
    exact ((own_import_resolution ownName hu hq hi hv hc default default default).1 hs).1
  · obtain ⟨u, i, v, hu, hq, hi, hparts, hown, hfree, hstars, hv, hc⟩ := otherNames_units
    rw [← hdot] at hv hown
    obtain ⟨_, hwhole, hnames⟩ :=
      own_import_resolution otherNames hu hq hi hv hc default default default
    have hstars : Evaluates (Index.ofProgram otherNames)
        (.stars (Scope.ofUnit i).stars "components") 0 none :=
      hstars ▸ .exhausted
    have hfound := hnames 0 (Nat.zero_le 62) hfree hstars
    rw [hdot] at hwhole hfound
    intro t ht
    refine ⟨v.path, v.isStub, ?_⟩
    simp only [List.mem_cons, List.not_mem_nil, or_false] at ht
    rcases ht with rfl | rfl | rfl
    · exact hfound _ (Or.inl rfl)
    · exact hfound _ (Or.inr hparts)
    · exact hwhole _ hown

/-- The package imports its submodule, and the class that the submodule has is not found by way of
the package. -/
theorem own_import_unresolved :
    ∃ u i v, ownName.get? "main" = some u ∧ u.Binds "g" (.module "game") ∧
      ownName.get? "game" = some i ∧ i.isPackage = true ∧
      i.Binds "components" (.imported "game" "components") ∧
      ownName.get? "game.components" = some v ∧ v.Binds "Position" (.class_ "Position") ∧
      (Index.ofProgram ownName).resolve "main"
        (throughPackage default default default "g" "components" "Position")
        = .error (.cycle "components" "game") := by
  obtain ⟨u, i, v, hu, hq, hi, hpackage, hs, hv, hc⟩ := ownName_units
  have hg := Index.module_evaluates (Program.index_get? hu) hq (Program.index_get? hi)
  refine ⟨u, i, v, hu, hq, hi, hpackage, hs, hv, hc, ?_⟩
  exact Index.resolve_own_import (Program.index_get? hi) hs (.spelled hg) (by decide) default
    default "Position"

end Archetype
