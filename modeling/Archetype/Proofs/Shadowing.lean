import Archetype.Proofs.Canonical
import Archetype.Proofs.Reachability
import Archetype.Proofs.Recorded

/-!
# Sources before stubs

Several units can have one module: a file and a package of the same name, and a stub beside each.
The table of modules holds one unit of each. A real source, once it is in the table, stays there; a
stub gives way to whatever comes next. So in whatever order the units stand, the table has the first
real source of a module, and only without one a stub, the last. Names inside a unit are looked up
through this table, and are looked up in the unit itself just if the table has it.

* `Program.stubs`                   the units that only declare;
* `Program.OneSource`               no two real sources have the same module;
* `get?_foldl_of_source`            a real source stays in the table;
* `get?_foldl_of_stub`              what the table has after a list of units, if no real source was
                                    there before;
* `Program.get?_eq`                 the unit of a module in terms of the list of units;
* `Program.modules_eq`              the modules in terms of the list of units;
* `Program.oneSource_iff`           when all real sources are found by their modules;
* `sources_shadow_stubs`            these, and what they mean for the classes of a unit;
* `armoury`                         a module with a source between two stubs, and one with two stubs
                                    alone.
-/

namespace Archetype

open Code

namespace Program

/-- the units that only declare -/
def stubs (p : Program) : List SourceUnit := p.units.filter (·.isStub)

/-- no two real sources have the same module -/
def OneSource (p : Program) : Prop :=
  ∀ u ∈ p.analyzable, ∀ v ∈ p.analyzable, u.module = v.module → u = v

/-! ## the unit of a module -/

section
variable {table : Assoc SourceUnit} {m : String}

/-- a real source stays in the table, whatever comes after it -/
theorem get?_foldl_of_source {u : SourceUnit} (hu : table.get? m = some u)
    (hsource : u.isStub = false) (units : List SourceUnit) :
    (units.foldl addModule table).get? m = some u := by
  induction units generalizing table with
  | nil => exact hu
  | cons v units ih =>
    refine ih ?_
    rw [get?_addModule, hu, Option.all_some, hsource, if_neg (by simp)]

/-- While no real source has the module, the first one that comes takes it for good, and until then
each stub takes it from the one before. -/
theorem get?_foldl_of_stub (htable : (table.get? m).all (·.isStub) = true)
    (units : List SourceUnit) :
    (units.foldl addModule table).get? m
      = ((units.filter (!·.isStub)).find? (·.module = m)).or
          (((units.filter (·.isStub)).findRev? (·.module = m)).or (table.get? m)) := by
  induction units generalizing table with
  | nil => rfl
  | cons v units ih =>
    have hadd := get?_addModule table v m
    rw [htable] at hadd
    rw [List.foldl_cons]
    by_cases hm : v.module = m
    · rw [if_pos ⟨hm, rfl⟩] at hadd
      cases hstub : v.isStub with
      | false => simp [get?_foldl_of_source hadd hstub, hstub, hm]
      | true =>
        rw [ih (by rw [hadd]; exact hstub), hadd]
        simp [hstub, hm]
    · -- a unit of another module changes neither the entry nor what is searched for
      rw [if_neg fun h => hm h.1] at hadd
      rw [ih (hadd ▸ htable), hadd]
      cases hstub : v.isStub <;> simp [hstub, hm]

end

/-- the unit of a module is its first real source, or else its last stub -/
theorem get?_eq (p : Program) (m : String) :
    p.get? m = (p.analyzable.find? (·.module = m)).or (p.stubs.findRev? (·.module = m)) := by
  have hempty : (Assoc.get? ([] : Assoc SourceUnit) m).all (·.isStub) = true := rfl
  have hfold := get?_foldl_of_stub hempty p.units
  rwa [Assoc.get?_nil, Option.or_none] at hfold

/-! ## the modules -/

/-- the table has an entry for the module of each unit that comes, new or old -/
theorem keys_addModule (table : Assoc SourceUnit) (u : SourceUnit) :
    (addModule table u).keys = Names.addAll table.keys [u.module] := by
  have hinsert : (table.insert u.module u).keys = Names.addAll table.keys [u.module] :=
    Assoc.keys_insert table u.module u
  unfold addModule
  split
  · exact hinsert
  · rename_i old hold
    split
    · exact hinsert
    · have hmem : u.module ∈ table.keys :=
        (Assoc.exists_get?_iff_mem_keys table u.module).mp ⟨old, hold⟩
      exact (if_pos hmem).symm

/-- the modules are those of the units, each once, where it first comes -/
theorem modules_eq (p : Program) : p.modules = Names.unique (p.units.map (·.module)) := by
  rw [List.map_eq_flatMap]
  exact Names.foldl_addAll (f := Assoc.keys) keys_addModule p.units []

theorem mem_modules (p : Program) (m : String) : m ∈ p.modules ↔ ∃ u ∈ p.units, u.module = m := by
  rw [modules_eq, Names.mem_unique, List.mem_map]

/-! ## programs with one source for each module -/

/-- the first real source of a module is found, if there is any -/
theorem exists_source {p : Program} {u : SourceUnit} (hu : u ∈ p.analyzable) :
    ∃ v ∈ p.analyzable, v.module = u.module ∧ p.get? u.module = some v := by
  cases hfind : p.analyzable.find? (·.module = u.module) with
  | none => exact absurd (List.find?_eq_none.mp hfind u hu) (by simp)
  | some v =>
    refine ⟨v, List.mem_of_find?_eq_some hfind, by simpa using List.find?_some hfind, ?_⟩
    rw [get?_eq, hfind, Option.some_or]

/-- All real sources are found by their modules just if each has one of its own. -/
theorem oneSource_iff (p : Program) :
    p.OneSource ↔ ∀ u ∈ p.analyzable, p.get? u.module = some u := by
  constructor
  · intro h u hu
    obtain ⟨v, hv, hmodule, hget⟩ := exists_source hu
    rw [hget, h v hv u hu hmodule]
  · intro h u hu v hv hmodule
    have hget := h u hu
    rw [hmodule, h v hv] at hget
    exact (Option.some.inj hget).symm

theorem oneSource_of_nodup {p : Program} (h : (p.analyzable.map (·.module)).Nodup) : p.OneSource :=
  fun _ hu _ hv hmodule => List.inj_on_of_nodup_map h hu hv hmodule

end Program

theorem SourceUnit.isStub_of_mem_analyzable {p : Program} {u : SourceUnit} (hu : u ∈ p.analyzable) :
    u.isStub = false := by
  simpa using (List.mem_filter.mp hu).2

/-- Real sources come before stubs in whatever order the units stand: the unit of a module is the
first real source of that module, or else the last stub. The modules of a program are those of its
units, and none is there twice. All units that are searched for calls are found by their modules
just if no two of them have the same; and then a name that such a unit binds to a class means this
class, in the file of the unit, wherever in the unit it stands. -/
theorem sources_shadow_stubs (p : Program) :
    (∀ m, p.get? m = (p.analyzable.find? (·.module = m)).or (p.stubs.findRev? (·.module = m))) ∧
    (p.modules.Nodup ∧ ∀ m, m ∈ p.modules ↔ ∃ u ∈ p.units, u.module = m) ∧
    (p.OneSource ↔ ∀ u ∈ p.analyzable, p.get? u.module = some u) ∧
    (p.OneSource → ∀ u ∈ p.analyzable, ∀ x c, u.Binds x (.class_ c) → ∀ pos, ∃ s : Symbol,
      (Index.ofProgram p).resolve u.module (.name pos x) = .ok (some s) ∧
      Resolver.symbol? ⟨u.module, some (Index.ofProgram p)⟩ (some (.name pos x)) = some s ∧
      s.path = u.path ∧ s.name = x ∧ s.module = u.module ∧ s.isClass = true ∧
      s.isStub = false) := by
  refine ⟨p.get?_eq, ⟨?_, p.mem_modules⟩, p.oneSource_iff, fun hone u hu x c hc pos => ?_⟩
  · rw [p.modules_eq]
    exact Names.nodup_unique _
  · have hget : p.get? u.module = some u := p.oneSource_iff.mp hone u hu
    have hresolve := resolve_of_declares hget (SourceUnit.declares_class hc).2 pos
    refine ⟨_, hresolve, ?_, rfl, rfl, rfl, rfl, SourceUnit.isStub_of_mem_analyzable hu⟩
    simp only [Resolver.symbol?, hresolve]

/-! ## sources and stubs of two modules -/

/-- a source between two stubs of its module, and two stubs of another module; the stubs name other
classes -/
def armoury : Program :=
  ⟨Program.memoryRoot,
    (Program.unitsOf Program.memoryRoot
      [(Program.memoryRoot.join (.ofString "shield.pyi"), "class Buckler: ...\n"),
        (Program.memoryRoot.join (.ofString "shield.py"), "class Shield:\n    pass\n"),
        (Program.memoryRoot.join (.ofString "shield/__init__.pyi"), "class Targe: ...\n"),
        (Program.memoryRoot.join (.ofString "sword.pyi"), "class Rapier: ...\n"),
        (Program.memoryRoot.join (.ofString "sword/__init__.pyi"),
          "class Sabre: ...\n")]).toOption.getD [],
    true⟩

/-- the source is found before the stubs, the later stub before the earlier one, and the class in
the source -/
theorem sources_shadow_stubs_armoury :
    armoury.OneSource ∧ "sword" ∈ armoury.modules ∧
    (armoury.get? "sword").map (·.path.text) = some "/virtual/sword/__init__.pyi" ∧
    ∃ u ∈ armoury.analyzable, u.path.text = "/virtual/shield.py" ∧ armoury.get? u.module = some u ∧
      u.Binds "Shield" (.class_ "Shield") ∧ ∃ s : Symbol,
        (Index.ofProgram armoury).resolve u.module (.name default "Shield") = .ok (some s) ∧
        s.path = u.path := by
  have hcheck : (armoury.analyzable.map (·.module)).Nodup ∧
      armoury.units.any (·.module = "sword") = true ∧
      ((armoury.analyzable.find? (·.module = "sword")).or
        (armoury.stubs.findRev? (·.module = "sword"))).map
        (·.path.text) = some "/virtual/sword/__init__.pyi" ∧
      (armoury.get? "shield").map (fun u => (u.path.text, u.isStub))
        = some ("/virtual/shield.py", false) ∧
      armoury.checkBinds "shield" "Shield" (.class_ "Shield") = true := by
    decide +kernel
  obtain ⟨hnodup, hsword, hstub, hshield, hbinds⟩ := hcheck
  obtain ⟨u, hu, hclass⟩ := Program.exists_binds hbinds
  rw [hu, Option.map_some, Option.some.injEq, Prod.mk.injEq] at hshield
  have hmem : u ∈ armoury.analyzable :=
    List.mem_filter.mpr ⟨armoury.mem_units_of_byModule "shield" u hu, by simp [hshield.2]⟩
  have hone := Program.oneSource_of_nodup hnodup
  obtain ⟨hget, ⟨-, hmodules⟩, hfound, hresolve⟩ := sources_shadow_stubs armoury
  obtain ⟨s, hs, -, hpath, -⟩ := hresolve hone u hmem "Shield" "Shield" hclass default
  refine ⟨hone, (hmodules "sword").mpr ?_, ?_, u, hmem, hshield.1, hfound.mp hone u hmem, hclass, s,
    hs, hpath⟩
  · simpa using hsword
  · rw [hget]
    exact hstub

end Archetype
