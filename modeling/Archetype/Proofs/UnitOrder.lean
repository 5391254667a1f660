import Archetype.Proofs.Recorded
import Archetype.Proofs.SamePairs
import Archetype.Proofs.Severity

/-!
# The order of the units

The units of a program stand in the order in which they were found. If each has a path and a module
of its own, the report of the program does not depend on that order: names are looked up in a table
by module, the registry unites what the units declare, and the findings are sorted by where they
are.

* `Index.resolve_eq_of_perm`      an index answers alike in whatever order its modules stand;
* `Registry.Alike`                registries that have the same constraints of the same components;
* `Program.Reordered`             programs that differ in the order of their units alone;
* `report_of_reordered`           they have the same report.
-/

namespace Archetype

open Code

/-! ## tables in another order -/

section
variable {β : Type} {m m' : Assoc β}

theorem Assoc.keys_perm (hperm : m.Perm m') : m.keys.Perm m'.keys := hperm.map Prod.fst

/-- a table with each name once answers alike in whatever order its entries stand -/
theorem Assoc.get?_eq_of_perm (hperm : m.Perm m') (hkeys : m.keys.Nodup) : m.get? = m'.get? := by
  funext key
  have hkeys' : m'.keys.Nodup := (Assoc.keys_perm hperm).nodup_iff.mp hkeys
  refine Option.ext fun value => ?_
  rw [Assoc.get?_eq_some_iff_mem hkeys, Assoc.get?_eq_some_iff_mem hkeys', hperm.mem_iff]

end

/-! ## looking names up -/

namespace Index

variable {index index' : Index} (hperm : index.Perm index') (hkeys : index.keys.Nodup)
include hperm hkeys

theorem isModule_eq_of_perm : index.isModule = index'.isModule := by
  funext name
  unfold isModule Assoc.contains
  rw [Assoc.get?_eq_of_perm hperm hkeys, (Assoc.keys_perm hperm).any_eq]

theorem step_eq_of_perm : index.step = index'.step := by
  have hmodule := isModule_eq_of_perm hperm hkeys
  have hsub : index.submodule? = index'.submodule? := by
    funext module name
    unfold submodule?
    rw [hmodule]
  have hfollow : index.follow = index'.follow := by
    funext entry module name lookup b
    cases b <;> simp only [follow, hmodule]
  funext module name lookup
  unfold step
  rw [Assoc.get?_eq_of_perm hperm hkeys, hsub, hfollow]

theorem resolveName_eq_of_perm : index.resolveName = index'.resolveName := by
  funext depth
  induction depth with
  | zero => rfl
  | succ depth ih =>
    funext seen module name
    rw [resolveName, resolveName, ih, step_eq_of_perm hperm hkeys]

/-- an index answers alike in whatever order its modules stand -/
theorem resolve_eq_of_perm : index.resolve = index'.resolve := by
  funext module e
  unfold resolve
  rw [resolveName_eq_of_perm hperm hkeys]

theorem name?_eq_of_perm (module : String) :
    Resolver.name? ⟨module, some index⟩ = Resolver.name? ⟨module, some index'⟩ := by
  funext e
  cases e with
  | none => rfl
  | some e =>
    have hsymbol : Resolver.symbol? ⟨module, some index⟩ (some e)
        = Resolver.symbol? ⟨module, some index'⟩ (some e) := by
      simp only [Resolver.symbol?, resolve_eq_of_perm hperm hkeys]
    unfold Resolver.name?
    rw [hsymbol]

end Index

/-! ## declarations -/

/-- what a unit declares depends on what names mean in it alone -/
theorem Declarations.ofUnit_eq (u : SourceUnit) {r r' : Resolver} (h : r.name? = r'.name?) :
    Declarations.ofUnit u r = Declarations.ofUnit u r' := by
  have hcomponent : r.component? = r'.component? := by
    funext e
    unfold Resolver.component?
    rw [h]
  have hreferences : r.references = r'.references := by
    funext e
    unfold Resolver.references
    rw [hcomponent]
  have hvalidator : r.validator? = r'.validator? := by
    funext call s
    unfold Resolver.validator?
    rw [hcomponent, hreferences]
  have htemplate : r.template? = r'.template? := by
    funext call s
    unfold Resolver.template? Resolver.templateEntry?
    rw [hcomponent]
  have hquery : r.query = r'.query := by
    funext call s
    unfold Resolver.query
    rw [hreferences]
  unfold Declarations.ofUnit
  rw [hvalidator, htemplate, hquery]

/-! ## registries -/

/-- registries that have the same constraints of the same components, and know the same names -/
structure Registry.Alike (r r' : Registry) : Prop where
  constrained : ∀ name, name ∈ r.components.keys ↔ name ∈ r'.components.keys
  on : ∀ name c c', r.components.get? name = some c → r'.components.get? name = some c' →
    ∀ side b, b ∈ c.constraints.on side ↔ b ∈ c'.constraints.on side
  known : ∀ name, name ∈ r.known ↔ name ∈ r'.known

/-- a registry has each component once -/
theorem Registry.nodup_keys_ofProgram (p : Program) (index : Option Index) :
    (Registry.ofProgram p index).components.keys.Nodup := by
  rw [keys_ofProgram]
  exact Names.nodup_unique _

theorem Registry.mem_on_iff_asks {r : Registry} (h : r.components.keys.Nodup) {name : String}
    {c : Component} (hc : r.components.get? name = some c) (side : Side) (b : String) :
    b ∈ c.constraints.on side ↔ Asks r.constraints side name b := by
  have hmem := Assoc.get?_eq_some_iff_mem h name
  rw [asks_constraints]
  constructor
  · exact fun hb => ⟨c, (hmem c).mp hc, hb⟩
  · rintro ⟨c', hc', hb⟩
    rw [← hmem, hc] at hc'
    exact Option.some.inj hc' ▸ hb

/-! ## programs in another order -/

/-- lists in another order, if at most one element contributes -/
theorem flatMap_eq_of_perm {α β : Type} {f : α → List β} {l l' : List α} (hperm : l.Perm l')
    (hone : l.Pairwise fun a b => f a = [] ∨ f b = []) : l.flatMap f = l'.flatMap f := by
  induction hperm with
  | nil => rfl
  | cons a _ ih => rw [List.flatMap_cons, List.flatMap_cons, ih hone.of_cons]
  | swap a b l =>
    have hab := List.rel_of_pairwise_cons hone (List.mem_cons_self ..)
    rw [List.flatMap_cons, List.flatMap_cons, List.flatMap_cons, List.flatMap_cons,
      ← List.append_assoc, ← List.append_assoc]
    rcases hab with h | h <;> rw [h, List.append_nil, List.nil_append]
  | trans h1 _ ih1 ih2 => exact (ih1 hone).trans (ih2 (hone.perm h1 fun h => h.symm))

/-- a unit has findings in its own file -/
theorem path_of_mem_analyzeUnit {u : SourceUnit} {registry : Registry} {index : Option Index}
    {config : Config} {f : Finding} (hf : f ∈ analyzeUnit u registry index config) :
    f.location.path = u.path := by
  obtain ⟨x, _, hx⟩ := List.mem_filterMap.mp hf
  rw [(Placed.finding?_eq_some hx).2.1, Location.path_of]

namespace Program

/-- programs that differ in the order of their units alone, each of which has a path and a module of
its own -/
structure Reordered (p q : Program) : Prop where
  root : p.root = q.root
  semantic : p.semantic = q.semantic
  perm : p.units.Perm q.units
  /-- what every path that was read has: it is known by how it is written -/
  proper : ∀ u ∈ p.units, u.path.Proper
  paths : p.PathsDistinct
  modules : (p.units.map SourceUnit.module).Nodup

/-- units whose modules are new are put in behind what is there -/
theorem foldl_addModule (us : List SourceUnit) (m : Assoc SourceUnit)
    (hnew : (m.keys ++ us.map SourceUnit.module).Nodup) :
    us.foldl addModule m = m ++ us.map fun u => (u.module, u) := by
  induction us generalizing m with
  | nil => exact (List.append_nil m).symm
  | cons u us ih =>
    obtain ⟨hkeys, _, hapart⟩ := List.nodup_append.mp hnew
    have hnone : m.get? u.module = none := by
      refine Option.eq_none_iff_forall_ne_some.mpr fun v hv => ?_
      have hmem := (Assoc.get?_eq_some_iff_mem hkeys u.module v).mp hv
      exact hapart _ (List.mem_map_of_mem hmem) _ (List.mem_cons_self ..) rfl
    have hadd : addModule m u = m ++ [(u.module, u)] := by
      unfold addModule
      rw [hnone]
      exact (Assoc.insert_of_get?_none hnone u).1
    have hnew' : (Assoc.keys (m ++ [(u.module, u)]) ++ us.map SourceUnit.module).Nodup := by
      simpa [Assoc.keys] using hnew
    rw [List.foldl_cons, hadd, ih _ hnew', List.append_assoc]
    rfl

/-- units with modules of their own are all found by their modules -/
theorem index_eq (p : Program) (h : (p.units.map SourceUnit.module).Nodup) :
    Index.ofProgram p = p.units.map fun u => (u.module, ⟨u.path, u.isStub, Scope.ofUnit u⟩) := by
  have htable : p.byModule = p.units.map fun u => (u.module, u) := foldl_addModule p.units [] h
  unfold Index.ofProgram
  rw [htable, List.map_map]
  rfl

namespace Reordered

variable {p q : Program} (h : p.Reordered q)
include h

theorem analyzable_perm : p.analyzable.Perm q.analyzable := h.perm.filter _

/-- units with one written path are one unit -/
theorem unit_eq {u v : SourceUnit} (hu : u ∈ p.units) (hv : v ∈ p.units)
    (e : u.path.text = v.path.text) : u = v :=
  h.paths.unit_eq hu hv (Path.text_inj (h.proper u hu) (h.proper v hv) e)

/-- names mean the same -/
theorem name?_eq (module : String) :
    Resolver.name? ⟨module, p.index?⟩ = Resolver.name? ⟨module, q.index?⟩ := by
  have hmodules : (q.units.map SourceUnit.module).Nodup := (h.perm.map _).nodup_iff.mp h.modules
  have hperm : (Index.ofProgram p).Perm (Index.ofProgram q) := by
    rw [index_eq p h.modules, index_eq q hmodules]
    exact h.perm.map _
  have hkeys : (Index.ofProgram p).keys.Nodup := by
    rw [index_eq p h.modules, Assoc.keys, List.map_map]
    exact h.modules
  unfold index?
  rw [h.semantic]
  cases q.semantic with
  | false => rfl
  | true => exact Index.name?_eq_of_perm hperm hkeys module

theorem declarations_eq (u : SourceUnit) : u.declarations p.index? = u.declarations q.index? :=
  Declarations.ofUnit_eq u (h.name?_eq u.module)

/-! ## what is on record -/

theorem asks_iff (side : Side) (a b : String) :
    Asks (Registry.ofProgram p p.index?).constraints side a b
      ↔ Asks (Registry.ofProgram q q.index?).constraints side a b := by
  rw [Registry.asks_ofProgram, Registry.asks_ofProgram]
  simp only [h.declarations_eq, h.analyzable_perm.mem_iff]

theorem registry_alike : (Registry.ofProgram p p.index?).Alike (Registry.ofProgram q q.index?) where
  constrained name := by
    rw [Registry.keys_ofProgram, Registry.keys_ofProgram, Names.mem_unique, Names.mem_unique]
    simp only [List.mem_flatMap, h.declarations_eq, h.analyzable_perm.mem_iff]
  on name c c' hc hc' side b := by
    rw [Registry.mem_on_iff_asks (Registry.nodup_keys_ofProgram p p.index?) hc,
      Registry.mem_on_iff_asks (Registry.nodup_keys_ofProgram q q.index?) hc', h.asks_iff]
  known name := by
    rw [Registry.known_ofProgram, Registry.known_ofProgram, Names.mem_unique, Names.mem_unique]
    simp only [List.mem_flatMap, h.declarations_eq, h.analyzable_perm.mem_iff]

/-! ## what is found -/

/-- a unit has the same findings -/
theorem analyzeUnit_eq (config : Config) (u : SourceUnit) :
    analyzeUnit u (Registry.ofProgram p p.index?) p.index? config
      = analyzeUnit u (Registry.ofProgram q q.index?) q.index? config := by
  have hsame : ConstraintGraph.SamePairs
      (unitGraph (Registry.ofProgram p p.index?) config (u.declarations q.index?))
      (unitGraph (Registry.ofProgram q q.index?) config (u.declarations q.index?)) := by
    apply ConstraintGraph.samePairs_ofDeclared
    intro side a b
    rw [asks_append, asks_append, asks_append, asks_append, h.asks_iff]
  show (unitProblems u _ (unitGraph _ config (u.declarations p.index?)) config.checkCycles
    (u.declarations p.index?)).filterMap _ = _
  rw [h.declarations_eq u, hsame.unitProblems_eq u (congrFun (h.name?_eq u.module))]
  rfl

/-- the findings of one place are those of one unit, so that they stand in its order -/
theorem findings_eq (config : Config) :
    programFindings p (Registry.ofProgram p p.index?) p.index? config
      = programFindings q (Registry.ofProgram q q.index?) q.index? config := by
  unfold programFindings
  simp only [h.analyzeUnit_eq config]
  refine Finding.byKey_le.mergeSort_eq_of_filter_key fun k => ?_
  rw [List.filter_flatMap, List.filter_flatMap]
  refine flatMap_eq_of_perm h.analyzable_perm ?_
  -- of two units, at most one has findings with the key: the key holds the path as it is written
  have hnodup : p.analyzable.Nodup := (List.Nodup.of_map _ h.paths).filter _
  refine hnodup.pairwise_of_forall_ne fun u hu v hv hne => ?_
  by_contra hboth
  obtain ⟨hfu, hfv⟩ := not_or.mp hboth
  obtain ⟨x, hx⟩ := List.exists_mem_of_ne_nil _ hfu
  obtain ⟨y, hy⟩ := List.exists_mem_of_ne_nil _ hfv
  obtain ⟨hx, hxk⟩ := List.mem_filter.mp hx
  obtain ⟨hy, hyk⟩ := List.mem_filter.mp hy
  have htext : x.location.path.text = y.location.path.text :=
    congrArg (fun k => (ofLex k).1) ((of_decide_eq_true hxk).trans (of_decide_eq_true hyk).symm)
  rw [path_of_mem_analyzeUnit hx, path_of_mem_analyzeUnit hy] at htext
  exact hne (h.unit_eq (List.mem_of_mem_filter hu) (List.mem_of_mem_filter hv) htext)

theorem fingerprint_eq : p.fingerprint = q.fingerprint := by
  have hkey : ByKey (fun u : SourceUnit => u.path.text) fun u v =>
      Names.le u.path.text v.path.text :=
    fun u v => Names.byKey_le u.path.text v.path.text
  have hordered : p.ordered = q.ordered :=
    hkey.mergeSort_eq_of_perm h.perm fun u hu v hv => h.unit_eq hu hv
  unfold fingerprint fingerprintText
  rw [hordered, h.root]

end Reordered

end Program

/-- The report of a program does not depend on the order of its units, if each has a path and a
module of its own: the findings are the same and stand in the same order, the same components have
the same constraints, the same names are known, and the fingerprint is the same. -/
theorem report_of_reordered (p q : Program) (config : Config) (h : p.Reordered q) :
    (analyzeProgram p config).findings = (analyzeProgram q config).findings ∧
      (analyzeProgram p config).registry.Alike (analyzeProgram q config).registry ∧
      (analyzeProgram p config).units = (analyzeProgram q config).units ∧
      p.fingerprint = q.fingerprint := by
  rw [analyzeProgram_eq, analyzeProgram_eq]
  exact ⟨h.findings_eq config, h.registry_alike, h.analyzable_perm.length_eq, h.fingerprint_eq⟩

/-- two files, the second of which attaches a component that the first declares, under another
name -/
def splitGame : Program :=
  ⟨Program.memoryRoot,
    (Program.unitsOf Program.memoryRoot
      [(Program.memoryRoot.join (.ofString "base.py"), "class A:\n    pass\n"),
        (Program.memoryRoot.join (.ofString "game.py"),
          "from base import A as C\n"
            ++ "w.register_validator(C, dependencies=[B])\ne = w.create_entity()\ne.attach(C)\n")
      ]).toOption.getD [],
    true⟩

/-- the same files, found in the opposite order -/
def Program.reversed (p : Program) : Program := { p with units := p.units.reverse }

theorem Program.reordered_reversed {p : Program} (hproper : ∀ u ∈ p.units, u.path.Proper)
    (hpaths : p.PathsDistinct) (hmodules : (p.units.map SourceUnit.module).Nodup) :
    p.Reordered p.reversed :=
  ⟨rfl, rfl, (List.reverse_perm p.units).symm, hproper, hpaths, hmodules⟩

theorem report_of_reordered_splitGame :
    splitGame.units.map SourceUnit.module = ["base", "game"] ∧
      (analyzeProgram splitGame .default).findings
        = (analyzeProgram splitGame.reversed .default).findings ∧
      (analyzeProgram splitGame .default).registry.Alike
        (analyzeProgram splitGame.reversed .default).registry ∧
      (analyzeProgram splitGame .default).units
        = (analyzeProgram splitGame.reversed .default).units ∧
      splitGame.fingerprint = splitGame.reversed.fingerprint := by
  have hunits : splitGame.units.map (fun u => (u.path, u.module))
      = [(⟨"/", ["virtual", "base.py"]⟩, "base"), (⟨"/", ["virtual", "game.py"]⟩, "game")] := by
        decide +kernel
  have hpaths : splitGame.units.map SourceUnit.path
      = [⟨"/", ["virtual", "base.py"]⟩, ⟨"/", ["virtual", "game.py"]⟩] := by
    simpa [Function.comp_def] using congrArg (List.map Prod.fst) hunits
  have hmodules : splitGame.units.map SourceUnit.module = ["base", "game"] := by
    simpa [Function.comp_def] using congrArg (List.map Prod.snd) hunits
  have hproper : ∀ path ∈ splitGame.units.map SourceUnit.path, path.Proper := by
    rw [hpaths]
    decide
  refine ⟨hmodules, report_of_reordered splitGame splitGame.reversed .default ?_⟩
  refine Program.reordered_reversed (fun u hu => hproper u.path (List.mem_map_of_mem hu)) ?_ ?_
  · unfold Program.PathsDistinct
    rw [hpaths]
    decide
  · rw [hmodules]
    decide

end Archetype
