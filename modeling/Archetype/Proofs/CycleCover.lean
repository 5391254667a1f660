import Archetype.Proofs.CycleReport
import Archetype.Proofs.Reachability
import Mathlib.Data.List.Permutation
import Mathlib.Data.List.Rotate

/-!
# What the search for cycles covers

The search does not list every cycle, but every way around takes the last step of a cycle that it
lists: without these steps no chain of dependencies comes back to its start. A component that lies
on a cycle may still be missed. What is found then is a cycle in the same knot, among the components
that lead to it and that it leads to.

* `IsLoop`            a chain of dependencies that ends where it starts;
* `exists_closing_step`   every loop takes the last step of a reported cycle;
* `cycles_cover`      the reported cycles are cycles, none twice, and without their last steps there
                      are none;
* `Knotted`           components that lead to each other;
* `knots_reported`    every knot has a reported cycle, which every unit reports that declares a
                      member of it;
* `cycles_miss_sidestep`   a component on a cycle that no reported cycle has.
-/

namespace Archetype

open Relation (ReflTransGen TransGen)

namespace ConstraintGraph

variable {g : ConstraintGraph}

/-! ## loops -/

/-- a chain of dependencies that ends where it starts; it may run through a component more than
once -/
structure IsLoop (g : ConstraintGraph) (loop : List String) : Prop where
  closed : ∃ x between, loop = x :: between ++ [x]
  chain : loop.IsChain g.DependsOn

theorem IsCycle.isLoop {cycle : List String} (h : g.IsCycle cycle) : g.IsLoop cycle :=
  ⟨h.closed, h.chain⟩

/-- a component comes back to itself just if it lies on a loop -/
theorem exists_loop_of_cyclic {c : String} (h : TransGen g.DependsOn c c) :
    ∃ loop, g.IsLoop loop ∧ c ∈ loop := by
  obtain ⟨d, hcd, hdc⟩ := TransGen.head'_iff.mp h
  obtain ⟨rest, hchain, hlast⟩ := List.exists_isChain_cons_of_relationReflTransGen hdc
  have hclosed : c :: d :: rest = c :: (d :: rest).dropLast ++ [c] := by
    rw [List.cons_append, ← hlast, List.dropLast_append_getLast]
  exact ⟨c :: d :: rest,
    ⟨⟨c, (d :: rest).dropLast, hclosed⟩, List.isChain_cons_cons.mpr ⟨hcd, hchain⟩⟩,
    List.mem_cons_self ..⟩

/-- on a loop every component leads to every other -/
theorem IsLoop.reaches {loop : List String} (h : g.IsLoop loop) {a b : String} (ha : a ∈ loop)
    (hb : b ∈ loop) :
    ReflTransGen g.DependsOn a b := by
  obtain ⟨x, between, rfl⟩ := h.closed
  have hto : ReflTransGen g.DependsOn a x := by
    refine List.IsChain.backwards_induction (ReflTransGen g.DependsOn · x) _ h.chain ?_ ?_ a ha
    · exact fun _ _ hyz hz => hz.head hyz
    · intro hne
      rw [List.getLast_append_singleton]
  have hfrom : ReflTransGen g.DependsOn x b :=
    List.IsChain.induction (ReflTransGen g.DependsOn x ·) _ h.chain (fun _ _ hyz hy => hy.tail hyz)
      (fun _ => ReflTransGen.refl) b hb
  exact hto.trans hfrom

/-- every loop takes the last step of a reported cycle: if it did not, its chain would end -/
theorem exists_closing_step {loop : List String} (h : g.IsLoop loop) :
    ∃ cycle ∈ g.cycles, ∃ a b, Closes cycle a b ∧ [a, b] <:+: loop := by
  by_contra hnone
  have huncut : loop.IsChain (g.Uncut g.cycles) := by
    refine List.isChain_iff_forall_rel_of_append_cons_cons.mpr fun a b front rest hloop => ?_
    refine ⟨List.isChain_iff_forall_rel_of_append_cons_cons.mp h.chain hloop,
      fun cycle hc hcl => ?_⟩
    exact hnone ⟨cycle, hc, a, b, hcl, front, rest, by simp [hloop]⟩
  obtain ⟨x, between, rfl⟩ := h.closed
  exact not_cyclic_of_acc (g.ends_uncut x) (reaches_of_chain huncut)

/-! ## the reported cycles -/

/-- in a graph that was built no cycle is shorter than two steps -/
theorem IsCycle.length_ge {cycle : List String} (h : g.IsCycle cycle) (hbuilt : g.Built) :
    3 ≤ cycle.length := by
  obtain ⟨x, ring, rfl⟩ := h.closed
  cases ring with
  | nil => exact absurd rfl (hbuilt.dependsOn_ne (List.isChain_cons_cons.mp h.chain).1)
  | cons y ring => simp

/-- What the search for cycles gives. All that it reports are closed paths of dependencies with at
least two steps, which repeat only their first component, and none of them is a rotation of another.
Without their last steps the dependencies have no cycle: every loop takes one of these steps. So
nothing is reported just if there is no cycle. -/
theorem cycles_cover (h : g.Built) :
    (∀ cycle ∈ g.cycles, g.IsCycle cycle ∧ 3 ≤ cycle.length) ∧
    (g.cycles.Pairwise fun cycle cycle' => ¬ List.IsRotated cycle.dropLast cycle'.dropLast) ∧
    (∀ a, ¬ TransGen (g.Uncut g.cycles) a a) ∧
    (∀ loop, g.IsLoop loop → ∃ cycle ∈ g.cycles, ∃ a b, Closes cycle a b ∧ [a, b] <:+: loop) ∧
    (g.cycles = [] ↔ ∀ a, ¬ TransGen g.DependsOn a a) := by
  refine ⟨fun cycle hc => ?_, ?_, fun a => not_cyclic_of_acc (g.ends_uncut a),
    fun loop => exists_closing_step, ?_⟩
  · have hcycle := isCycle_of_mem_cycles hc
    exact ⟨hcycle, hcycle.length_ge h⟩
  · refine (nodup_cycles g).imp_of_mem fun hc hc' hne hrot => ?_
    exact hne (cycles_ext hc hc' fun x => hrot.mem_iff)
  · rw [← not_iff_not, not_forall_not]
    exact cycles_ne_nil_iff

/-- two components that depend on each other, and one between them on another way -/
def sidestep : ConstraintGraph :=
  .ofDeclared true [("A", ⟨["B", "C"], []⟩), ("B", ⟨["A"], []⟩), ("C", ⟨["B"], []⟩)]

theorem sidestep_cycles : sidestep.cycles = [["A", "B", "A"]] := by cbv

theorem sidestep_loop : sidestep.IsLoop ["C", "B", "A", "C"] := by
  have hcb : sidestep.DependsOn "C" "B" := by unfold DependsOn; decide +kernel
  have hba : sidestep.DependsOn "B" "A" := by unfold DependsOn; decide +kernel
  have hac : sidestep.DependsOn "A" "C" := by unfold DependsOn; decide +kernel
  exact ⟨⟨"C", ["B", "A"], rfl⟩, by simp [hcb, hba, hac]⟩

theorem cycles_cover_sidestep :
    sidestep.Built ∧ sidestep.cycles = [["A", "B", "A"]] ∧ sidestep.IsLoop ["C", "B", "A", "C"] ∧
      (∀ a, ¬ TransGen (sidestep.Uncut sidestep.cycles) a a) ∧
      ∃ cycle ∈ sidestep.cycles, ∃ a b, Closes cycle a b ∧ [a, b] <:+: ["C", "B", "A", "C"] := by
  have hbuilt : sidestep.Built := built_ofDeclared _ _
  obtain ⟨_, _, hacyclic, hloops, _⟩ := cycles_cover hbuilt
  exact ⟨hbuilt, sidestep_cycles, sidestep_loop, hacyclic, hloops _ sidestep_loop⟩

/-! ## knots -/

/-- the components lead to each other -/
def Knotted (g : ConstraintGraph) (a b : String) : Prop :=
  ReflTransGen g.DependsOn a b ∧ ReflTransGen g.DependsOn b a

theorem Knotted.trans {a b c : String} (h : g.Knotted a b) (h' : g.Knotted b c) : g.Knotted a c :=
  ⟨h.1.trans h'.1, h'.2.trans h.2⟩

theorem IsLoop.knotted {loop : List String} (h : g.IsLoop loop) {a b : String} (ha : a ∈ loop)
    (hb : b ∈ loop) :
    g.Knotted a b := ⟨h.reaches ha hb, h.reaches hb ha⟩

/-- the components of the knot of `c` form a ring: each depends on just one of them -/
def IsRing (g : ConstraintGraph) (c : String) : Prop :=
  ∀ a b b', g.Knotted c a → g.DependsOn a b → g.DependsOn a b' → g.Knotted c b →
    g.Knotted c b' → b = b'

/-- every loop takes the last step of a reported cycle, which lies in its knot -/
theorem exists_knotted_cycle {loop : List String} (h : g.IsLoop loop) {c : String} (hc : c ∈ loop) :
    ∃ cycle ∈ g.cycles, (∃ a b, Closes cycle a b ∧ [a, b] <:+: loop) ∧
    ∀ m ∈ cycle, g.Knotted c m := by
  obtain ⟨cycle, hcycle, a, b, hcl, hstep⟩ := exists_closing_step h
  have ha : a ∈ cycle := hcl.subset (List.mem_cons_self ..)
  have ha' : a ∈ loop := hstep.subset (List.mem_cons_self ..)
  refine ⟨cycle, hcycle, ⟨a, b, hcl, hstep⟩, fun m hm => ?_⟩
  exact (h.knotted hc ha').trans ((isCycle_of_mem_cycles hcycle).isLoop.knotted ha hm)

/-- every member of a cycle depends on a member -/
theorem IsCycle.exists_next {cycle : List String} (h : g.IsCycle cycle) {m : String}
    (hm : m ∈ cycle) :
    ∃ b ∈ cycle, g.DependsOn m b := by
  obtain ⟨x, ring, rfl⟩ := h.closed
  -- the last member is also the first
  have hm' : m ∈ x :: ring := by
    rcases List.mem_append.mp hm with hm | hm
    · exact hm
    · rw [List.mem_singleton.mp hm]
      exact List.mem_cons_self ..
  obtain ⟨front, rest, hsplit⟩ := List.append_of_mem hm'
  have hcycle : x :: ring ++ [x] = front ++ m :: (rest ++ [x]) := by simp [hsplit]
  obtain ⟨b, rest', hnext⟩ := List.exists_cons_of_ne_nil (List.concat_ne_nil x rest)
  rw [hnext] at hcycle
  exact ⟨b, by simp [hcycle], List.isChain_iff_forall_rel_of_append_cons_cons.mp h.chain hcycle⟩

/-- a cycle in a knot that is a ring has all its components: the way from a member to them never
leaves it -/
theorem IsRing.mem_cycle {c : String} (hring : g.IsRing c) {cycle : List String}
    (h : g.IsCycle cycle) (hknot : ∀ m ∈ cycle, g.Knotted c m) : c ∈ cycle := by
  have hway : ∀ m, ReflTransGen g.DependsOn m c → m ∈ cycle → c ∈ cycle := by
    intro m hmc
    induction hmc using ReflTransGen.head_induction_on with
    | refl => exact id
    | @head m m' hmm' hm'c ih =>
      intro hm
      obtain ⟨b, hb, hmb⟩ := h.exists_next hm
      have hm' : g.Knotted c m' := ⟨(hknot m hm).1.tail hmm', hm'c⟩
      rw [hring m m' b (hknot m hm) hmm' hmb hm' (hknot b hb)] at ih
      exact ih hb
  obtain ⟨x, ring, rfl⟩ := h.closed
  have hx : x ∈ x :: ring ++ [x] := List.mem_cons_self ..
  exact hway x (hknot x hx).2 hx

end ConstraintGraph

/-! ## what is reported of a knot -/

theorem exists_of_forall₂ {α β : Type} {r : α → β → Prop} {l : List α} {l' : List β}
    (h : List.Forall₂ r l l') :
    ∀ a ∈ l, ∃ b ∈ l', r a b := by
  induction h with
  | nil => exact fun a ha => absurd ha List.not_mem_nil
  | @cons a b l l' hab _ ih =>
    intro x hx
    rcases List.mem_cons.mp hx with rfl | hx
    · exact ⟨b, List.mem_cons_self .., hab⟩
    · obtain ⟨y, hy, hxy⟩ := ih x hx
      exact ⟨y, List.mem_cons_of_mem _ hy, hxy⟩

/-- Every unit that declares a member of the cycle reports it: in every program with that graph, if
cycles are searched for and their rule is not off. -/
def ReportedByMembers (g : ConstraintGraph) (cycle : List String) : Prop :=
  ∀ (p : Program) (config : Config), projectGraph (analyzeProgram p config).registry config = g →
    config.checkCycles = true → config.severityOf .componentValidator ≠ .off →
    ∀ u ∈ p.analyzable, ∀ m ∈ cycle, Declares (u.declarations p.index?).validators m →
      ∃ f ∈ analyzeUnit u (analyzeProgram p config).registry p.index? config,
        f.problem = .cycle cycle

theorem reportedByMembers_of_mem_cycles {g : ConstraintGraph} {cycle : List String}
    (h : cycle ∈ g.cycles) :
    ReportedByMembers g cycle := by
  rintro p config rfl hcheck hsev u hu m hm ⟨v, hv, hsubject⟩
  rw [analyzeProgram_eq] at h ⊢
  have hdeclared : isDeclaredIn (u.declarations p.index?).validators cycle = true := by
    simp only [isDeclaredIn, List.any_eq_true, beq_iff_eq]
    exact ⟨m, hm, v, hv, hsubject⟩
  obtain ⟨f, hf, hreports⟩ :=
    exists_of_forall₂ (cycleFindings_analyzeUnit p p.index? config hcheck hsev u hu) cycle
      (List.mem_filter.mpr ⟨h, hdeclared⟩)
  exact ⟨f, (List.mem_filter.mp hf).1, hreports.problem⟩

theorem registry_analyzeProgram (p : Program) (config : Config) :
    (analyzeProgram p config).registry = Registry.ofProgram p p.index? := by
  rw [analyzeProgram_eq]

/-- a unit that declares no member of a reported cycle reports none -/
theorem cycleFindings_eq_nil {p : Program} {config : Config} (hcheck : config.checkCycles = true)
    (hsev : config.severityOf .componentValidator ≠ .off) {u : SourceUnit} (hu : u ∈ p.analyzable)
    (hnone : ∀ cycle ∈ (projectGraph (analyzeProgram p config).registry config).cycles,
      ∀ m ∈ cycle, m ∉ (u.declarations p.index?).subjects) :
    cycleFindings (analyzeUnit u (analyzeProgram p config).registry p.index? config) = [] := by
  rw [registry_analyzeProgram] at hnone ⊢
  have hlen := (cycleFindings_analyzeUnit p p.index? config hcheck hsev u hu).length_eq
  have hfilter : (projectGraph (Registry.ofProgram p p.index?) config).cycles.filter
      (isDeclaredIn (u.declarations p.index?).validators) = [] := by
    refine List.filter_eq_nil_iff.mpr fun cycle hc hdeclared => ?_
    simp only [isDeclaredIn, List.any_eq_true, beq_iff_eq] at hdeclared
    obtain ⟨m, hm, v, hv, hsubject⟩ := hdeclared
    exact hnone cycle hc m hm (List.mem_map.mpr ⟨v, hv, hsubject⟩)
  rw [hfilter] at hlen
  exact List.length_eq_zero_iff.mp hlen.symm

/-- What is reported of a component that leads back to itself. It lies on loops, and each of them
takes the last step of a reported cycle in the knot of the component; every unit reports that cycle
which declares one of its members. The component itself is on the cycle if its knot is a ring. -/
theorem knots_reported {g : ConstraintGraph} {c : String} (h : TransGen g.DependsOn c c) :
    (∃ loop, g.IsLoop loop ∧ c ∈ loop) ∧
    ∀ loop, g.IsLoop loop → c ∈ loop →
      ∃ cycle ∈ g.cycles, (∃ a b, ConstraintGraph.Closes cycle a b ∧ [a, b] <:+: loop) ∧
        (∀ m ∈ cycle, g.Knotted c m) ∧ (g.IsRing c → c ∈ cycle) ∧ ReportedByMembers g cycle := by
  refine ⟨ConstraintGraph.exists_loop_of_cyclic h, fun loop hloop hc => ?_⟩
  obtain ⟨cycle, hcycle, hstep, hknot⟩ := ConstraintGraph.exists_knotted_cycle hloop hc
  exact ⟨cycle, hcycle, hstep, hknot,
    fun hring => hring.mem_cycle (ConstraintGraph.isCycle_of_mem_cycles hcycle) hknot,
    reportedByMembers_of_mem_cycles hcycle⟩

/-- three files, each of which declares one component of the graph -/
def sidestepFiles : Program :=
  ⟨Program.memoryRoot,
    (Program.unitsOf Program.memoryRoot
      [(Program.memoryRoot.join (.ofString "a.py"),
        "w.register_validator(A, dependencies=[B, C])\n"),
        (Program.memoryRoot.join (.ofString "b.py"), "w.register_validator(B, dependencies=[A])\n"),
        (Program.memoryRoot.join (.ofString "c.py"),
          "w.register_validator(C, dependencies=[B])\n")]).toOption.getD [],
    true⟩

theorem sidestepFiles_graph :
    projectGraph (analyzeProgram sidestepFiles .default).registry .default
      = ConstraintGraph.sidestep := by
  have hgraph : projectGraph (Registry.ofProgram sidestepFiles sidestepFiles.index?) .default
      = ConstraintGraph.sidestep := by decide +kernel
  rw [registry_analyzeProgram]
  exact hgraph

theorem sidestepFiles_subjects :
    (sidestepFiles.analyzable.map fun u => (u.declarations sidestepFiles.index?).subjects)
      = [["A"], ["B"], ["C"]] := by
  decide +kernel

theorem default_reports_cycles :
    Config.default.checkCycles = true ∧ Config.default.severityOf .componentValidator ≠ .off := by
  decide +kernel

theorem sidestep_cyclic : TransGen ConstraintGraph.sidestep.DependsOn "C" "C" := by
  have hchain : ("C" :: ["B", "A"] ++ ["C"]).IsChain ConstraintGraph.sidestep.DependsOn :=
    ConstraintGraph.sidestep_loop.chain
  exact ConstraintGraph.reaches_of_chain hchain

/-- the knot of the component that is missed has a cycle, and the file of a member reports it -/
theorem knots_reported_sidestep :
    ∃ u ∈ sidestepFiles.analyzable,
      ∃ f ∈ analyzeUnit u (analyzeProgram sidestepFiles .default).registry
          sidestepFiles.index? .default,
        f.problem = .cycle ["A", "B", "A"] := by
  obtain ⟨cycle, hcycle, _, _, _, hreported⟩ :=
    (knots_reported sidestep_cyclic).2 _ ConstraintGraph.sidestep_loop
      (List.mem_cons_self ..)
  rw [ConstraintGraph.sidestep_cycles] at hcycle
  obtain rfl := List.mem_singleton.mp hcycle
  have hfile : ["A"] ∈ sidestepFiles.analyzable.map fun u =>
      (u.declarations sidestepFiles.index?).subjects := by
    rw [sidestepFiles_subjects]
    decide
  obtain ⟨u, hu, hsubjects⟩ := List.mem_map.mp hfile
  have hmem : "A" ∈ (u.declarations sidestepFiles.index?).subjects := by
    rw [hsubjects]
    exact List.mem_singleton.mpr rfl
  obtain ⟨hcheck, hsev⟩ := default_reports_cycles
  exact ⟨u, hu, hreported sidestepFiles .default sidestepFiles_graph hcheck hsev u hu "A"
    (List.mem_cons_self ..)
    (List.mem_map.mp hmem)⟩

/-- A component on a cycle that no reported cycle has, and the file that declares it, for which no
cycle is reported. -/
theorem cycles_miss_sidestep :
    TransGen ConstraintGraph.sidestep.DependsOn "C" "C" ∧
    (∀ cycle ∈ ConstraintGraph.sidestep.cycles, "C" ∉ cycle) ∧
    projectGraph (analyzeProgram sidestepFiles .default).registry .default
      = ConstraintGraph.sidestep ∧
    Config.default.checkCycles = true ∧ Config.default.severityOf .componentValidator ≠ .off ∧
    ∃ u ∈ sidestepFiles.analyzable, Declares (u.declarations sidestepFiles.index?).validators "C" ∧
      cycleFindings (analyzeUnit u (analyzeProgram sidestepFiles .default).registry
        sidestepFiles.index? .default)
        = [] := by
  have hfile : ["C"] ∈ sidestepFiles.analyzable.map fun u =>
      (u.declarations sidestepFiles.index?).subjects := by
    rw [sidestepFiles_subjects]
    decide
  obtain ⟨u, hu, hsubjects⟩ := List.mem_map.mp hfile
  obtain ⟨hcheck, hsev⟩ := default_reports_cycles
  refine ⟨sidestep_cyclic, ?_, sidestepFiles_graph, hcheck, hsev, u, hu, ?_, ?_⟩
  · rw [ConstraintGraph.sidestep_cycles]
    decide
  · have hmem : "C" ∈ (u.declarations sidestepFiles.index?).subjects := by
      rw [hsubjects]
      exact List.mem_singleton.mpr rfl
    exact List.mem_map.mp hmem
  · refine cycleFindings_eq_nil hcheck hsev hu ?_
    rw [sidestepFiles_graph, ConstraintGraph.sidestep_cycles, hsubjects]
    decide

end Archetype
