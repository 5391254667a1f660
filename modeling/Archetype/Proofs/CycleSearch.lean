import Archetype.Constraint.Cycle
import Archetype.Proofs.Dependency
import Mathlib.Data.List.Basic
import Mathlib.Data.List.Chain
import Mathlib.Data.List.Nodup
import Mathlib.Data.List.Perm.Subperm

/-!
# The search for dependency cycles

The depth first search enters every component once, so it cannot list every cycle. What it does say
is exact: all that it reports are cycles, each named in the order in which its components were
entered, and every chain of dependencies ends that never takes the last step of one of them. So from
a component a reported cycle can be reached just if some chain of dependencies from there never
ends.

* `IsCycle`          a closed path of dependencies that repeats nothing but its first component;
* `Closes`, `Uncut`  the last step of a cycle, and the dependencies that are left without the last
                     steps of some cycles;
* `Ends`             every chain of dependencies from a component ends;
* `Meets`            a chain of dependencies from a component runs into one of some cycles;
* `Searched`         what holds of the search at every moment: the invariant;
* `isCycle_of_mem_cycles`, `cycles_ext`   the reported cycles are cycles, and no two have the same
                                          components;
* `ends_uncut`, `ends_or_meets`           there are enough of them.
-/

namespace Archetype

open Relation (ReflTransGen TransGen)

namespace ConstraintGraph

variable (g : ConstraintGraph)

/-- a closed path of dependencies: only its first component is repeated, at its end -/
structure IsCycle (cycle : List String) : Prop where
  closed : ∃ x ring, cycle = x :: ring ++ [x]
  nodup : cycle.dropLast.Nodup
  chain : cycle.IsChain g.DependsOn

/-- the path ends with the step from `a` to `b` -/
def Closes (path : List String) (a b : String) : Prop := [a, b] <:+ path

/-- `a` depends on `b`, and none of the cycles ends with that step -/
def Uncut (cycles : List (List String)) (a b : String) : Prop :=
  g.DependsOn a b ∧ ∀ cycle ∈ cycles, ¬ Closes cycle a b

/-- every chain of dependencies from `a` ends -/
def Ends (a : String) : Prop := Acc (fun b a => g.DependsOn a b) a

/-- a chain of dependencies from `a` runs into one of the cycles -/
def Meets (cycles : List (List String)) (a : String) : Prop :=
  ∃ cycle ∈ cycles, ∃ m ∈ cycle, ReflTransGen g.DependsOn a m

/-- a path of the search, innermost component first -/
structure Trail (path : List String) : Prop where
  chain : path.IsChain fun a b => g.DependsOn b a
  nodup : path.Nodup
  inside : ∀ a ∈ path, a ∈ g.nodes

variable {g}

/-! ## chains of dependencies -/

/-- chains that end do not come back -/
theorem not_cyclic_of_acc {r : String → String → Prop} {a : String} (h : Acc (fun b a => r a b) a) :
    ¬ TransGen r a a := by
  induction h with
  | intro a _ ih =>
    intro hcyc
    obtain ⟨b, hab, hba⟩ := Relation.TransGen.head'_iff.mp hcyc
    exact ih b hab (Relation.TransGen.tail' hba hab)

theorem Ends.not_cyclic {a : String} (h : g.Ends a) : ¬ TransGen g.DependsOn a a :=
  not_cyclic_of_acc h

theorem Meets.of_dependency {cycles : List (List String)} {a b : String} (hab : g.DependsOn a b)
    (h : g.Meets cycles b) : g.Meets cycles a := by
  obtain ⟨cycle, hc, m, hm, hbm⟩ := h
  exact ⟨cycle, hc, m, hm, Relation.ReflTransGen.head hab hbm⟩

/-- a chain starts with a component that reaches every later one -/
theorem reaches_of_chain {r : String → String → Prop} {a b : String} {rest : List String}
    (h : (a :: rest ++ [b]).IsChain r) : TransGen r a b := by
  induction rest generalizing a with
  | nil =>
    rw [List.cons_append, List.nil_append, List.isChain_cons_cons] at h
    exact TransGen.single h.1
  | cons c rest ih =>
    rw [List.cons_append, List.cons_append, List.isChain_cons_cons] at h
    exact TransGen.head h.1 (ih h.2)

theorem IsCycle.cyclic {cycle : List String} (h : g.IsCycle cycle) :
    ∃ a ∈ cycle.dropLast, TransGen g.DependsOn a a := by
  obtain ⟨x, ring, rfl⟩ := h.closed
  refine ⟨x, ?_, reaches_of_chain h.chain⟩
  rw [List.dropLast_concat]
  exact List.mem_cons_self ..

theorem IsCycle.dropLast_ne_nil {cycle : List String} (h : g.IsCycle cycle) :
    cycle.dropLast ≠ [] := by
  obtain ⟨x, ring, rfl⟩ := h.closed
  rw [List.dropLast_concat]
  exact List.cons_ne_nil x ring

/-- what comes before its end tells how a cycle ends -/
theorem IsCycle.eq_of_dropLast {cycle cycle' : List String} (h : g.IsCycle cycle)
    (h' : g.IsCycle cycle') (heq : cycle.dropLast = cycle'.dropLast) : cycle = cycle' := by
  obtain ⟨x, ring, rfl⟩ := h.closed
  obtain ⟨y, ring', rfl⟩ := h'.closed
  rw [List.dropLast_concat, List.dropLast_concat] at heq
  obtain ⟨rfl, rfl⟩ := List.cons.inj heq
  rfl

/-! ## rotations -/

theorem leastName_eq_none {ring : List String} (h : leastName ring = none) : ring = [] := by
  cases ring with
  | nil => rfl
  | cons n ns =>
    unfold leastName at h
    split at h
    · cases h
    · split at h <;> cases h

/-- turning a ring changes none of its members -/
theorem mem_dropLast_of_cycleKey {c c' : List String} (hne : c.dropLast ≠ [])
    (h : cycleKey? c = cycleKey? c') (x : String) (hx : x ∈ c.dropLast) : x ∈ c'.dropLast := by
  unfold cycleKey? at h
  simp only at h
  have hturn : ∀ (l : List String) (m : String), x ∈ l.dropWhile (· != m) ++ l.takeWhile (· != m) ↔
      x ∈ l := by
    intro l m
    rw [List.mem_append, or_comm, ← List.mem_append, List.takeWhile_append_dropWhile]
  cases hl : leastName c.dropLast with
  | none => exact absurd (leastName_eq_none hl) hne
  | some m =>
    rw [hl, Option.map_some] at h
    obtain ⟨m', _, hm'⟩ := Option.map_eq_some_iff.mp h.symm
    rw [← hturn _ m', hm', hturn]
    exact hx

/-! ## closing a path -/

theorem closing_eq {path inner outer : List String} {dep : String}
    (hpath : path = inner ++ dep :: outer) (hfree : dep ∉ inner) :
    closing path dep = dep :: inner.reverse ++ [dep] := by
  unfold closing
  rw [hpath, takeWhile_ne_append_cons hfree]

/-- the last step of the cycle is the dependency that closes it -/
theorem closes_closing {node : String} {above : List String} {dep : String}
    (hmem : dep ∈ node :: above) :
    Closes (closing (node :: above) dep) node dep := by
  obtain ⟨inner, outer, hpath, hfree⟩ := List.eq_append_cons_of_mem hmem
  rw [closing_eq hpath hfree]
  cases inner with
  | nil =>
    obtain ⟨rfl, _⟩ := List.cons.inj hpath
    exact List.suffix_rfl
  | cons a inner =>
    obtain ⟨rfl, _⟩ := List.cons.inj hpath
    exact ⟨dep :: inner.reverse, by simp⟩

/-- the components of the cycle are on the path, the first of the cycle outermost -/
theorem closing_starts_path {path : List String} {dep : String} (hmem : dep ∈ path) :
    (closing path dep).dropLast.reverse <+: path := by
  obtain ⟨inner, outer, hpath, hfree⟩ := List.eq_append_cons_of_mem hmem
  rw [closing_eq hpath hfree, List.dropLast_concat, hpath]
  exact ⟨outer, by simp⟩

/-- a dependency on a component of the path closes a cycle -/
theorem closing_isCycle {node : String} {above : List String} (h : g.Trail (node :: above))
    {dep : String} (hdep : g.DependsOn node dep) (hmem : dep ∈ node :: above) :
    g.IsCycle (closing (node :: above) dep) := by
  have hpre := closing_starts_path hmem
  obtain ⟨front, hfront⟩ := closes_closing hmem
  have hdrop : (closing (node :: above) dep).dropLast = front ++ [node] := by
    rw [← hfront, List.append_cons, List.dropLast_concat]
  refine ⟨⟨dep, _, rfl⟩, ?_, ?_⟩
  · exact List.nodup_reverse.mp (h.nodup.sublist hpre.sublist)
  · -- the chain along the path, and the step that closes it
    have hpart := List.IsChain.infix h.chain hpre.isInfix
    have hchain := List.isChain_reverse.mpr hpart
    rw [List.reverse_reverse, hdrop] at hchain
    rw [← hfront, List.append_cons, List.isChain_append]
    refine ⟨hchain, List.isChain_singleton _, ?_⟩
    intro x hx y hy
    rw [List.getLast?_concat] at hx
    obtain rfl := Option.some.inj hx
    obtain rfl := Option.some.inj hy
    exact hdep

/-! ## parts of a list -/

/-- a part of a list without repetitions is known by its members -/
theorem eq_filter_of_sublist {l part : List String} (hl : l.Nodup) (h : part.Sublist l) :
    part = l.filter (· ∈ part) := by
  induction h with
  | slnil => rfl
  | @cons part l a h ih =>
    obtain ⟨ha, hl⟩ := List.nodup_cons.mp hl
    have hnot : a ∉ part := fun hmem => ha (h.subset hmem)
    rw [List.filter_cons_of_neg (by simpa using hnot)]
    exact ih hl
  | @cons_cons part l a h ih =>
    obtain ⟨ha, hl⟩ := List.nodup_cons.mp hl
    rw [List.filter_cons_of_pos (by simp)]
    congr 1
    refine (ih hl).trans (List.filter_congr fun x hx => ?_)
    have hne : x ≠ a := fun e => ha (e ▸ hx)
    simp [hne]

theorem sublist_ext {l part part' : List String} (hl : l.Nodup) (h : part.Sublist l)
    (h' : part'.Sublist l) (hmem : ∀ x, x ∈ part ↔ x ∈ part') : part = part' :=
  calc part = l.filter (· ∈ part) := eq_filter_of_sublist hl h
    _ = l.filter (· ∈ part') := by simp only [hmem]
    _ = part' := (eq_filter_of_sublist hl h').symm

/-! ## one step of the search -/

/-- what becomes known of a component when the search is done with it: a chain of dependencies from
it that never takes the last step of a noted cycle ends -/
def Resolved (g : ConstraintGraph) (s : Sweep) (a : String) : Prop :=
  Acc (fun b a => g.Uncut s.cycles a b) a

/-- What holds of the search at every moment, with `path` from the component where it stands to the
one where it started. The components that were entered are noted latest first, so that a path, and
every cycle read backwards, is a part of them. Every component that was entered and left again is
resolved. -/
structure Searched (g : ConstraintGraph) (path : List String) (s : Sweep) : Prop where
  nodup : s.visited.Nodup
  path_sublist : path.Sublist s.visited
  sound : ∀ cycle ∈ s.cycles, g.IsCycle cycle
  ordered : ∀ cycle ∈ s.cycles, cycle.dropLast.reverse.Sublist s.visited
  distinct : s.cycles.Nodup
  settled : ∀ x ∈ s.visited, x ∉ path → g.Resolved s x

/-- a later moment of the search, with the same path: nothing is forgotten -/
structure SearchStep (g : ConstraintGraph) (path : List String) (s s' : Sweep) : Prop where
  visited : s.visited <:+ s'.visited
  cycles : ∀ cycle ∈ s.cycles, cycle ∈ s'.cycles
  searched : g.Searched path s'

theorem SearchStep.refl {path : List String} {s : Sweep} (h : g.Searched path s) :
    g.SearchStep path s s :=
  ⟨List.suffix_rfl, fun _ hc => hc, h⟩

theorem SearchStep.trans {path : List String} {s s' s'' : Sweep} (h : g.SearchStep path s s')
    (h' : g.SearchStep path s' s'') : g.SearchStep path s s'' :=
  ⟨h.visited.trans h'.visited, fun c hc => h'.cycles c (h.cycles c hc), h'.searched⟩

theorem Resolved.mono {s s' : Sweep} (hsub : ∀ cycle ∈ s.cycles, cycle ∈ s'.cycles) {a : String}
    (ha : g.Resolved s a) : g.Resolved s' a :=
  Subrelation.accessible (fun {_ _} hab => ⟨hab.1, fun c hc => hab.2 c (hsub c hc)⟩) ha

/-- what becomes known of a dependency when the search has gone along it -/
def Handled (g : ConstraintGraph) (s : Sweep) (a b : String) : Prop :=
  (∃ cycle ∈ s.cycles, Closes cycle a b) ∨ g.Resolved s b

theorem SearchStep.handled {path : List String} {s s' : Sweep} (h : g.SearchStep path s s')
    {a b : String} (hab : g.Handled s a b) : g.Handled s' a b := by
  rcases hab with ⟨cycle, hc, hcl⟩ | hb
  · exact Or.inl ⟨cycle, h.cycles cycle hc, hcl⟩
  · exact Or.inr (hb.mono h.cycles)

/-- a component is resolved when all its dependencies are handled -/
theorem resolved_of_handled {s : Sweep} {a : String} (h : ∀ b, g.DependsOn a b → g.Handled s a b) :
    g.Resolved s a := by
  refine Acc.intro a fun b hab => ?_
  refine (h b hab.1).resolve_left ?_
  rintro ⟨cycle, hc, hcl⟩
  exact hab.2 cycle hc hcl

/-- cycles with the same components, entered in the order that they name, are the same -/
theorem Searched.cycle_ext {path : List String} {s : Sweep} (h : g.Searched path s)
    {c c' : List String} (hc : g.IsCycle c) (hc' : g.IsCycle c')
    (ho : c.dropLast.reverse.Sublist s.visited) (ho' : c'.dropLast.reverse.Sublist s.visited)
    (hmem : ∀ x, x ∈ c.dropLast ↔ x ∈ c'.dropLast) :
    c = c' := by
  have hrings : c.dropLast.reverse = c'.dropLast.reverse :=
    sublist_ext h.nodup ho ho' fun x => by rw [List.mem_reverse, List.mem_reverse, hmem]
  exact hc.eq_of_dropLast hc' (List.reverse_injective hrings)

/-- Noting a cycle. A rotation of it that was noted before has the same components, and so is the
cycle itself: in either case the cycle is listed afterwards. -/
theorem Searched.report {path : List String} {s : Sweep} (h : g.Searched path s)
    {cycle : List String} (hc : g.IsCycle cycle) (ho : cycle.dropLast.reverse.Sublist s.visited) :
    g.SearchStep path s (s.report cycle) ∧ cycle ∈ (s.report cycle).cycles := by
  unfold Sweep.report
  split
  · rename_i hkey
    obtain ⟨c, hcs, hkeys⟩ := List.mem_map.mp hkey
    have hcyc := h.sound c hcs
    obtain rfl : c = cycle := h.cycle_ext hcyc hc (h.ordered c hcs) ho fun x =>
      ⟨mem_dropLast_of_cycleKey hcyc.dropLast_ne_nil hkeys x,
        mem_dropLast_of_cycleKey hc.dropLast_ne_nil hkeys.symm x⟩
    exact ⟨.refl h, hcs⟩
  · rename_i hkey
    have hsub : ∀ c ∈ s.cycles, c ∈ s.cycles ++ [cycle] := fun c hc => List.mem_append_left _ hc
    have hnew : cycle ∉ s.cycles := fun hmem => hkey (List.mem_map_of_mem hmem)
    refine ⟨⟨List.suffix_rfl, hsub, h.nodup, h.path_sublist, ?_, ?_, ?_, ?_⟩, by simp⟩
    · exact List.forall_mem_append.mpr ⟨h.sound, List.forall_mem_singleton.mpr hc⟩
    · exact List.forall_mem_append.mpr ⟨h.ordered, List.forall_mem_singleton.mpr ho⟩
    · exact List.nodup_append.mpr ⟨h.distinct, List.nodup_singleton cycle, fun c hcs c' hc' e =>
        hnew (List.mem_singleton.mp hc' ▸ e ▸ hcs)⟩
    · exact fun x hx hp => (h.settled x hx hp).mono hsub

theorem Searched.enter {path : List String} {s : Sweep} (h : g.Searched path s) {dep : String}
    (hnew : dep ∉ s.visited) : g.Searched (dep :: path) (s.enter dep) where
  nodup := List.nodup_cons.mpr ⟨hnew, h.nodup⟩
  path_sublist := h.path_sublist.cons_cons dep
  sound := h.sound
  ordered c hc := (h.ordered c hc).cons dep
  distinct := h.distinct
  settled x hx hp := by
    have hx' := (List.mem_cons.mp hx).resolve_left (List.ne_of_not_mem_cons hp)
    exact h.settled x hx' (List.not_mem_of_not_mem_cons hp)

theorem Searched.leave {path : List String} {s : Sweep} {dep : String}
    (h : g.Searched (dep :: path) s) (hdep : g.Resolved s dep) : g.Searched path s where
  nodup := h.nodup
  path_sublist := (List.sublist_cons_self dep path).trans h.path_sublist
  sound := h.sound
  ordered := h.ordered
  distinct := h.distinct
  settled x hx hp := by
    by_cases e : x = dep
    · rw [e]
      exact hdep
    · exact h.settled x hx (List.not_mem_cons_of_ne_of_not_mem e hp)

/-! ## the search below a path -/

/-- what the search does with one dependency of the innermost component of the path -/
def visit (g : ConstraintGraph) (n : Nat) (path : List String) (s : Sweep) (dep : String) : Sweep :=
  if dep ∈ path then s.report (closing path dep)
  else if dep ∈ s.visited then s
  else g.explore n (dep :: path) (s.enter dep)

theorem explore_cons (n : Nat) (node : String) (above : List String) (s : Sweep) :
    g.explore (n + 1) (node :: above) s
      = (Names.sorted (g.dependenciesOf node)).foldl (g.visit n (node :: above)) s := rfl

theorem mem_nodes (a : String) :
    a ∈ g.nodes ↔ ∃ e ∈ g.dependencies ++ g.conflicts, a = e.1 ∨ a = e.2 := by
  unfold nodes
  rw [Names.mem_sorted, Names.mem_unique, List.mem_flatMap]
  simp

theorem DependsOn.mem_nodes {a b : String} (h : g.DependsOn a b) : a ∈ g.nodes ∧ b ∈ g.nodes := by
  have he : (a, b) ∈ g.dependencies ++ g.conflicts :=
    List.mem_append_left _ ((dependsOn_iff g a b).mp h)
  exact ⟨(ConstraintGraph.mem_nodes a).mpr ⟨_, he, Or.inl rfl⟩,
    (ConstraintGraph.mem_nodes b).mpr ⟨_, he, Or.inr rfl⟩⟩

theorem Trail.length_le {path : List String} (h : g.Trail path) : path.length ≤ g.nodes.length :=
  (List.subperm_of_subset h.nodup h.inside).length_le

theorem Trail.cons {node : String} {above : List String} (h : g.Trail (node :: above))
    {dep : String} (hdep : g.DependsOn node dep) (hnew : dep ∉ node :: above) :
    g.Trail (dep :: node :: above) where
  chain := List.isChain_cons_cons.mpr ⟨hdep, h.chain⟩
  nodup := List.nodup_cons.mpr ⟨hnew, h.nodup⟩
  inside a ha := by
    rcases List.mem_cons.mp ha with rfl | ha
    · exact hdep.mem_nodes.2
    · exact h.inside a ha

/-- a search that starts at a new component, seen from the path without it -/
theorem SearchStep.of_enter {path : List String} {s s' : Sweep} {dep : String}
    (h : g.SearchStep (dep :: path) (s.enter dep) s') (hdep : g.Resolved s' dep) :
    g.SearchStep path s s' :=
  ⟨(List.suffix_cons dep s.visited).trans h.visited, h.cycles, h.searched.leave hdep⟩

/-- The search below a path. The induction is on the number of components that the path can still
grow by; the path repeats none, so that the number never runs out. -/
theorem explore_step (n : Nat) (node : String) (above : List String) (s : Sweep)
    (ht : g.Trail (node :: above)) (hn : g.nodes.length < n + (node :: above).length)
    (h : g.Searched (node :: above) s) :
    g.SearchStep (node :: above) s (g.explore n (node :: above) s) ∧
      g.Resolved (g.explore n (node :: above) s) node := by
  induction n generalizing node above s with
  | zero =>
    have := ht.length_le
    omega
  | succ n ih =>
    -- one dependency: it closes a cycle, or was entered before, or is searched first
    have hvisit : ∀ (s : Sweep) (dep : String), g.DependsOn node dep →
        g.Searched (node :: above) s →
        g.SearchStep (node :: above) s (g.visit n (node :: above) s dep) ∧
          g.Handled (g.visit n (node :: above) s dep) node dep := by
      intro s dep hdep h
      unfold visit
      split
      · rename_i hmem
        have ho := (closing_starts_path hmem).sublist.trans h.path_sublist
        obtain ⟨hstep, hlisted⟩ := h.report (closing_isCycle ht hdep hmem) ho
        exact ⟨hstep, Or.inl ⟨_, hlisted, closes_closing hmem⟩⟩
      · rename_i hmem
        split
        · rename_i hseen
          exact ⟨.refl h, Or.inr (h.settled dep hseen hmem)⟩
        · rename_i hnew
          obtain ⟨h1, h2⟩ :=
            ih dep (node :: above) (s.enter dep) (ht.cons hdep hmem) (by simp at hn ⊢; omega)
              (h.enter hnew)
          exact ⟨h1.of_enter h2, Or.inr h2⟩
    -- all of them, one after the other
    have hall : ∀ (deps : List String) (s : Sweep), (∀ dep ∈ deps, g.DependsOn node dep) →
        g.Searched (node :: above) s →
        g.SearchStep (node :: above) s (deps.foldl (g.visit n (node :: above)) s) ∧
          ∀ dep ∈ deps, g.Handled (deps.foldl (g.visit n (node :: above)) s) node dep := by
      intro deps
      induction deps with
      | nil => exact fun s _ h => ⟨.refl h, fun dep hd => absurd hd List.not_mem_nil⟩
      | cons d deps ihd =>
        intro s hdeps h
        obtain ⟨h1, h2⟩ := hvisit s d (hdeps d (List.mem_cons_self ..)) h
        obtain ⟨h3, h4⟩ :=
          ihd (g.visit n (node :: above) s d) (fun dep hd => hdeps dep (List.mem_cons_of_mem _ hd))
            h1.searched
        refine ⟨h1.trans h3, fun dep hd => ?_⟩
        rcases List.mem_cons.mp hd with rfl | hd
        · exact h3.handled h2
        · exact h4 dep hd
    rw [explore_cons]
    obtain ⟨h1, h2⟩ := hall _ s (fun dep hd => (Names.mem_sorted _ _).mp hd) h
    exact ⟨h1, resolved_of_handled fun b hb => h2 b ((Names.mem_sorted _ _).mpr hb)⟩

/-! ## the whole search -/

theorem mem_dependers (a : String) : a ∈ g.dependers ↔ ∃ b, g.DependsOn a b := by
  unfold dependers
  rw [Names.mem_sorted, Names.mem_unique, List.mem_map]
  constructor
  · rintro ⟨⟨x, b⟩, he, rfl⟩
    exact ⟨b, (dependsOn_iff g x b).mpr he⟩
  · rintro ⟨b, hb⟩
    exact ⟨(a, b), (dependsOn_iff g a b).mp hb, rfl⟩

theorem sweepFrom_step (s : Sweep) (start : String) (hstart : start ∈ g.dependers)
    (h : g.Searched [] s) :
    g.SearchStep [] s (g.sweepFrom s start) ∧ start ∈ (g.sweepFrom s start).visited := by
  unfold sweepFrom
  split
  · rename_i hseen
    exact ⟨.refl h, hseen⟩
  · rename_i hnew
    obtain ⟨b, hb⟩ := (mem_dependers start).mp hstart
    have ht : g.Trail [start] :=
      ⟨List.isChain_singleton _, List.nodup_singleton _,
        fun a ha => List.mem_singleton.mp ha ▸ hb.mem_nodes.1⟩
    obtain ⟨h1, h2⟩ :=
      explore_step g.nodes.length start [] (s.enter start) ht (by simp) (h.enter hnew)
    exact ⟨h1.of_enter h2, h1.visited.subset (List.mem_cons_self ..)⟩

theorem sweep_step (starts : List String) (s : Sweep)
    (hstarts : ∀ start ∈ starts, start ∈ g.dependers) (h : g.Searched [] s) :
    g.SearchStep [] s (starts.foldl g.sweepFrom s) ∧
      ∀ start ∈ starts, start ∈ (starts.foldl g.sweepFrom s).visited := by
  induction starts generalizing s with
  | nil => exact ⟨.refl h, fun start hs => absurd hs List.not_mem_nil⟩
  | cons a starts ih =>
    obtain ⟨h1, h2⟩ := sweepFrom_step s a (hstarts a (List.mem_cons_self ..)) h
    obtain ⟨h3, h4⟩ :=
      ih (g.sweepFrom s a) (fun start hs => hstarts start (List.mem_cons_of_mem _ hs)) h1.searched
    refine ⟨h1.trans h3, fun start hs => ?_⟩
    rcases List.mem_cons.mp hs with rfl | hs
    · exact h3.visited.subset h2
    · exact h4 start hs

/-- the whole search: it ends at no path, and has entered every component that depends on
something -/
theorem searched_dependers (g : ConstraintGraph) :
    g.Searched [] (g.dependers.foldl g.sweepFrom ⟨[], []⟩) ∧
    ∀ start ∈ g.dependers, start ∈ (g.dependers.foldl g.sweepFrom ⟨[], []⟩).visited := by
  have hstart : g.Searched [] ⟨[], []⟩ := by constructor <;> simp
  obtain ⟨hstep, hall⟩ := sweep_step g.dependers ⟨[], []⟩ (fun _ hs => hs) hstart
  exact ⟨hstep.searched, hall⟩

/-- all that the search reports are cycles -/
theorem isCycle_of_mem_cycles {cycle : List String} (h : cycle ∈ g.cycles) : g.IsCycle cycle :=
  (searched_dependers g).1.sound cycle h

theorem nodup_cycles (g : ConstraintGraph) : g.cycles.Nodup := (searched_dependers g).1.distinct

/-- no two reported cycles have the same components -/
theorem cycles_ext {c c' : List String} (hc : c ∈ g.cycles) (hc' : c' ∈ g.cycles)
    (hmem : ∀ x, x ∈ c.dropLast ↔ x ∈ c'.dropLast) : c = c' := by
  obtain ⟨h, _⟩ := searched_dependers g
  exact h.cycle_ext (h.sound c hc) (h.sound c' hc') (h.ordered c hc) (h.ordered c' hc') hmem

/-- every chain of dependencies ends that never takes the last step of a reported cycle -/
theorem ends_uncut (g : ConstraintGraph) (a : String) :
    Acc (fun b a => g.Uncut g.cycles a b) a := by
  obtain ⟨h, hall⟩ := searched_dependers g
  by_cases ha : a ∈ g.dependers
  · exact h.settled a (hall a ha) List.not_mem_nil
  · exact Acc.intro a fun b hab => absurd ((mem_dependers a).mpr ⟨b, hab.1⟩) ha

/-- from every component, all chains of dependencies end or one runs into a reported cycle -/
theorem ends_or_meets (a : String) : g.Ends a ∨ g.Meets g.cycles a := by
  induction g.ends_uncut a with
  | intro a _ ih =>
    by_cases hm : ∃ b, g.DependsOn a b ∧
      ((∃ cycle ∈ g.cycles, Closes cycle a b) ∨ g.Meets g.cycles b)
    · obtain ⟨b, hab, ⟨cycle, hc, hcl⟩ | hb⟩ := hm
      · exact Or.inr ⟨cycle, hc, a, hcl.subset (List.mem_cons_self ..), .refl⟩
      · exact Or.inr (hb.of_dependency hab)
    · left
      refine Acc.intro a fun b hab => ?_
      have huncut : g.Uncut g.cycles a b :=
        ⟨hab, fun cycle hc hcl => hm ⟨b, hab, Or.inl ⟨cycle, hc, hcl⟩⟩⟩
      exact (ih b huncut).resolve_right fun hb => hm ⟨b, hab, Or.inr hb⟩

/-- a cycle is reported just if there is one -/
theorem cycles_ne_nil_iff : g.cycles ≠ [] ↔ ∃ a, TransGen g.DependsOn a a := by
  constructor
  · intro h
    obtain ⟨cycle, hc⟩ := List.exists_mem_of_ne_nil _ h
    obtain ⟨a, _, ha⟩ := (isCycle_of_mem_cycles hc).cyclic
    exact ⟨a, ha⟩
  · rintro ⟨a, ha⟩
    obtain ⟨cycle, hc, _⟩ := (ends_or_meets a).resolve_left fun h => h.not_cyclic ha
    exact List.ne_nil_of_mem hc

end ConstraintGraph

end Archetype
