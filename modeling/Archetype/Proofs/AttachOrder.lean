import Archetype.Proofs.Countdown
import Archetype.Report.Trace

/-!
# The order of attaching

A component is placed when all that it depends on has been placed. So the order has dependencies
first, and it leaves out just those components from which some chain of dependencies never ends. The
search for cycles goes another way through the same graph; both agree on where a cycle can be
reached.

* `DependencyFirst`        every component of a list stands behind all that it depends on;
* `ReachesCycle`           where a chain of dependencies can come back to itself;
* `Placing`                what holds while components are placed: the invariant;
* `placed_run`             counting down places the components in that way;
* `mem_attachOrder`        the components that the order has;
* `dependencyFirst_attachOrder`   the order of them;
* `unordered_iff_cycle`    a component has no order just if it leads to a cycle that is found;
* `attachOrder_maximal`    the order of every component: what it has, and in which order.
-/

namespace Archetype

open Relation (ReflTransGen TransGen)

namespace ConstraintGraph

variable {g : ConstraintGraph}

/-! ## chains that end -/

theorem Ends.of_reaches {a b : String} (h : g.Ends a) (hab : ReflTransGen g.DependsOn a b) :
    g.Ends b := by
  induction hab with
  | refl => exact h
  | tail _ hbc ih => exact ih.inv hbc

/-- some component that comes back to itself can be reached -/
def ReachesCycle (g : ConstraintGraph) (a : String) : Prop :=
  ∃ m, ReflTransGen g.DependsOn a m ∧ TransGen g.DependsOn m m

theorem Ends.not_reachesCycle {a : String} (h : g.Ends a) : ¬ g.ReachesCycle a := by
  rintro ⟨m, ham, hm⟩
  exact (h.of_reaches ham).not_cyclic hm

theorem IsCycle.reachesCycle {cycle : List String} (h : g.IsCycle cycle) :
    ∀ m ∈ cycle, g.ReachesCycle m := by
  obtain ⟨x, ring, rfl⟩ := h.closed
  refine List.IsChain.backwards_induction (fun m => g.ReachesCycle m) _ h.chain ?_ ?_
  · rintro a b hab ⟨m, hbm, hm⟩
    exact ⟨m, hbm.head hab, hm⟩
  · intro hne
    rw [List.getLast_append_singleton]
    exact ⟨x, ReflTransGen.refl, reaches_of_chain h.chain⟩

/-- from a member of a cycle some chain of dependencies never ends -/
theorem IsCycle.not_ends {cycle : List String} (h : g.IsCycle cycle) : ∀ m ∈ cycle, ¬ g.Ends m :=
  fun m hm hends => hends.not_reachesCycle (h.reachesCycle m hm)

/-- there are finitely many components, so a chain that never ends comes back to one of them -/
theorem ends_iff_not_reachesCycle (a : String) : g.Ends a ↔ ¬ g.ReachesCycle a := by
  refine ⟨Ends.not_reachesCycle, fun hnot => (ends_or_meets a).resolve_right ?_⟩
  rintro ⟨cycle, hc, x, hx, hax⟩
  obtain ⟨m, hxm, hm⟩ := (isCycle_of_mem_cycles hc).reachesCycle x hx
  exact hnot ⟨m, hax.trans hxm, hm⟩

/-- the chains from a component end just if none of them runs into a cycle that the search found -/
theorem ends_iff_not_meets (a : String) : g.Ends a ↔ ¬ g.Meets g.cycles a := by
  constructor
  · rintro hends ⟨cycle, hc, m, hm, ham⟩
    exact (isCycle_of_mem_cycles hc).not_ends m hm (hends.of_reaches ham)
  · exact (ends_or_meets a).resolve_right

/-! ## dependencies first -/

/-- every component of the list stands behind all that it depends on -/
def DependencyFirst (g : ConstraintGraph) (names : List String) : Prop :=
  ∀ front x, front ++ [x] <+: names → ∀ d, g.DependsOn x d → d ∈ front

theorem dependencyFirst_nil : g.DependencyFirst [] := by
  intro front x h
  have hnil := List.prefix_nil.mp h
  simp at hnil

theorem dependencyFirst_concat (names : List String) (y : String) :
    g.DependencyFirst (names ++ [y]) ↔ g.DependencyFirst names ∧
    ∀ d, g.DependsOn y d → d ∈ names := by
  constructor
  · intro h
    exact ⟨fun front x hp => h front x (hp.trans (List.prefix_append names [y])),
      h names y List.prefix_rfl⟩
  · rintro ⟨h, hy⟩ front x hp
    rcases List.prefix_concat_iff.mp hp with heq | hp
    · obtain ⟨rfl, hxy⟩ := List.append_inj' heq rfl
      obtain rfl : x = y := List.singleton_inj.mp hxy
      exact hy
    · exact h front x hp

section
variable {names : List String} (h : g.DependencyFirst names)
include h

theorem DependencyFirst.mem_of_dependsOn {x d : String} (hx : x ∈ names) (hd : g.DependsOn x d) :
    d ∈ names := by
  obtain ⟨front, rest, rfl⟩ := List.append_of_mem hx
  have hp : front ++ [x] <+: front ++ x :: rest := ⟨rest, by simp⟩
  exact List.mem_append_left _ (h front x hp d hd)

/-- a list that has dependencies first has all that its members lead to -/
theorem DependencyFirst.mem_of_reaches {x y : String} (hx : x ∈ names)
    (hxy : ReflTransGen g.DependsOn x y) :
    y ∈ names := by
  induction hxy with
  | refl => exact hx
  | tail _ hyz ih => exact h.mem_of_dependsOn ih hyz

end

/-- the chains from a member of a list that has dependencies first end: they go on towards its
front -/
theorem DependencyFirst.ends {names : List String} (h : g.DependencyFirst names) :
    ∀ x ∈ names, g.Ends x := by
  induction names using List.reverseRecOn with
  | nil => exact fun x hx => absurd hx List.not_mem_nil
  | append_singleton names y ih =>
    obtain ⟨hfront, hy⟩ := (dependencyFirst_concat names y).mp h
    intro x hx
    rcases List.mem_append.mp hx with hx | hx
    · exact ih hfront x hx
    · rw [List.mem_singleton.mp hx]
      exact Acc.intro y fun d hd => ih hfront d (hy d hd)

/-! ## placing one component -/

/-- What holds while the members are placed: none is placed or waits twice, and the members that are
placed or wait are those whose dependencies have all been placed. -/
structure Placing (g : ConstraintGraph) (members : Names) (placed queue : List String) : Prop where
  nodup : (placed ++ queue).Nodup
  inside : ∀ x ∈ placed ++ queue, x ∈ members
  first : g.DependencyFirst placed
  ready : ∀ x ∈ queue, ∀ d, g.DependsOn x d → d ∈ placed
  complete : ∀ x ∈ members, (∀ d, g.DependsOn x d → d ∈ placed) → x ∈ placed ++ queue

theorem Placing.step (hnd : g.dependencies.Nodup) {members : Names} {placed queue : List String}
    {node : String} (h : g.Placing members placed (node :: queue)) :
    g.Placing members (placed ++ [node]) (queue ++ g.released members (placed ++ [node]) node) := by
  have hsame : placed ++ node :: queue = (placed ++ [node]) ++ queue := by simp
  have hnode : node ∉ placed := fun hmem =>
    (List.nodup_append.mp h.nodup).2.2 node hmem node (List.mem_cons_self ..) rfl
  -- what depends on the component waits for it until now
  have hwaits : ∀ x, g.DependsOn x node → x ∉ placed ++ node :: queue := by
    intro x hx hmem
    rcases List.mem_append.mp hmem with hmem | hmem
    · exact hnode (h.first.mem_of_dependsOn hmem hx)
    · exact hnode (h.ready x hmem node hx)
  refine ⟨?_, ?_, (dependencyFirst_concat placed node).mpr
    ⟨h.first, h.ready node (List.mem_cons_self ..)⟩, ?_, ?_⟩
  · rw [← List.append_assoc, ← hsame]
    refine List.nodup_append.mpr ⟨h.nodup,
      (Names.nodup_sorted (nodup_dependentsOf hnd node)).filter _, ?_⟩
    intro x hx y hy e
    exact hwaits y ((mem_released ..).mp hy).1 (e ▸ hx)
  · intro x hx
    rw [← List.append_assoc, ← hsame] at hx
    rcases List.mem_append.mp hx with hx | hx
    · exact h.inside x hx
    · exact ((mem_released ..).mp hx).2.1
  · intro x hx
    rcases List.mem_append.mp hx with hx | hx
    · exact fun d hd => List.mem_append_left _ (h.ready x (List.mem_cons_of_mem _ hx) d hd)
    · exact ((mem_released ..).mp hx).2.2
  · intro x hx hdeps
    rw [← List.append_assoc, ← hsame]
    by_cases hnew : g.DependsOn x node
    · exact List.mem_append_right _ ((mem_released ..).mpr ⟨hnew, hx, hdeps⟩)
    · refine List.mem_append_left _ (h.complete x hx fun d hd => ?_)
      rcases List.mem_append.mp (hdeps d hd) with hmem | hmem
      · exact hmem
      · exact absurd (List.mem_singleton.mp hmem ▸ hd) hnew

/-! ## placing all of them -/

/-- places the components of a queue, and behind them those that they release; no more than `n` of
them -/
def placeAll (g : ConstraintGraph) (members : Names) : Nat → List String → List String → List String
  | 0, placed, _ => placed
  | _ + 1, placed, [] => placed
  | n + 1, placed, node :: queue =>
    g.placeAll members n (placed ++ [node]) (queue ++ g.released members (placed ++ [node]) node)

/-- Nothing waits in the end. The induction is on the number of components that may still be placed,
which together with those that are placed is never less than the number of members. -/
theorem Placing.placeAll (hnd : g.dependencies.Nodup) {members : Names} (n : Nat)
    {placed queue : List String} (h : g.Placing members placed queue)
    (hn : members.length ≤ n + placed.length) :
    g.Placing members (g.placeAll members n placed queue) [] := by
  induction n generalizing placed queue with
  | zero =>
    have hlen := (List.subperm_of_subset h.nodup h.inside).length_le
    rw [List.length_append] at hlen
    obtain rfl : queue = [] := List.length_eq_zero_iff.mp (by omega)
    exact h
  | succ n ih =>
    cases queue with
    | nil => exact h
    | cons node queue =>
      refine ih (h.step hnd) ?_
      rw [List.length_append, List.length_singleton]
      omega

/-- Counting down places the same components in the same order. -/
theorem placed_run (hbuilt : g.Built) {members : Names} (n : Nat) (s : Schedule)
    (h : g.Placing members s.placed s.queue) (hcounts : g.Counts members s.placed s.waiting) :
    (s.run g n).placed = g.placeAll members n s.placed s.queue := by
  induction n generalizing s with
  | zero => rfl
  | succ n ih =>
    unfold Schedule.run
    cases hqueue : s.queue with
    | nil => rfl
    | cons node queue =>
      rw [hqueue] at h
      have hnode : node ∉ s.placed := fun hmem =>
        (List.nodup_append.mp h.nodup).2.2 node hmem node (List.mem_cons_self ..) rfl
      have hplaced' := (place_spec hbuilt queue s node).1
      have hqueue' := hcounts.queue_place hbuilt queue hnode
      have hstep := h.step (hbuilt.nodup_on .dependency)
      rw [← hqueue', ← hplaced'] at hstep
      rw [placeAll, ← hqueue', ← hplaced']
      exact ih _ hstep (hcounts.place hbuilt queue hnode)

theorem placing_start (c : String) :
    g.Placing (g.withDependencies c) []
      (Names.sorted ((g.withDependencies c).filter (g.isReady []))) := by
  refine ⟨?_, ?_, dependencyFirst_nil, ?_, ?_⟩
  · exact Names.nodup_sorted (List.Nodup.filter _ (nodup_withDependencies c))
  · intro x hx
    exact (List.mem_filter.mp ((Names.mem_sorted _ x).mp hx)).1
  · intro x hx
    exact (isReady_iff [] x).mp (List.mem_filter.mp ((Names.mem_sorted _ x).mp hx)).2
  · intro x hx hdeps
    exact (Names.mem_sorted _ x).mpr (List.mem_filter.mpr ⟨hx, (isReady_iff [] x).mpr hdeps⟩)

/-- the order told by what is placed, without counts -/
theorem attachOrder_eq_placeAll (h : g.Built) (c : String) :
    g.attachOrder c = g.placeAll (g.withDependencies c) (g.withDependencies c).length []
      (Names.sorted ((g.withDependencies c).filter (g.isReady []))) := by
  have hstart : g.Placing (g.withDependencies c) (Schedule.start g (g.withDependencies c)).placed
      (Schedule.start g (g.withDependencies c)).queue := by
    rw [queue_start]
    exact placing_start c
  rw [← queue_start]
  exact placed_run h _ _ hstart (counts_start c)

theorem placing_attachOrder (h : g.Built) (c : String) :
    g.Placing (g.withDependencies c) (g.attachOrder c) [] := by
  rw [attachOrder_eq_placeAll h]
  exact (placing_start c).placeAll (h.nodup_on .dependency) _ (by simp)

theorem dependencyFirst_attachOrder (h : g.Built) (c : String) :
    g.DependencyFirst (g.attachOrder c) :=
  (placing_attachOrder h c).first

/-- the order has the component and its dependencies, but for those from which some chain never
ends -/
theorem mem_attachOrder (h : g.Built) (c x : String) :
    x ∈ g.attachOrder c ↔ ReflTransGen g.DependsOn c x ∧ g.Ends x := by
  have hp := placing_attachOrder h c
  constructor
  · intro hx
    exact ⟨(mem_withDependencies c x).mp (hp.inside x (List.mem_append_left _ hx)),
      hp.first.ends x hx⟩
  · rintro ⟨hcx, hends⟩
    induction hends with
    | intro x _ ih =>
      have hmem :=
        hp.complete x ((mem_withDependencies c x).mpr hcx) fun d hd => ih d hd (hcx.tail hd)
      rwa [List.append_nil] at hmem

theorem self_mem_attachOrder_iff (h : g.Built) (c : String) : c ∈ g.attachOrder c ↔ g.Ends c := by
  rw [mem_attachOrder h]
  exact and_iff_right ReflTransGen.refl

/-! ## the order and the cycles -/

/-- a found cycle has a member that is `c` or a dependency of it in the end -/
def LeadsToCycle (g : ConstraintGraph) (c : String) : Prop :=
  ∃ cycle ∈ g.cycles, ∃ m ∈ cycle, m = c ∨ m ∈ g.transitive c

theorem leadsToCycle_iff_meets (c : String) : g.LeadsToCycle c ↔ g.Meets g.cycles c := by
  have hmem : ∀ m, m = c ∨ m ∈ g.transitive c ↔ ReflTransGen g.DependsOn c m := by
    intro m
    rw [← mem_withDependencies, withDependencies, List.mem_cons]
  unfold LeadsToCycle Meets
  simp only [hmem]

/-- A component is missing from its own order just if it leads to a cycle that the search finds.
Then, and only then, the trace of the component says so in place of an order. -/
theorem unordered_iff_cycle (h : g.Built) (c : String) :
    (c ∉ g.attachOrder c ↔ g.LeadsToCycle c) ∧
    (g.LeadsToCycle c →
      Report.orderLines g c = .ok ["  No valid attach order: a dependency cycle is involved"]) ∧
    (¬ g.LeadsToCycle c →
      Report.orderLines g c = Report.shownMarked
        ("  Suggested attach order: " ++ Text.joinWith " -> " (g.attachOrder c))) := by
  have hiff : c ∉ g.attachOrder c ↔ g.LeadsToCycle c := by
    rw [self_mem_attachOrder_iff h, ends_iff_not_meets, not_not, leadsToCycle_iff_meets]
  refine ⟨hiff, fun hcycle => ?_, fun hnone => ?_⟩
  · have hmiss := hiff.mpr hcycle
    simp [Report.orderLines, hmiss]
  · have hmem : c ∈ g.attachOrder c := not_not.mp fun hmiss => hnone (hiff.mp hmiss)
    simp [Report.orderLines, hmem]

/-- two components that depend on each other, and one that depends on the first of them -/
def knot : ConstraintGraph :=
  .ofDeclared true [("A", ⟨["B"], []⟩), ("B", ⟨["A"], []⟩), ("C", ⟨["A"], []⟩)]

theorem unordered_iff_cycle_knot :
    "C" ∉ knot.attachOrder "C" ∧ knot.LeadsToCycle "C" ∧
      Report.orderLines knot "C"
        = .ok ["  No valid attach order: a dependency cycle is involved"] := by
  have hbuilt : knot.Built := built_ofDeclared _ _
  have hab : knot.DependsOn "A" "B" := by unfold DependsOn; decide +kernel
  have hba : knot.DependsOn "B" "A" := by unfold DependsOn; decide +kernel
  have hca : knot.DependsOn "C" "A" := by unfold DependsOn; decide +kernel
  have hmiss : "C" ∉ knot.attachOrder "C" := by
    rw [self_mem_attachOrder_iff hbuilt]
    intro hends
    exact (hends.of_reaches (ReflTransGen.single hca)).not_cyclic
      (TransGen.head hab (TransGen.single hba))
  obtain ⟨hiff, hshown, _⟩ := unordered_iff_cycle hbuilt "C"
  exact ⟨hmiss, hiff.mp hmiss, hshown (hiff.mp hmiss)⟩

/-! ## the whole order -/

/-- The component itself comes last: whatever else is in the order is reached from it, and stands
before it. -/
theorem getLast?_attachOrder (h : g.Built) {c : String} (hc : c ∈ g.attachOrder c) :
    (g.attachOrder c).getLast? = some c := by
  obtain ⟨front, rest, heq⟩ := List.append_of_mem hc
  have hfirst := dependencyFirst_attachOrder h c
  have hnodup := (placing_attachOrder h c).nodup
  rw [List.append_nil, heq, List.nodup_middle, List.nodup_cons] at hnodup
  have hfront : g.DependencyFirst front := fun part x hp =>
    hfirst part x (hp.trans (heq ▸ List.prefix_append front (c :: rest)))
  have hbefore : ∀ d, g.DependsOn c d → d ∈ front :=
    hfirst front c ⟨rest, by rw [heq, List.append_assoc, List.singleton_append]⟩
  have hrest : rest = [] := by
    refine List.eq_nil_iff_forall_not_mem.mpr fun y hy => ?_
    have hcy : ReflTransGen g.DependsOn c y := by
      refine ((mem_attachOrder h c y).mp ?_).1
      rw [heq]
      exact List.mem_append_right _ (List.mem_cons_of_mem c hy)
    have hne : y ≠ c := fun e => hnodup.1 (List.mem_append_right _ (e ▸ hy))
    obtain ⟨d, hcd, hdy⟩ := hcy.cases_head.resolve_left hne.symm
    have hyfront : y ∈ front := hfront.mem_of_reaches (hbefore d hcd) hdy
    exact (List.nodup_append.mp hnodup.2).2.2 y hyfront y hy rfl
  rw [heq, hrest]
  exact List.getLast?_concat ..

/-- The order has nothing twice. Of the component and its dependencies it has all from which no
cycle can be reached, and each stands behind everything that it depends on. If it has the component,
it has all its dependencies, and the component is its end. -/
theorem attachOrder_maximal (h : g.Built) (c : String) :
    (g.attachOrder c).Nodup ∧
    (∀ x, x ∈ g.attachOrder c ↔ (x = c ∨ x ∈ g.transitive c) ∧ ¬ g.ReachesCycle x) ∧
    (∀ front x rest, g.attachOrder c = front ++ x :: rest → ∀ d, g.DependsOn x d → d ∈ front) ∧
    (c ∈ g.attachOrder c →
      (∀ x ∈ g.transitive c, x ∈ g.attachOrder c) ∧ (g.attachOrder c).getLast? = some c) := by
  have hplaced := placing_attachOrder h c
  refine ⟨?_, fun x => ?_, fun front x rest heq => ?_,
    fun hc => ⟨fun x hx => ?_, getLast?_attachOrder h hc⟩⟩
  · rw [← List.append_nil (g.attachOrder c)]
    exact hplaced.nodup
  · rw [mem_attachOrder h, ← mem_withDependencies, withDependencies, List.mem_cons,
      ends_iff_not_reachesCycle]
  · refine hplaced.first front x ⟨rest, ?_⟩
    rw [heq, List.append_assoc, List.singleton_append]
  · exact hplaced.first.mem_of_reaches hc ((mem_transitive c x).mp hx).2.to_reflTransGen

/-- `A` depends on `B`, which has an order, and on `C`, which is in a cycle -/
def halfKnot : ConstraintGraph :=
  .ofDeclared true [("A", ⟨["B", "C"], []⟩), ("B", ⟨["E"], []⟩), ("C", ⟨["D"], []⟩),
    ("D", ⟨["C"], []⟩)]

theorem attachOrder_maximal_halfKnot :
    halfKnot.attachOrder "A" = ["E", "B"] ∧ halfKnot.ReachesCycle "A" ∧
      (halfKnot.attachOrder "B").getLast? = some "B" := by
  have horders : halfKnot.attachOrder "A" = ["E", "B"] ∧ "B" ∈ halfKnot.attachOrder "B" := by
    decide +kernel
  have hbuilt : halfKnot.Built := built_ofDeclared _ _
  obtain ⟨_, hmem, _, _⟩ := attachOrder_maximal hbuilt "A"
  obtain ⟨_, _, _, hlast⟩ := attachOrder_maximal hbuilt "B"
  refine ⟨horders.1, ?_, (hlast horders.2).2⟩
  by_contra hnot
  have hin : "A" ∈ halfKnot.attachOrder "A" := (hmem "A").mpr ⟨Or.inl rfl, hnot⟩
  rw [horders.1] at hin
  exact absurd hin (by decide)

end ConstraintGraph

end Archetype
