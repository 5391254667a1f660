import Archetype.Proofs.Reachability

/-!
# Counting down dependencies

A component waits for a number of dependencies. Each time that one of them is placed, the number
goes down by one, and when it has come to zero the component can be placed. Here it is shown that
the numbers are right all along: each is the number of dependencies that are not placed. So what
joins the queue is what has become ready, at the moment it does.

* `Schedule.foldl_release`   what releasing some components does to the queue and to the numbers;
* `isReady`, `released`      the components that can be placed, told by what is placed;
* `Counts`                   the numbers are right: the invariant;
* `place_spec`               what placing a component does to the schedule;
* `Counts.queue_place`       what joins the queue when a component is placed;
* `Counts.place`             the numbers are right afterwards;
* `counts_start`             and they are at the start.
-/

namespace Archetype

/-! ## releasing -/

namespace Schedule

theorem placed_release (s : Schedule) (name : String) : (s.release name).placed = s.placed := by
  unfold release
  cases s.waiting.get? name <;> rfl

theorem queue_release (s : Schedule) (name : String) :
    (s.release name).queue = if s.waiting.get? name = some 1 then s.queue
      ++ [name] else s.queue := by
  unfold release
  cases s.waiting.get? name with
  | none => rfl
  | some count =>
    have hlast : count - 1 = 0 ↔ some count = some 1 := by
      rw [Option.some.injEq]
      omega
    simp only [hlast]

theorem waiting_release (s : Schedule) (name x : String) :
    (s.release name).waiting.get? x
      = if name = x then (s.waiting.get? x).map (· - 1) else s.waiting.get? x := by
  by_cases e : name = x
  · subst e
    rw [if_pos rfl, release]
    cases hname : s.waiting.get? name with
    | none => exact hname
    | some count =>
      show (s.waiting.insert name (count - 1)).get? name = some (count - 1)
      rw [Assoc.get?_insert, if_pos rfl]
  · rw [if_neg e, release]
    cases s.waiting.get? name with
    | none => rfl
    | some count =>
      show (s.waiting.insert name (count - 1)).get? x = s.waiting.get? x
      rw [Assoc.get?_insert, if_neg e]

/-- Releasing some different components: each that is known has one dependency less to wait for, and
those that waited for one join the queue. -/
theorem foldl_release {names : List String} (hnodup : names.Nodup) (s : Schedule) :
    (names.foldl release s).placed = s.placed ∧
    (names.foldl release s).queue = s.queue ++ names.filter (fun d => s.waiting.get? d = some 1) ∧
    ∀ x, (names.foldl release s).waiting.get? x
      = if x ∈ names then (s.waiting.get? x).map (· - 1) else s.waiting.get? x := by
  induction names generalizing s with
  | nil => exact ⟨rfl, (List.append_nil _).symm, fun x => rfl⟩
  | cons d names ih =>
    obtain ⟨hd, hrest⟩ := List.nodup_cons.mp hnodup
    obtain ⟨hplaced, hqueue, hwaiting⟩ := ih hrest (s.release d)
    -- the others wait for as much as before
    have hothers : ∀ x ∈ names, (s.release d).waiting.get? x = s.waiting.get? x := by
      intro x hx
      rw [waiting_release, if_neg fun e : d = x => hd (e ▸ hx)]
    rw [List.foldl_cons]
    refine ⟨hplaced.trans (s.placed_release d), ?_, fun x => ?_⟩
    · have hfilter : names.filter (fun x => (s.release d).waiting.get? x = some 1)
          = names.filter (fun x => s.waiting.get? x = some 1) :=
        List.filter_congr fun x hx => by rw [hothers x hx]
      rw [hqueue, hfilter, queue_release, List.filter_cons]
      split
      · rename_i hlast
        rw [if_pos (decide_eq_true hlast), List.append_assoc, List.singleton_append]
      · rename_i hmore
        rw [if_neg (by simpa using hmore)]
    · rw [hwaiting, waiting_release]
      by_cases e : d = x
      · subst e
        rw [if_neg hd, if_pos rfl, if_pos (List.mem_cons_self ..)]
      · have hmem : x ∈ d :: names ↔ x ∈ names :=
          List.mem_cons.trans (or_iff_right fun e' => e e'.symm)
        simp only [if_neg e, hmem]

end Schedule

namespace ConstraintGraph

variable {g : ConstraintGraph}

/-! ## components that are ready -/

/-- are all dependencies of the component among those that were placed? -/
def isReady (g : ConstraintGraph) (placed : List String) (name : String) : Bool :=
  (g.dependenciesOf name).all (placed.contains ·)

/-- the members whose last dependency is `node`, now that it is placed -/
def released (g : ConstraintGraph) (members : Names) (placed : List String) (node : String) :
    List String :=
  (Names.sorted (g.dependentsOf node)).filter fun d => members.contains d && g.isReady placed d

theorem isReady_iff (placed : List String) (x : String) :
    g.isReady placed x = true ↔ ∀ d, g.DependsOn x d → d ∈ placed := by
  unfold isReady
  rw [List.all_eq_true]
  exact forall₂_congr fun d _ => List.contains_iff_mem

theorem mem_dependentsOf (a b : String) : b ∈ g.dependentsOf a ↔ g.DependsOn b a := by
  rw [dependsOn_iff]
  show b ∈ (g.dependencies.filter (·.2 == a)).map Prod.fst ↔ (b, a) ∈ g.dependencies
  simp

theorem nodup_dependentsOf (h : g.dependencies.Nodup) (a : String) : (g.dependentsOf a).Nodup := by
  refine List.Nodup.map_on ?_ (h.filter _)
  intro e he e' he' hfst
  have h2 : e.2 = a := beq_iff_eq.mp (List.mem_filter.mp he).2
  have h2' : e'.2 = a := beq_iff_eq.mp (List.mem_filter.mp he').2
  exact Prod.ext hfst (h2.trans h2'.symm)

theorem mem_released (members : Names) (placed : List String) (node x : String) :
    x ∈ g.released members placed node ↔
      g.DependsOn x node ∧ x ∈ members ∧ ∀ d, g.DependsOn x d → d ∈ placed := by
  unfold released
  rw [List.mem_filter, Names.mem_sorted, mem_dependentsOf, Bool.and_eq_true, List.contains_iff_mem,
    isReady_iff]

/-! ## counting -/

/-- the dependencies of a component that are not placed -/
def missing (g : ConstraintGraph) (placed : List String) (x : String) : Names :=
  (g.dependenciesOf x).without placed

/-- the table has for every member the number of its dependencies that are not placed, and has
nothing for others -/
def Counts (g : ConstraintGraph) (members : Names) (placed : List String) (waiting : Assoc Int) :
    Prop :=
  ∀ x, waiting.get? x = if x ∈ members then some ((g.missing placed x).length : Int) else none

theorem length_missing_eq_zero_iff (placed : List String) (x : String) :
    (g.missing placed x).length = 0 ↔ g.isReady placed x = true := by
  unfold missing
  rw [List.length_eq_zero_iff, isReady_iff, List.eq_nil_iff_forall_not_mem]
  simp only [Names.mem_without, not_and, not_not]
  rfl

/-- placing a component is one less for all that depend on it -/
theorem length_missing_concat (h : g.Built) {placed : List String} {node x : String}
    (hnode : node ∉ placed) (hx : g.DependsOn x node) :
    (g.missing placed x).length = (g.missing (placed ++ [node]) x).length + 1 := by
  have hnodup : (g.missing placed x).Nodup := (h.nodup_dependenciesOf x).filter _
  have hmem : node ∈ g.missing placed x := (Names.mem_without ..).mpr ⟨hx, hnode⟩
  have herase : g.missing (placed ++ [node]) x = (g.missing placed x).erase node := by
    rw [hnodup.erase_eq_filter]
    unfold missing Names.without
    rw [List.filter_filter]
    refine List.filter_congr fun y _ => ?_
    rw [Bool.eq_iff_iff]
    simp [and_comm]
  have hpos := List.length_pos_of_mem hmem
  rw [herase, List.length_erase_of_mem hmem]
  omega

theorem missing_concat_of_not {placed : List String} {node x : String} (hx : ¬ g.DependsOn x node) :
    g.missing (placed ++ [node]) x = g.missing placed x := by
  unfold missing Names.without
  refine List.filter_congr fun y hy => ?_
  have hne : y ≠ node := fun e => hx (e ▸ hy)
  rw [Bool.eq_iff_iff]
  simp [hne]

section
variable (hbuilt : g.Built) {members : Names} {s : Schedule} {node : String} (queue : List String)
include hbuilt

/-- placing a component releases all that depend on it -/
theorem place_spec (s : Schedule) (node : String) :
    (s.place g node queue).placed = s.placed ++ [node] ∧
    (s.place g node queue).queue
      = queue ++ (Names.sorted (g.dependentsOf node)).filter (fun d => s.waiting.get? d = some 1) ∧
    (∀ x, g.DependsOn x node →
      (s.place g node queue).waiting.get? x = (s.waiting.get? x).map (· - 1)) ∧
    ∀ x, ¬ g.DependsOn x node → (s.place g node queue).waiting.get? x = s.waiting.get? x := by
  have hnodup := Names.nodup_sorted (nodup_dependentsOf (hbuilt.nodup_on .dependency) node)
  obtain ⟨hplaced, hqueue, hwaiting⟩ :=
    Schedule.foldl_release hnodup { s with placed := s.placed ++ [node], queue := queue }
  have hmem : ∀ x, x ∈ Names.sorted (g.dependentsOf node) ↔ g.DependsOn x node :=
    fun x => (Names.mem_sorted _ x).trans (mem_dependentsOf node x)
  refine ⟨hplaced, hqueue, fun x hx => ?_, fun x hx => ?_⟩
  · exact (hwaiting x).trans (if_pos ((hmem x).mpr hx))
  · exact (hwaiting x).trans (if_neg ((hmem x).not.mpr hx))

/-- placing a component by the counts releases the members that have become ready -/
theorem Counts.queue_place (h : g.Counts members s.placed s.waiting) (hnode : node ∉ s.placed) :
    (s.place g node queue).queue = queue ++ g.released members (s.placed ++ [node]) node := by
  obtain ⟨_, hqueue, _, _⟩ := place_spec hbuilt queue s node
  refine hqueue.trans (congrArg (queue ++ ·) (List.filter_congr fun d hd => ?_))
  have hdep : g.DependsOn d node := (mem_dependentsOf node d).mp ((Names.mem_sorted _ d).mp hd)
  have hcount := length_missing_concat hbuilt hnode hdep
  have hready := g.length_missing_eq_zero_iff (s.placed ++ [node]) d
  rw [Bool.eq_iff_iff, decide_eq_true_iff, Bool.and_eq_true, List.contains_iff_mem, ← hready, h d]
  by_cases hm : d ∈ members
  · rw [if_pos hm, Option.some.injEq]
    constructor
    · intro hlast
      exact ⟨hm, by omega⟩
    · rintro ⟨_, hzero⟩
      omega
  · rw [if_neg hm]
    exact iff_of_false (by simp) fun hand => hm hand.1

/-- the counts are right after a component was placed -/
theorem Counts.place (h : g.Counts members s.placed s.waiting) (hnode : node ∉ s.placed) :
    g.Counts members (s.place g node queue).placed (s.place g node queue).waiting := by
  obtain ⟨hplaced, _, hless, hsame⟩ := place_spec hbuilt queue s node
  intro x
  rw [hplaced]
  by_cases hdep : g.DependsOn x node
  · have hcount := length_missing_concat hbuilt hnode hdep
    rw [hless x hdep, h x, hcount]
    split
    · simp
    · rfl
  · rw [hsame x hdep, h x, missing_concat_of_not hdep]

end

/-! ## the start -/

theorem get?_map_members (members : Names) (f : String → Int) (x : String) :
    Assoc.get? (members.map fun m => (m, f m)) x = if x ∈ members then some (f x) else none := by
  induction members with
  | nil => rfl
  | cons m members ih =>
    rw [List.map_cons, Assoc.get?_cons, ih]
    by_cases e : m = x
    · subst e
      simp
    · have e' : ¬ x = m := fun h => e h.symm
      simp [e, e']

/-- all members have their dependencies among the members, so that none is left out of the counts -/
theorem both_withDependencies {c x : String} (hx : x ∈ g.withDependencies c) :
    (g.dependenciesOf x).both (g.withDependencies c) = g.missing [] x := by
  refine List.filter_congr fun d hd => ?_
  have hmem : d ∈ g.withDependencies c :=
    (mem_withDependencies c d).mpr (((mem_withDependencies c x).mp hx).tail hd)
  simp [hmem]

theorem counts_start (c : String) :
    g.Counts (g.withDependencies c) [] (Schedule.start g (g.withDependencies c)).waiting := by
  intro x
  refine (get?_map_members (g.withDependencies c) _ x).trans ?_
  split
  · rename_i hx
    rw [both_withDependencies hx]
  · rfl

theorem queue_start (c : String) : (Schedule.start g (g.withDependencies c)).queue
    = Names.sorted ((g.withDependencies c).filter (g.isReady [])) := by
  show Names.sorted (((List.map _ _).filter _).map Prod.fst) = _
  rw [List.filter_map, List.map_map]
  refine congrArg Names.sorted ((List.map_id _).trans (List.filter_congr fun x hx => ?_))
  rw [Bool.eq_iff_iff, ← length_missing_eq_zero_iff, ← both_withDependencies hx]
  simp

end ConstraintGraph

end Archetype
