import Archetype.Proofs.Construction

/-!
# The tables of a graph

A graph can be kept in three tables of sets: of each component the dependencies, the dependents and
the conflicts. A dependency is put into the first two tables, once from either end; a conflict is
put into the third, from both ends if conflicts are symmetric. The graph keeps the declared pairs
instead, and works out the other directions when it is asked. Here the tables are filled by the
same calls, and they answer as the graph does.

* `HoldsRelation`      what a table of sets says, for any relation;
* `Adjacency`          the three tables, with the calls that fill them;
* `Adjacency.Keeps`    the tables hold the relations of a graph;
* `keeps_apply`        a call keeps it so, and `keeps_ofConstruction` all calls of a construction;
* `tables_answer`      what can be read off the tables is what the graph answers.
-/

namespace Archetype

/-! ## one table of sets -/

/-- the set of a name, which is empty if the table has none -/
def setOf (t : Assoc Names) (a : String) : Names := (t.get? a).getD []

/-- puts `b` into the set of `a`, which is made if there is none -/
def putInto (t : Assoc Names) (a b : String) : Assoc Names := t.update a [] (·.add b)

/-- the pairs of a name and a member of its set, as they stand in the table -/
def pairsIn (t : Assoc Names) : List Edge := t.flatMap fun e => e.2.map fun b => (e.1, b)

/-- The sets of the table hold the relation. Each name has one set, which is not empty and has
every member once. -/
structure HoldsRelation (t : Assoc Names) (R : String → String → Prop) : Prop where
  keys : t.keys.Nodup
  sets : ∀ a s, t.get? a = some s → s ≠ [] ∧ s.Nodup
  mem_iff : ∀ a b, b ∈ setOf t a ↔ R a b

theorem get?_putInto (t : Assoc Names) (a b x : String) :
    (putInto t a b).get? x = if a = x then some ((setOf t a).add b) else t.get? x :=
  Assoc.get?_insert t a _ x

theorem mem_setOf_putInto (t : Assoc Names) (a b x y : String) :
    y ∈ setOf (putInto t a b) x ↔ y ∈ setOf t x ∨ (x, y) = (a, b) := by
  unfold setOf
  rw [get?_putInto]
  by_cases h : a = x
  · subst h
    rw [if_pos rfl, Option.getD_some, Names.mem_add]
    simp [setOf]
  · have hne : x ≠ a := fun e => h e.symm
    simp [h, hne]

namespace HoldsRelation

variable {t : Assoc Names} {R S : String → String → Prop}

theorem nil : HoldsRelation [] fun _ _ => False where
  keys := List.nodup_nil
  sets _ _ h := nomatch h
  mem_iff _ _ := List.mem_nil_iff _

theorem congr (h : HoldsRelation t R) (hRS : ∀ a b, R a b ↔ S a b) : HoldsRelation t S where
  keys := h.keys
  sets := h.sets
  mem_iff a b := (h.mem_iff a b).trans (hRS a b)

theorem nodup_setOf (h : HoldsRelation t R) (a : String) : (setOf t a).Nodup := by
  unfold setOf
  cases hget : t.get? a with
  | none => exact List.nodup_nil
  | some s => exact (h.sets a s hget).2

/-- one more pair -/
theorem putInto (h : HoldsRelation t R) (a b : String) :
    HoldsRelation (putInto t a b) fun x y => R x y ∨ (x, y) = (a, b) where
  keys := by
    have hkeys : (Archetype.putInto t a b).keys = Names.addAll t.keys [a] := Assoc.keys_insert t a _
    rw [hkeys]
    exact Names.nodup_addAll h.keys [a]
  sets x s hs := by
    rw [get?_putInto] at hs
    split at hs
    · cases hs
      have hmem : b ∈ (setOf t a).add b := (Names.mem_add _ _ _).mpr (Or.inr rfl)
      exact ⟨List.ne_nil_of_mem hmem, Names.nodup_add (h.nodup_setOf a) b⟩
    · exact h.sets x s hs
  mem_iff x y := by rw [mem_setOf_putInto, h.mem_iff]

variable (h : HoldsRelation t R)
include h

theorem mem_iff_exists (a b : String) : (∃ s, (a, s) ∈ t ∧ b ∈ s) ↔ R a b := by
  rw [← h.mem_iff]
  unfold setOf
  constructor
  · rintro ⟨s, hs, hb⟩
    rwa [(Assoc.get?_eq_some_iff_mem h.keys a s).mpr hs]
  · intro hb
    cases hget : t.get? a with
    | none => exact absurd (hget ▸ hb) List.not_mem_nil
    | some s => exact ⟨s, (Assoc.get?_eq_some_iff_mem h.keys a s).mp hget, by rwa [hget] at hb⟩

/-- the names of the table are those that are related to something -/
theorem mem_keys_iff (a : String) : a ∈ t.keys ↔ ∃ b, R a b := by
  rw [← Assoc.exists_get?_iff_mem_keys]
  constructor
  · rintro ⟨s, hs⟩
    obtain ⟨b, hb⟩ := List.exists_mem_of_ne_nil s (h.sets a s hs).1
    exact ⟨b, (h.mem_iff a b).mp (by rwa [setOf, hs])⟩
  · rintro ⟨b, hb⟩
    obtain ⟨s, hs, _⟩ := (h.mem_iff_exists a b).mpr hb
    exact ⟨s, (Assoc.get?_eq_some_iff_mem h.keys a s).mpr hs⟩

theorem mem_pairsIn (e : Edge) : e ∈ pairsIn t ↔ R e.1 e.2 := by
  rw [← h.mem_iff_exists]
  simp only [pairsIn, List.mem_flatMap, List.mem_map]
  constructor
  · rintro ⟨⟨a, s⟩, hs, b, hb, rfl⟩
    exact ⟨s, hs, hb⟩
  · rintro ⟨s, hs, hb⟩
    exact ⟨(e.1, s), hs, e.2, hb, rfl⟩

/-- the names and the members of the sets are all that stand in the relation -/
theorem mem_ends_iff (x : String) :
    x ∈ (t.flatMap fun e => e.1 :: e.2) ↔ ∃ y, R x y ∨ R y x := by
  rw [List.mem_flatMap]
  constructor
  · rintro ⟨⟨a, s⟩, hs, hx⟩
    rcases List.mem_cons.mp hx with rfl | hx
    · obtain ⟨y, hy⟩ := (h.mem_keys_iff x).mp (List.mem_map_of_mem hs)
      exact ⟨y, Or.inl hy⟩
    · exact ⟨a, Or.inr ((h.mem_iff_exists a x).mp ⟨s, hs, hx⟩)⟩
  · rintro ⟨y, hy | hy⟩
    · obtain ⟨e, he, rfl⟩ := List.mem_map.mp ((h.mem_keys_iff x).mpr ⟨y, hy⟩)
      exact ⟨e, he, List.mem_cons_self⟩
    · obtain ⟨s, hs, hx⟩ := (h.mem_iff_exists y x).mpr hy
      exact ⟨(y, s), hs, List.mem_cons_of_mem _ hx⟩

theorem nodup_pairsIn : (pairsIn t).Nodup := by
  have hsets : ∀ e ∈ t, e.2.Nodup :=
    fun e he => (h.sets e.1 e.2 ((Assoc.get?_eq_some_iff_mem h.keys e.1 e.2).mpr he)).2
  refine List.nodup_flatMap.mpr ⟨fun e he => ?_, ?_⟩
  · exact (hsets e he).map fun _ _ heq => (Prod.mk.inj heq).2
  · refine (List.pairwise_map.mp h.keys).imp fun {e f} hne => ?_
    rintro p hp hp'
    obtain ⟨_, _, rfl⟩ := List.mem_map.mp hp
    obtain ⟨_, _, heq⟩ := List.mem_map.mp hp'
    exact hne (Prod.mk.inj heq).1.symm

end HoldsRelation

/-! ## the three tables -/

/-- a graph as three tables of sets -/
structure Adjacency where
  symmetric : Bool
  /-- a component and what it depends on -/
  dependsOn : Assoc Names
  /-- a component and what depends on it -/
  dependents : Assoc Names
  /-- a component and what it conflicts with -/
  conflictsWith : Assoc Names

namespace Adjacency

open ConstraintGraph (Addition Construction unordered)

/-- the tables without any pair -/
def empty (symmetric : Bool) : Adjacency := ⟨symmetric, [], [], []⟩

/-- `a` depends on `b` -/
def addDependency (t : Adjacency) (a b : String) : Adjacency :=
  if a = b then t
  else { t with dependsOn := putInto t.dependsOn a b, dependents := putInto t.dependents b a }

/-- `a` conflicts with `b` -/
def addConflict (t : Adjacency) (a b : String) : Adjacency :=
  if a = b then t
  else
    let declared := putInto t.conflictsWith a b
    { t with conflictsWith := if t.symmetric then putInto declared b a else declared }

/-- all that `name` asks for -/
def addConstraints (t : Adjacency) (name : String) (c : Constraints) : Adjacency :=
  c.conflicts.foldl (·.addConflict name) (c.dependencies.foldl (·.addDependency name) t)

/-- what a call makes of the tables -/
def apply (t : Adjacency) : Addition → Adjacency
  | .dependency a b => t.addDependency a b
  | .conflict a b => t.addConflict a b
  | .constraints name c => t.addConstraints name c

/-- the tables that are filled from all sources of a graph, and by the calls that follow -/
def ofConstruction (k : Construction) : Adjacency :=
  k.further.foldl apply
    (k.declared.foldl (fun t d => t.addConstraints d.1 d.2) (empty k.symmetric))

/-! ## what is read off the tables -/

/-- was a conflict between the two declared from either side? -/
def inConflict (t : Adjacency) (a b : String) : Bool :=
  (setOf t.conflictsWith a).contains b || (setOf t.conflictsWith b).contains a

/-- every name and every member of the sets, but for the table of the other direction -/
def nodes (t : Adjacency) : List String :=
  Names.sorted (Names.unique ((t.dependsOn ++ t.conflictsWith).flatMap fun e => e.1 :: e.2))

/-- the dependency pairs in order -/
def edges (t : Adjacency) : List Edge := (pairsIn t.dependsOn).mergeSort Edge.le

/-- the conflicts as unordered pairs, each listed once -/
def pairs (t : Adjacency) : List Edge :=
  ((pairsIn t.conflictsWith).map unordered).eraseDups.mergeSort Edge.le

/-! ## the tables hold the relations of the graph -/

/-- the tables hold the relations of the graph, the second one in the other direction -/
structure Keeps (t : Adjacency) (g : ConstraintGraph) : Prop where
  symmetric : t.symmetric = g.symmetric
  dependsOn : HoldsRelation t.dependsOn fun a b => b ∈ g.dependenciesOf a
  dependents : HoldsRelation t.dependents fun a b => b ∈ g.dependentsOf a
  conflictsWith : HoldsRelation t.conflictsWith fun a b => b ∈ g.conflictsOf a

theorem keeps_empty (symmetric : Bool) : (empty symmetric).Keeps (.empty symmetric) where
  symmetric := rfl
  dependsOn := HoldsRelation.nil.congr fun _ b => (List.mem_nil_iff b).symm
  dependents := HoldsRelation.nil.congr fun _ b => (List.mem_nil_iff b).symm
  conflictsWith := by
    refine HoldsRelation.nil.congr fun a b => ?_
    cases symmetric <;> exact (List.mem_nil_iff b).symm

section
variable {t : Adjacency} {g : ConstraintGraph}

theorem keeps_addDependency (h : t.Keeps g) (a b : String) :
    (t.addDependency a b).Keeps (g.addDependency a b) := by
  unfold addDependency
  by_cases hab : a = b
  · have hsame : g.addDependency a b = g := by simp [ConstraintGraph.addDependency, addEdge, hab]
    rwa [if_pos hab, hsame]
  · have hdep : ∀ x y, y ∈ (g.addDependency a b).dependenciesOf x
        ↔ y ∈ g.dependenciesOf x ∨ (x, y) = (a, b) := by
      intro x y
      refine (ConstraintGraph.dependsOn_iff _ x y).trans ?_
      refine (mem_addEdge g.dependencies a b (x, y)).trans ?_
      rw [and_iff_left hab]
      exact or_congr_left (ConstraintGraph.dependsOn_iff g x y).symm
    rw [if_neg hab]
    refine ⟨h.symmetric, (h.dependsOn.putInto a b).congr fun x y => (hdep x y).symm, ?_,
      h.conflictsWith⟩
    refine (h.dependents.putInto b a).congr fun x y => ?_
    rw [ConstraintGraph.mem_dependentsOf, ConstraintGraph.mem_dependentsOf]
    refine Iff.trans ?_ (hdep y x).symm
    rw [Prod.mk.injEq, Prod.mk.injEq, and_comm]
    rfl

theorem keeps_addConflict (h : t.Keeps g) (a b : String) :
    (t.addConflict a b).Keeps (g.addConflict a b) := by
  unfold addConflict
  by_cases hab : a = b
  · have hsame : g.addConflict a b = g := by simp [ConstraintGraph.addConflict, addEdge, hab]
    rwa [if_pos hab, hsame]
  · have hconf : ∀ x y, y ∈ (g.addConflict a b).conflictsOf x ↔
        (y ∈ g.conflictsOf x ∨ (x, y) = (a, b)) ∨ (g.symmetric = true ∧ (x, y) = (b, a)) := by
      intro x y
      have hmem : ∀ p q, (p, q) ∈ (g.addConflict a b).conflicts
          ↔ (p, q) ∈ g.conflicts ∨ (p, q) = (a, b) := by
        intro p q
        rw [← and_iff_left (a := (p, q) = (a, b)) hab]
        exact mem_addEdge g.conflicts a b (p, q)
      have hsym : (g.addConflict a b).symmetric = g.symmetric := rfl
      rw [ConstraintGraph.mem_conflictsOf, ConstraintGraph.mem_conflictsOf, hmem, hmem, hsym]
      grind
    have hone := h.conflictsWith.putInto a b
    have htable : HoldsRelation
        (if t.symmetric then putInto (putInto t.conflictsWith a b) b a
          else putInto t.conflictsWith a b) fun x y => y ∈ (g.addConflict a b).conflictsOf x := by
      cases hs : t.symmetric with
      | true =>
        have hg : g.symmetric = true := h.symmetric.symm.trans hs
        exact (hone.putInto b a).congr fun x y => by rw [hconf, and_iff_right hg]
      | false =>
        have hg : ¬ g.symmetric = true := by rw [← h.symmetric, hs]; exact Bool.false_ne_true
        refine hone.congr fun x y => Iff.trans ?_ (hconf x y).symm
        exact (or_iff_left fun hback => hg hback.1).symm
    rw [if_neg hab]
    exact ⟨h.symmetric, h.dependsOn, h.dependents, htable⟩

theorem keeps_addConstraints (h : t.Keeps g) (name : String) (c : Constraints) :
    (t.addConstraints name c).Keeps (g.addConstraints name c) := by
  refine List.foldl_rel ?_ fun b _ t g h => keeps_addConflict h name b
  exact List.foldl_rel h fun b _ t g h => keeps_addDependency h name b

/-- a call that puts constraints in keeps tables and graph in step -/
theorem keeps_apply (h : t.Keeps g) (x : Addition) : (t.apply x).Keeps (x.apply g) := by
  cases x with
  | dependency a b => exact keeps_addDependency h a b
  | conflict a b => exact keeps_addConflict h a b
  | constraints name c => exact keeps_addConstraints h name c

end

/-- tables and graph stay in step from the first source to the last call -/
theorem keeps_ofConstruction (k : Construction) : (ofConstruction k).Keeps k.graph := by
  refine List.foldl_rel ?_ fun x _ t g h => keeps_apply h x
  exact List.foldl_rel (keeps_empty k.symmetric) fun d _ t g h => keeps_addConstraints h d.1 d.2

/-! ## the answers of the tables -/

section
variable {t : Adjacency} {g : ConstraintGraph} (h : t.Keeps g)
include h

theorem Keeps.inConflict_eq (a b : String) : t.inConflict a b = g.inConflict a b := by
  unfold inConflict ConstraintGraph.inConflict
  rw [Bool.eq_iff_iff]
  simp only [Bool.or_eq_true, List.contains_iff_mem, h.conflictsWith.mem_iff]

theorem Keeps.nodes_eq : t.nodes = g.nodes := by
  have hmem : ∀ x, x ∈ ((t.dependsOn ++ t.conflictsWith).flatMap fun e => e.1 :: e.2)
      ↔ ∃ y, (g.DependsOn x y ∨ y ∈ g.conflictsOf x) ∨ g.DependsOn y x ∨ x ∈ g.conflictsOf y := by
    intro x
    rw [List.flatMap_append, List.mem_append, h.dependsOn.mem_ends_iff,
      h.conflictsWith.mem_ends_iff, ← exists_or]
    exact exists_congr fun y => or_or_or_comm
  refine Names.sorted_eq (Names.nodup_unique _) (Names.nodup_unique _) fun x => ?_
  rw [Names.mem_unique, hmem, ← Names.mem_sorted]
  refine Iff.trans (exists_congr fun y => ?_) (ConstraintGraph.mem_nodes_iff x).symm
  unfold ConstraintGraph.inConflict
  rw [Bool.or_eq_true, List.contains_iff_mem, List.contains_iff_mem]
  grind

theorem Keeps.edges_eq (hg : g.Built) : t.edges = g.edges := by
  refine Edge.sorted_eq h.dependsOn.nodup_pairsIn (hg.nodup_on .dependency) fun e => ?_
  rw [h.dependsOn.mem_pairsIn]
  exact ConstraintGraph.dependsOn_iff g e.1 e.2

theorem Keeps.pairs_eq : t.pairs = g.pairs := by
  refine Edge.sorted_eq (nodup_eraseDups _) (nodup_eraseDups _) fun e => ?_
  have hpairs : e ∈ (g.conflicts.map unordered).eraseDups
      ↔ ∃ a b, g.inConflict a b = true ∧ unordered (a, b) = e :=
    List.mem_mergeSort.symm.trans (ConstraintGraph.mem_pairs_iff e)
  rw [hpairs, List.mem_eraseDups, List.mem_map]
  constructor
  · rintro ⟨⟨a, b⟩, hab, rfl⟩
    have hconf : b ∈ g.conflictsOf a := (h.conflictsWith.mem_pairsIn (a, b)).mp hab
    refine ⟨a, b, ?_, rfl⟩
    rw [ConstraintGraph.inConflict, List.contains_iff_mem.mpr hconf, Bool.true_or]
  · rintro ⟨a, b, hab, rfl⟩
    rw [ConstraintGraph.inConflict, Bool.or_eq_true, List.contains_iff_mem,
      List.contains_iff_mem] at hab
    rcases hab with hab | hab
    · exact ⟨(a, b), (h.conflictsWith.mem_pairsIn (a, b)).mpr hab, rfl⟩
    · exact ⟨(b, a), (h.conflictsWith.mem_pairsIn (b, a)).mpr hab,
        ConstraintGraph.unordered_swap b a⟩

/-- the search for cycles starts from the names of the first table -/
theorem Keeps.dependers_eq : Names.sorted t.dependsOn.keys = g.dependers := by
  refine Names.sorted_eq h.dependsOn.keys (Names.nodup_unique _) fun x => ?_
  rw [h.dependsOn.mem_keys_iff, Names.mem_unique, List.mem_map]
  constructor
  · rintro ⟨y, hy⟩
    exact ⟨(x, y), (ConstraintGraph.dependsOn_iff g x y).mp hy, rfl⟩
  · rintro ⟨⟨x, y⟩, he, rfl⟩
    exact ⟨y, (ConstraintGraph.dependsOn_iff g x y).mpr he⟩

end

/-- However a graph is put together, the tables that the same calls fill say what it answers. Its
sets have the same members, and what goes through them in order meets the same names: the
dependencies and dependents of every component, the components that depend on something, all
components, all dependencies and all conflicts, in both modes. -/
theorem tables_answer (k : Construction) :
    let t := ofConstruction k
    let g := k.graph
    (∀ a b, (b ∈ setOf t.dependsOn a ↔ b ∈ g.dependenciesOf a) ∧
      (b ∈ setOf t.dependents a ↔ b ∈ g.dependentsOf a) ∧
      (b ∈ setOf t.conflictsWith a ↔ b ∈ g.conflictsOf a) ∧ t.inConflict a b = g.inConflict a b) ∧
    (∀ a, Names.sorted (setOf t.dependsOn a) = Names.sorted (g.dependenciesOf a) ∧
      Names.sorted (setOf t.dependents a) = Names.sorted (g.dependentsOf a) ∧
      Names.sorted (setOf t.conflictsWith a) = Names.sorted (g.conflictsOf a)) ∧
    Names.sorted t.dependsOn.keys = g.dependers ∧ t.nodes = g.nodes ∧ t.edges = g.edges ∧
    t.pairs = g.pairs := by
  intro t g
  have h : t.Keeps g := keeps_ofConstruction k
  have hg : g.Built := k.built_graph
  refine ⟨fun a b => ⟨h.dependsOn.mem_iff a b, h.dependents.mem_iff a b,
    h.conflictsWith.mem_iff a b, h.inConflict_eq a b⟩, fun a => ⟨?_, ?_, ?_⟩, h.dependers_eq,
    h.nodes_eq, h.edges_eq hg, h.pairs_eq⟩
  · exact Names.sorted_eq (h.dependsOn.nodup_setOf a) (hg.nodup_dependenciesOf a)
      (h.dependsOn.mem_iff a)
  · exact Names.sorted_eq (h.dependents.nodup_setOf a)
      (ConstraintGraph.nodup_dependentsOf (hg.nodup_on .dependency) a) (h.dependents.mem_iff a)
  · exact Names.sorted_eq (h.conflictsWith.nodup_setOf a) (hg.nodup_conflictsOf a)
      (h.conflictsWith.mem_iff a)

end Adjacency

end Archetype
