import Archetype.Proofs.CheckRules
import Archetype.Proofs.Severity
import Mathlib.Data.Finset.Dedup
import Mathlib.Data.Sym.Sym2

/-!
# Queries that nothing matches

A query is told to match nothing for three reasons: it wants and excludes a component, it wants and
excludes a tag, or it wants two components that are in conflict. Each reason is reported once,
however often the lists repeat it; and if there is none, the entity that has what the query wants
and nothing else matches it.

* `ListsOnce`                      a list that has just the things with a property, each once;
* `overlap_listsOnce`              what is both wanted and excluded;
* `pairsOf_listsOnce`              the pairs of a list without repetitions;
* `Entity.Valid`, `Entity.Matches` what a query is about;
* `Query.impossibilities`          what is reported of a query that matches nothing;
* `query_verdict`                  the reports against the entities.
-/

namespace Archetype

open Text (CodePoints)

/-- the list has just the things with the property, each once -/
structure ListsOnce {α : Type} (l : List α) (P : α → Prop) : Prop where
  nodup : l.Nodup
  mem : ∀ x, x ∈ l ↔ P x

theorem ListsOnce.eq_nil_iff {α : Type} {l : List α} {P : α → Prop} (h : ListsOnce l P) :
    l = [] ↔ ∀ x, ¬ P x := by
  simp only [← h.mem, List.eq_nil_iff_forall_not_mem]

/-! ## names that were mentioned -/

section
variable {κ : Type} [DecidableEq κ]

theorem firstsFrom_listsOnce (seen : List κ) (refs : List (Mention κ)) :
    ListsOnce ((firstsFrom seen refs).map (·.name)) fun x => x ∈ refs.map (·.name) ∧ x ∉ seen := by
  induction refs generalizing seen with
  | nil => exact ⟨List.nodup_nil, by simp [firstsFrom]⟩
  | cons r rest ih =>
    rw [firstsFrom]
    split
    · rename_i hseen
      obtain ⟨hnodup, hmem⟩ := ih seen
      refine ⟨hnodup, fun x => ?_⟩
      rw [hmem, List.map_cons, List.mem_cons]
      constructor
      · exact fun h => ⟨Or.inr h.1, h.2⟩
      · rintro ⟨rfl | h, hnot⟩
        · exact absurd hseen hnot
        · exact ⟨h, hnot⟩
    · rename_i hnew
      obtain ⟨hnodup, hmem⟩ := ih (r.name :: seen)
      refine ⟨?_, fun x => ?_⟩
      · rw [List.map_cons, List.nodup_cons, hmem]
        exact ⟨fun h => h.2 (List.mem_cons_self ..), hnodup⟩
      · rw [List.map_cons, List.mem_cons, hmem, List.map_cons, List.mem_cons, List.mem_cons]
        by_cases e : x = r.name
        · subst e
          simp [hnew]
        · simp [e]

/-- the first mentions have every name once -/
theorem firsts_listsOnce (refs : List (Mention κ)) :
    ListsOnce ((firsts refs).map (·.name)) (· ∈ refs.map (·.name)) := by
  obtain ⟨hnodup, hmem⟩ := firstsFrom_listsOnce [] refs
  refine ⟨hnodup, fun x => (hmem x).trans ?_⟩
  exact and_iff_left List.not_mem_nil

/-- what is both wanted and excluded comes up once -/
theorem overlap_listsOnce (wanted excluded : List (Mention κ)) :
    ListsOnce ((overlap wanted excluded).map (·.name)) fun x =>
      x ∈ wanted.map (·.name) ∧ x ∈ excluded.map (·.name) := by
  obtain ⟨hnodup, hmem⟩ :=
    firsts_listsOnce (excluded.filter fun r => (wanted.map (·.name)).contains r.name)
  refine ⟨hnodup, fun x => (hmem x).trans ?_⟩
  simp only [List.mem_map, List.mem_filter, List.contains_iff_mem]
  constructor
  · rintro ⟨r, ⟨hr, hw⟩, rfl⟩
    exact ⟨hw, r, hr, rfl⟩
  · rintro ⟨hw, r, hr, rfl⟩
    exact ⟨r, ⟨hr, hw⟩, rfl⟩

end

/-! ## pairs -/

theorem map_pairsOf {α β : Type} (f : α → β) (l : List α) :
    (pairsOf l).map (fun e => (f e.1, f e.2)) = pairsOf (l.map f) := by
  induction l with
  | nil => rfl
  | cons a rest ih =>
    rw [List.map_cons, pairsOf, pairsOf, List.map_append, ih, List.map_map, List.map_map]
    rfl

/-- a list without repetitions has every unordered pair of different members once -/
theorem pairsOf_listsOnce {α : Type} {l : List α} (h : l.Nodup) :
    ListsOnce ((pairsOf l).map fun e => s(e.1, e.2)) fun z => ∃ a ∈ l, ∃ b ∈ l, a ≠ b ∧
    z = s(a, b) := by
  induction l with
  | nil => exact ⟨List.nodup_nil, by simp [pairsOf]⟩
  | cons a rest ih =>
    obtain ⟨ha, hrest⟩ := List.nodup_cons.mp h
    obtain ⟨hnodup, hmem⟩ := ih hrest
    rw [pairsOf, List.map_append, List.map_map]
    refine ⟨List.nodup_append.mpr ⟨?_, hnodup, ?_⟩, fun z => ?_⟩
    · refine hrest.map fun x y hxy => ?_
      exact Sym2.congr_right.mp hxy
    · -- a pair with `a` is no pair of the rest
      rintro _ hz _ hz' rfl
      obtain ⟨b, _, rfl⟩ := List.mem_map.mp hz
      obtain ⟨x, hx, y, hy, _, e⟩ := (hmem _).mp hz'
      have hxy : a ∈ s(x, y) := e ▸ Sym2.mem_mk_left a b
      rcases Sym2.mem_iff.mp hxy with rfl | rfl
      · exact ha hx
      · exact ha hy
    · rw [List.mem_append, List.mem_map, hmem]
      constructor
      · rintro (⟨b, hb, rfl⟩ | ⟨x, hx, y, hy, hne, rfl⟩)
        · exact ⟨a, List.mem_cons_self .., b, List.mem_cons_of_mem _ hb, fun e => ha (e ▸ hb), rfl⟩
        · exact ⟨x, List.mem_cons_of_mem _ hx, y, List.mem_cons_of_mem _ hy, hne, rfl⟩
      · rintro ⟨x, hx, y, hy, hne, rfl⟩
        rcases List.mem_cons.mp hx with rfl | hx'
        · exact Or.inl ⟨y, (List.mem_cons.mp hy).resolve_left hne.symm, rfl⟩
        · rcases List.mem_cons.mp hy with rfl | hy'
          · exact Or.inl ⟨x, hx', Sym2.eq_swap⟩
          · exact Or.inr ⟨x, hx', y, hy', hne, rfl⟩

/-- the same for the pairs that are joined by a relation which looks the same from both sides -/
theorem filter_pairsOf_listsOnce {α : Type} {l : List α} (h : l.Nodup) {r : α → α → Bool}
    (hr : ∀ a b, r a b = r b a) :
    ListsOnce (((pairsOf l).filter fun e => r e.1 e.2).map fun e => s(e.1, e.2)) fun z =>
      ∃ a ∈ l, ∃ b ∈ l, a ≠ b ∧ r a b = true ∧ z = s(a, b) := by
  obtain ⟨hnodup, hmem⟩ := pairsOf_listsOnce h
  have hcongr : ∀ {a b c d : α}, s(a, b) = s(c, d) → r a b = r c d := by
    intro a b c d e
    rcases Sym2.eq_iff.mp e with ⟨rfl, rfl⟩ | ⟨rfl, rfl⟩
    · rfl
    · exact hr a b
  refine ⟨hnodup.sublist (List.filter_sublist.map _), fun z => ?_⟩
  simp only [List.mem_map, List.mem_filter] at hmem ⊢
  constructor
  · rintro ⟨e, ⟨he, hre⟩, rfl⟩
    obtain ⟨a, ha, b, hb, hne, heq⟩ := (hmem _).mp ⟨e, he, rfl⟩
    exact ⟨a, ha, b, hb, hne, hcongr heq ▸ hre, heq⟩
  · rintro ⟨a, ha, b, hb, hne, hab, rfl⟩
    obtain ⟨e, he, heq⟩ := (hmem s(a, b)).mpr ⟨a, ha, b, hb, hne, rfl⟩
    exact ⟨e, ⟨he, hcongr heq ▸ hab⟩, heq⟩

/-- two different ones of some names that are in conflict -/
def Clash (g : ConstraintGraph) (names : List String) (z : Sym2 String) : Prop :=
  ∃ a ∈ names, ∃ b ∈ names, a ≠ b ∧ g.inConflict a b = true ∧ z = s(a, b)

/-- the names of the pairs that are reported -/
def clashingPairs (g : ConstraintGraph) (wanted : List Reference) : List Edge :=
  (conflictingPairs g wanted).map fun e => (e.1.name, e.2.name)

/-- two wanted components that are in conflict come up once, whichever of them is wanted first -/
theorem clashingPairs_listsOnce (g : ConstraintGraph) (wanted : List Reference) :
    ListsOnce ((clashingPairs g wanted).map fun e => s(e.1, e.2))
      (Clash g (wanted.map (·.name))) := by
  have hpairs : clashingPairs g wanted
      = (pairsOf ((firsts wanted).map (·.name))).filter fun e => g.inConflict e.1 e.2 := by
    rw [← map_pairsOf, List.filter_map]
    rfl
  have hfirsts := firsts_listsOnce wanted
  obtain ⟨hnodup, hmem⟩ :=
    filter_pairsOf_listsOnce hfirsts.nodup (r := g.inConflict) fun a b => Bool.or_comm ..
  rw [hpairs]
  refine ⟨hnodup, fun z => (hmem z).trans ?_⟩
  simp only [hfirsts.mem]
  rfl

/-! ## entities -/

/-- an entity: its components and its tags -/
structure Entity where
  components : Finset String
  tags : Finset CodePoints

namespace Query

/-- the components that an entity must have to match -/
def wanted (q : Query) : List String := q.all.map (·.name)

/-- the components that it must not have -/
def excluded (q : Query) : List String := q.none.map (·.name)

def wantedTags (q : Query) : List CodePoints := q.tags.map (·.name)

def excludedTags (q : Query) : List CodePoints := q.withoutTags.map (·.name)

end Query

namespace Entity

/-- no two components of the entity are in conflict -/
def Valid (e : Entity) (g : ConstraintGraph) : Prop :=
  ∀ a ∈ e.components, ∀ b ∈ e.components, a ≠ b → g.inConflict a b = false

/-- the entity has all that the query wants and nothing that it excludes -/
structure Matches (e : Entity) (q : Query) : Prop where
  wanted : ∀ c ∈ q.wanted, c ∈ e.components
  excluded : ∀ c ∈ q.excluded, c ∉ e.components
  wantedTags : ∀ t ∈ q.wantedTags, t ∈ e.tags
  excludedTags : ∀ t ∈ q.excludedTags, t ∉ e.tags

/-- the entity that has what a query wants and nothing else -/
def least (q : Query) : Entity := ⟨q.wanted.toFinset, q.wantedTags.toFinset⟩

end Entity

/-- A valid entity matches a query just if none of the three reasons against it holds. If some
entity does, then the least one does. -/
theorem Query.exists_match_iff (g : ConstraintGraph) (q : Query) :
    (∃ e : Entity, e.Valid g ∧ e.Matches q) ↔
      (∀ c, ¬ (c ∈ q.wanted ∧ c ∈ q.excluded)) ∧ (∀ t, ¬ (t ∈ q.wantedTags ∧ t ∈ q.excludedTags)) ∧
        ∀ z, ¬ Clash g q.wanted z := by
  constructor
  · rintro ⟨e, hvalid, hmatch⟩
    refine ⟨fun c h => ?_, fun t h => ?_, ?_⟩
    · exact hmatch.excluded c h.2 (hmatch.wanted c h.1)
    · exact hmatch.excludedTags t h.2 (hmatch.wantedTags t h.1)
    · rintro z ⟨a, ha, b, hb, hne, hab, _⟩
      rw [hvalid a (hmatch.wanted a ha) b (hmatch.wanted b hb) hne] at hab
      exact Bool.false_ne_true hab
  · rintro ⟨hnames, htags, hclash⟩
    refine ⟨.least q, fun a ha b hb hne => ?_, ?_, ?_, ?_, ?_⟩
    · refine Bool.eq_false_iff.mpr fun hab => ?_
      exact hclash s(a, b) ⟨a, List.mem_toFinset.mp ha, b, List.mem_toFinset.mp hb, hne, hab, rfl⟩
    · exact fun c hc => List.mem_toFinset.mpr hc
    · exact fun c hc h => hnames c ⟨List.mem_toFinset.mp h, hc⟩
    · exact fun t ht => List.mem_toFinset.mpr ht
    · exact fun t ht h => htags t ⟨List.mem_toFinset.mp h, ht⟩

/-! ## what is reported -/

namespace Query

/-- what is reported of a query that matches nothing -/
def impossibilities (q : Query) (g : ConstraintGraph) (config : Config) (path : Path) :
    List Finding :=
  ((q.problems g).filterMap (Placed.finding? config.severityOf path)).filter
    (·.problem.kind == .unsatisfiableQuery)

/-- if the rule is not off, the three reasons are reported one after the other -/
theorem map_problem_impossibilities (q : Query) (g : ConstraintGraph) {config : Config}
    (hsev : config.severityOf .queryValidator ≠ .off) (path : Path) :
    (q.impossibilities g config path).map (·.problem) =
      ((overlap q.all q.none).map (·.name)).map Problem.wantedAndExcluded
        ++ ((overlap q.tags q.withoutTags).map (·.name)).map
          (fun t => Problem.taggedAndUntagged t.text)
        ++ (clashingPairs g q.all).map (fun e => Problem.conflictingPair e.1 e.2) := by
  have hall : ((q.problems g).filterMap (Placed.finding? config.severityOf path)).map (·.problem)
      = (q.problems g).map (·.problem) := by
    refine map_problem_findings fun x hx => ?_
    rwa [q.rule_problems g x hx]
  have hkind : (Kind.duplicateEntry == Kind.unsatisfiableQuery) = false := rfl
  have hfilter : (q.impossibilities g config path).map (·.problem)
      = ((q.problems g).map (·.problem)).filter (·.kind == .unsatisfiableQuery) := by
    rw [← hall, List.filter_map]
    rfl
  rw [hfilter]
  simp [problems, clashingPairs, Problem.kind, hkind, List.filter_map, Function.comp_def]

end Query

/-- What is reported of a query is what holds of the entities, in either way of reading conflicts.
If the rule is not off, a query is told to match nothing just if no valid entity matches it; and
each reason is told once: each component and each tag that is both wanted and excluded, and each
unordered pair of different wanted components that are in conflict from either side. -/
theorem query_verdict (g : ConstraintGraph) (q : Query) (config : Config) (path : Path)
    (hsev : config.severityOf .queryValidator ≠ .off) :
    (q.impossibilities g config path ≠ [] ↔ ¬ ∃ e : Entity, e.Valid g ∧ e.Matches q) ∧
    ∃ (components : List String) (tags : List CodePoints) (pairs : List Edge),
      (q.impossibilities g config path).map (·.problem) =
        components.map Problem.wantedAndExcluded
          ++ tags.map (fun t => Problem.taggedAndUntagged t.text)
          ++ pairs.map (fun e => Problem.conflictingPair e.1 e.2) ∧
      ListsOnce components (fun c => c ∈ q.wanted ∧ c ∈ q.excluded) ∧
      ListsOnce tags (fun t => t ∈ q.wantedTags ∧ t ∈ q.excludedTags) ∧
      ListsOnce (pairs.map fun e => s(e.1, e.2)) (Clash g q.wanted) := by
  have hreported := q.map_problem_impossibilities g hsev path
  have hcomponents := overlap_listsOnce q.all q.none
  have htags := overlap_listsOnce q.tags q.withoutTags
  have hpairs := clashingPairs_listsOnce g q.all
  refine ⟨?_, _, _, _, hreported, hcomponents, htags, hpairs⟩
  have hnone : (∃ e : Entity, e.Valid g ∧ e.Matches q) ↔ q.impossibilities g config path = [] := by
    refine (q.exists_match_iff g).trans ?_
    rw [← List.map_eq_nil_iff, hreported, List.append_eq_nil_iff, List.append_eq_nil_iff, and_assoc]
    refine and_congr ?_ (and_congr ?_ ?_)
    · rw [List.map_eq_nil_iff]
      exact hcomponents.eq_nil_iff.symm
    · rw [List.map_eq_nil_iff]
      exact htags.eq_nil_iff.symm
    · rw [List.map_eq_nil_iff, ← List.map_eq_nil_iff]
      exact hpairs.eq_nil_iff.symm
  rw [hnone]

/-- a query for `A` and `B`, which are in conflict because `A` says so; `A` is asked for twice, and
once excluded -/
def greedyQuery : Query :=
  ⟨none, .start, [⟨"A", .start⟩, ⟨"B", .start⟩, ⟨"A", .start⟩], [], [⟨"A", .start⟩], [], []⟩

/-- conflicts bind only the side that declares them -/
def hostileGraph : ConstraintGraph := .ofDeclared false [("A", ⟨[], ["B"]⟩)]

theorem query_verdict_greedyQuery :
    greedyQuery.impossibilities hostileGraph .default Program.memoryRoot ≠ [] ∧
      ¬ ∃ e : Entity, e.Valid hostileGraph ∧ e.Matches greedyQuery := by
  have hfound : greedyQuery.impossibilities hostileGraph .default Program.memoryRoot ≠ [] := by
    decide +kernel
  obtain ⟨hiff, _⟩ := query_verdict hostileGraph greedyQuery .default Program.memoryRoot (by decide)
  exact ⟨hfound, hiff.mp hfound⟩

end Archetype
