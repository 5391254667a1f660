import Archetype.Check.Declared

/-!
# Checking queries

A query can match nothing if it wants and excludes the same component or the same tag, or if two
components that it wants are in conflict. It should list nothing twice.
-/

namespace Archetype

/-- the mentions whose names come up for the first time; `seen` are the earlier names -/
def firstsFrom {κ : Type} [DecidableEq κ] (seen : List κ) : List (Mention κ) → List (Mention κ)
  | [] => []
  | r :: rest =>
    if r.name ∈ seen then firstsFrom seen rest else r :: firstsFrom (r.name :: seen) rest

/-- the first occurrence of each name, in order -/
def firsts {κ : Type} [DecidableEq κ] (refs : List (Mention κ)) : List (Mention κ) :=
  firstsFrom [] refs

/-- the excluded names that are also wanted, each where it is first excluded -/
def overlap {κ : Type} [DecidableEq κ] (wanted excluded : List (Mention κ)) : List (Mention κ) :=
  firsts (excluded.filter fun r => (wanted.map (·.name)).contains r.name)

/-- every pair of a list, the earlier one first -/
def pairsOf {α : Type} : List α → List (α × α)
  | [] => []
  | a :: rest => rest.map (a, ·) ++ pairsOf rest

/-- the pairs of wanted components that are in conflict -/
def conflictingPairs (g : ConstraintGraph) (wanted : List Reference) :
    List (Reference × Reference) :=
  (pairsOf (firsts wanted)).filter fun (a, b) => g.inConflict a.name b.name

/-- the problems of one query -/
def Query.problems (g : ConstraintGraph) (q : Query) : List Placed :=
  let twice (list : QueryList) (refs : List Reference) : List Placed :=
    (seconds refs).map fun r => ⟨.repeatedInQuery list r.name, some r.pos⟩
  let tagTwice (list : QueryList) (refs : List TagMention) : List Placed :=
    (seconds refs).map fun r => ⟨.repeatedInQuery list r.name.text, some r.pos⟩
  (overlap q.all q.none).map (fun r => ⟨.wantedAndExcluded r.name, some r.pos⟩)
    ++ (overlap q.tags q.withoutTags).map (fun r => ⟨.taggedAndUntagged r.name.text, some r.pos⟩)
    ++ twice .all q.all ++ twice .none q.none ++ tagTwice .tags q.tags
    ++ tagTwice .withoutTags q.withoutTags
    ++ (conflictingPairs g q.all).map fun (a, b) => ⟨.conflictingPair a.name b.name, some b.pos⟩

/-- the problems of the queries of a unit -/
def queryProblems (g : ConstraintGraph) (d : Declarations) : List Placed :=
  d.queries.flatMap (Query.problems g)

end Archetype
