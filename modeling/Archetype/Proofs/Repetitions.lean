import Archetype.Proofs.QueryVerdict
import Archetype.Proofs.Reachability

/-!
# Names that are listed twice

Declarations and queries should name nothing twice, and each kind is searched in its own way. A list
of a declaration is read once for the names that come up again, and then once more for each of them;
a list of a query is read once, with the names that have come up and those that were told. Both find
the same: for each name that is there at least twice, its second mention.

* `Scanned`              what a scan knows of the names it has read: the invariant of both;
* `IsSecond`             the second mention of a name;
* `mem_repeated`         the names that come up again;
* `mem_secondsFrom`      the mentions that a scan tells;
* `againFrom?_eq_some`   the mention that repeats a name;
* `repetitions_agree`    both searches, on the same list.
-/

namespace Archetype

/-! ## what a scan knows -/

section
variable {κ : Type} [DecidableEq κ]

/-- after `front` was read, `seen` are the names that have come up, and `again` those that have come
up again -/
structure Scanned (front seen again : List κ) : Prop where
  seen : ∀ x, x ∈ seen ↔ 1 ≤ front.count x
  again : ∀ x, x ∈ again ↔ 2 ≤ front.count x

theorem scanned_nil : Scanned ([] : List κ) [] [] := ⟨by simp, by simp⟩

/-- a name that is read has come up, and has come up again if it had before -/
theorem Scanned.concat {front seen again seen' again' : List κ}
    (h : Scanned front seen again) {n : κ} (hseen : ∀ x, x ∈ seen' ↔ x = n ∨ x ∈ seen)
    (hagain : ∀ x, x ∈ again' ↔ (x = n ∧ n ∈ seen) ∨ x ∈ again) :
    Scanned (front ++ [n]) seen' again' := by
  have hcount : ∀ x, (front ++ [n]).count x = front.count x + if n = x then 1 else 0 := by
    intro x
    rw [List.count_append, List.count_singleton]
    simp only [beq_iff_eq]
  refine ⟨fun x => ?_, fun x => ?_⟩
  · rw [hseen, h.seen, hcount]
    by_cases e : n = x
    · simp [e]
    · simp [e, Ne.symm e]
  · rw [hagain, h.again, h.seen, hcount]
    by_cases e : n = x
    · subst e
      simp only [true_and, if_pos]
      omega
    · simp [e, Ne.symm e]

end

/-! ## names that come up again -/

theorem scanned_repeatedFrom {front seen found : List String} (h : Scanned front seen found)
    (names : List String) :
    ∃ seen', Scanned (front ++ names) seen' (repeatedFrom seen found names) := by
  induction names generalizing front seen found with
  | nil => exact ⟨seen, by simpa [repeatedFrom] using h⟩
  | cons n rest ih =>
    have hstep : Scanned (front ++ [n]) (Names.add seen n)
        (if n ∈ seen then Names.add found n else found) := by
      refine h.concat (fun x => ?_) fun x => ?_
      · rw [Names.mem_add, or_comm]
      · split
        · rename_i hn
          rw [Names.mem_add, or_comm, and_iff_left hn]
        · rename_i hn
          simp [hn]
    obtain ⟨seen', hseen'⟩ := ih hstep
    rw [List.append_assoc] at hseen'
    exact ⟨seen', hseen'⟩

theorem nodup_repeatedFrom (seen : Names) {found : Names} (h : found.Nodup) (names : List String) :
    (repeatedFrom seen found names).Nodup := by
  induction names generalizing seen found with
  | nil => exact h
  | cons n rest ih =>
    have hfound : (if n ∈ seen then Names.add found n else found).Nodup := by
      split
      · exact Names.nodup_add h n
      · exact h
    exact ih (Names.add seen n) hfound

theorem mem_repeated (names : List String) (x : String) :
    x ∈ repeated names ↔ 2 ≤ names.count x := by
  obtain ⟨seen, h⟩ := scanned_repeatedFrom scanned_nil names
  exact h.again x

/-! ## second mentions -/

section
variable {κ : Type} [DecidableEq κ]

/-- just one mention of its name stands before `r` -/
def IsSecond (refs : List (Mention κ)) (r : Mention κ) : Prop :=
  ∃ front back, refs = front ++ r :: back ∧ (front.map (·.name)).count r.name = 1

/-- an element is the first of a list, or one of the rest -/
theorem exists_split_cons {α : Type} (x : α) (rest : List α) (r : α) (P : List α → Prop) :
    (∃ front back, x :: rest = front ++ r :: back ∧ P front) ↔
      (r = x ∧ P []) ∨ ∃ front back, rest = front ++ r :: back ∧ P (x :: front) := by
  constructor
  · rintro ⟨front, back, hsplit, hP⟩
    cases front with
    | nil =>
      obtain ⟨rfl, rfl⟩ := List.cons.inj hsplit
      exact Or.inl ⟨rfl, hP⟩
    | cons y front =>
      obtain ⟨rfl, hrest⟩ := List.cons.inj hsplit
      exact Or.inr ⟨front, back, hrest, hP⟩
  · rintro (⟨rfl, hP⟩ | ⟨front, back, rfl, hP⟩)
    · exact ⟨[], rest, rfl, hP⟩
    · exact ⟨x :: front, back, rfl, hP⟩

/-- a scan tells the mentions before which their names have come up once, among all that was read -/
theorem mem_secondsFrom {front seen told : List κ} (h : Scanned front seen told)
    (refs : List (Mention κ)) (r : Mention κ) : r ∈ secondsFrom seen told refs ↔
      ∃ before behind, refs = before ++ r :: behind ∧ (front ++ before.map (·.name)).count r.name
        = 1 := by
  induction refs generalizing front seen told with
  | nil => simp [secondsFrom]
  | cons x rest ih =>
    have hone : x.name ∈ seen ∧ x.name ∉ told ↔ front.count x.name = 1 := by
      rw [h.seen, h.again]
      omega
    have hstep : ∀ told', (∀ y, y ∈ told' ↔ (y = x.name ∧ x.name ∈ seen) ∨ y ∈ told) →
        (r ∈ secondsFrom (x.name :: seen) told' rest ↔
          ∃ before behind, rest = before ++ r :: behind ∧
            (front ++ (x :: before).map (·.name)).count r.name = 1) := by
      intro told' htold'
      have hscanned : Scanned (front ++ [x.name]) (x.name :: seen) told' :=
        h.concat (fun y => List.mem_cons) htold'
      rw [ih hscanned]
      simp only [List.map_cons, List.append_assoc, List.singleton_append]
    rw [exists_split_cons, List.map_nil, List.append_nil, secondsFrom]
    split
    · rename_i hx
      have htold : ∀ y, y ∈ x.name :: told ↔ (y = x.name ∧ x.name ∈ seen) ∨ y ∈ told := by
        intro y
        rw [List.mem_cons, and_iff_left hx.1]
      rw [List.mem_cons, hstep _ htold]
      refine or_congr_left ⟨?_, And.left⟩
      rintro rfl
      exact ⟨rfl, hone.mp hx⟩
    · rename_i hx
      have htold : ∀ y, y ∈ told ↔ (y = x.name ∧ x.name ∈ seen) ∨ y ∈ told := by
        intro y
        refine ⟨Or.inr, ?_⟩
        rintro (⟨rfl, hseen⟩ | hy)
        · exact not_not.mp fun hnot => hx ⟨hseen, hnot⟩
        · exact hy
      rw [hstep _ htold, or_iff_right]
      rintro ⟨rfl, hcount⟩
      exact hx (hone.mpr hcount)

theorem mem_seconds (refs : List (Mention κ)) (r : Mention κ) :
    r ∈ seconds refs ↔ IsSecond refs r :=
  mem_secondsFrom scanned_nil refs r

/-- a name is told once -/
theorem nodup_secondsFrom (seen told : List κ) (refs : List (Mention κ)) :
    ((secondsFrom seen told refs).map (·.name)).Nodup ∧
    ∀ r ∈ secondsFrom seen told refs, r.name ∉ told := by
  induction refs generalizing seen told with
  | nil => exact ⟨List.nodup_nil, fun r hr => absurd hr List.not_mem_nil⟩
  | cons x rest ih =>
    rw [secondsFrom]
    split
    · rename_i hx
      obtain ⟨hnodup, hnot⟩ := ih (x.name :: seen) (x.name :: told)
      have hhead : x.name ∉ (secondsFrom (x.name :: seen) (x.name :: told) rest).map (·.name) := by
        intro hmem
        obtain ⟨r, hr, hname⟩ := List.mem_map.mp hmem
        exact hnot r hr (hname ▸ List.mem_cons_self ..)
      refine ⟨List.nodup_cons.mpr ⟨hhead, hnodup⟩, fun r hr => ?_⟩
      rcases List.mem_cons.mp hr with rfl | hr
      · exact hx.2
      · exact fun hmem => hnot r hr (List.mem_cons_of_mem _ hmem)
    · exact ih (x.name :: seen) told

end

/-! ## the mention that repeats a name -/

theorem againFrom?_eq_some (name : String) (met : Bool) (refs : List Reference) (r : Reference) :
    againFrom? name met refs = some r ↔ r.name = name ∧
      ∃ front back, refs = front ++ r :: back ∧ (front.map (·.name)).count name + met.toNat
        = 1 := by
  induction refs generalizing met with
  | nil => simp [againFrom?]
  | cons x rest ih =>
    rw [exists_split_cons, againFrom?]
    by_cases hx : x.name = name
    · rw [if_pos hx]
      cases met with
      | true =>
        -- the mention at hand is the one, as any later one has two before it
        have hlater : ∀ front : List Reference, ((x :: front).map (·.name)).count name + true.toNat
            ≠ 1 := by
          intro front
          rw [List.map_cons, hx, List.count_cons_self]
          simp
        simp only [if_true, Option.some.injEq, hlater, and_false, exists_false, or_false]
        constructor
        · rintro rfl
          exact ⟨hx, rfl, rfl⟩
        · rintro ⟨_, rfl, _⟩
          rfl
      | false =>
        rw [if_neg Bool.false_ne_true, ih true]
        simp [hx]
    · rw [if_neg hx, ih met]
      have hcount : ∀ front : List Reference,
          ((x :: front).map (·.name)).count name = (front.map (·.name)).count name :=
        fun front => List.count_cons_of_ne hx
      have hfirst : ¬ (r.name = name ∧ r = x ∧
          ((([] : List Reference).map (·.name)).count name + met.toNat = 1)) := by
        rintro ⟨hr, rfl, _⟩
        exact hx hr
      simp only [hcount]
      grind

/-- a name that is there twice is repeated by some mention -/
theorem exists_again (name : String) (met : Bool) (refs : List Reference)
    (h : 2 ≤ (refs.map (·.name)).count name + met.toNat) :
    ∃ r, againFrom? name met refs = some r := by
  induction refs generalizing met with
  | nil =>
    have hmet := met.toNat_le
    simp only [List.map_nil, List.count_nil] at h
    omega
  | cons x rest ih =>
    rw [againFrom?]
    by_cases hx : x.name = name
    · rw [if_pos hx]
      cases met with
      | true => exact ⟨x, rfl⟩
      | false =>
        rw [List.map_cons, hx, List.count_cons_self] at h
        exact ih true (by simpa using h)
    · rw [if_neg hx]
      rw [List.map_cons, List.count_cons_of_ne hx] at h
      exact ih met h

theorem again_iff_isSecond (refs : List Reference) (name : String) (r : Reference) :
    againFrom? name false refs = some r ↔ r.name = name ∧ IsSecond refs r := by
  rw [againFrom?_eq_some]
  refine and_congr_right fun hname => ?_
  subst hname
  rfl

/-! ## both searches -/

theorem IsSecond.two_le_count {refs : List Reference} {r : Reference} (h : IsSecond refs r) :
    2 ≤ (refs.map (·.name)).count r.name := by
  obtain ⟨front, back, rfl, hcount⟩ := h
  rw [List.map_append, List.count_append, hcount, List.map_cons, List.count_cons_self]
  omega

/-- what a list is searched for is found: the start of the list is never taken instead -/
theorem repeatOf?_of_repeated {refs : List Reference} {name : String}
    (h : name ∈ repeated (refs.map (·.name))) :
    ∃ r, againFrom? name false refs = some r ∧ repeatOf? refs name = some r := by
  obtain ⟨r, hr⟩ := exists_again name false refs ((mem_repeated _ name).mp h)
  refine ⟨r, hr, ?_⟩
  unfold repeatOf?
  rw [hr]
  rfl

theorem mem_repeats (refs : List Reference) (name : String) (r : Reference) :
    (name, r) ∈ repeats refs ↔ r.name = name ∧ IsSecond refs r := by
  unfold repeats
  rw [List.mem_filterMap, ← again_iff_isSecond]
  constructor
  · rintro ⟨n, hn, h⟩
    rw [Names.mem_sorted] at hn
    obtain ⟨r', hagain, hrepeat⟩ := repeatOf?_of_repeated hn
    rw [hrepeat] at h
    obtain ⟨rfl, rfl⟩ := Prod.mk.inj (Option.some.inj h)
    exact hagain
  · intro h
    obtain ⟨rfl, hsecond⟩ := (again_iff_isSecond refs name r).mp h
    refine ⟨r.name, (Names.mem_sorted _ _).mpr ((mem_repeated _ _).mpr hsecond.two_le_count), ?_⟩
    unfold repeatOf?
    rw [h]
    rfl

/-- each name that comes up again is reported, in the order of the names -/
theorem map_fst_repeats (refs : List Reference) :
    (repeats refs).map Prod.fst = Names.sorted (repeated (refs.map (·.name))) := by
  have hname : ∀ name ∈ Names.sorted (repeated (refs.map (·.name))),
      ((repeatOf? refs name).map (name, ·)).map Prod.fst = some name := by
    intro name hmem
    obtain ⟨r, _, hr⟩ := repeatOf?_of_repeated ((Names.mem_sorted _ _).mp hmem)
    rw [hr]
    rfl
  unfold repeats
  rw [List.map_filterMap, List.filterMap_congr hname, List.filterMap_some]

/-- The search of a declaration and the search of a query find the same in a list: for each name
that is there at least twice, and for no other, one mention, the second one. The search of a
declaration would take the start of the list if no mention repeated a name, but some mention always
does. -/
theorem repetitions_agree (refs : List Reference) :
    (∀ e, e ∈ repeats refs ↔ e ∈ (seconds refs).map fun r => (r.name, r)) ∧
    (∀ name r, (name, r) ∈ repeats refs ↔ r.name = name ∧ IsSecond refs r) ∧
    ListsOnce ((repeats refs).map Prod.fst) (fun name => 2 ≤ (refs.map (·.name)).count name) ∧
    ListsOnce ((seconds refs).map (·.name)) (fun name => 2 ≤ (refs.map (·.name)).count name) ∧
    ∀ name ∈ repeated (refs.map (·.name)), ∃ r, againFrom? name false refs = some r ∧
    repeatOf? refs name = some r := by
  have hsame : ∀ e, e ∈ repeats refs ↔ e ∈ (seconds refs).map fun r => (r.name, r) := by
    rintro ⟨name, r⟩
    rw [mem_repeats, List.mem_map]
    constructor
    · rintro ⟨rfl, hsecond⟩
      exact ⟨r, (mem_seconds refs r).mpr hsecond, rfl⟩
    · rintro ⟨r', hr', heq⟩
      obtain ⟨rfl, rfl⟩ := Prod.mk.inj heq
      exact ⟨rfl, (mem_seconds refs r').mp hr'⟩
  have hnames : ∀ name, name ∈ (repeats refs).map Prod.fst ↔
      2 ≤ (refs.map (·.name)).count name := by
    intro name
    rw [map_fst_repeats, Names.mem_sorted, mem_repeated]
  refine ⟨hsame, mem_repeats refs, ⟨?_, hnames⟩, ⟨(nodup_secondsFrom [] [] refs).1, fun name => ?_⟩,
    fun name => repeatOf?_of_repeated⟩
  · rw [map_fst_repeats]
    exact Names.nodup_sorted (nodup_repeatedFrom [] List.nodup_nil _)
  · rw [← hnames, List.mem_map, List.mem_map]
    constructor
    · rintro ⟨r, hr, rfl⟩
      exact ⟨(r.name, r), (hsame _).mpr (List.mem_map_of_mem hr), rfl⟩
    · rintro ⟨e, he, rfl⟩
      obtain ⟨r, hr, rfl⟩ := List.mem_map.mp ((hsame e).mp he)
      exact ⟨r, hr, rfl⟩

/-- a list that has one name three times, with another name between -/
def thrice : List Reference := [⟨"A", ⟨1, 0⟩⟩, ⟨"B", ⟨1, 3⟩⟩, ⟨"A", ⟨1, 6⟩⟩, ⟨"A", ⟨1, 9⟩⟩]

theorem repetitions_agree_thrice :
    "A" ∈ repeated (thrice.map (·.name)) ∧ repeatOf? thrice "A" = some ⟨"A", ⟨1, 6⟩⟩ ∧
      ("A", ⟨"A", ⟨1, 6⟩⟩) ∈ repeats thrice := by
  have hmem : "A" ∈ repeated (thrice.map (·.name)) := by decide
  obtain ⟨hsame, _, _, _, hfound⟩ := repetitions_agree thrice
  obtain ⟨r, hagain, hrepeat⟩ := hfound "A" hmem
  have hr : some r = some ⟨"A", ⟨1, 6⟩⟩ := hagain.symm.trans (by decide)
  refine ⟨hmem, hrepeat.trans hr, (hsame _).mpr ?_⟩
  decide

end Archetype
