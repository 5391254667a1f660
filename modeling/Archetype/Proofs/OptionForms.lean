import Archetype.Proofs.Unplaced
import Mathlib.Data.List.Nodup

/-!
# Forms of the options of a call

The options of a call that declares something stand in a dictionary display or are given by name.
Each option is looked up by itself, first in the dictionary and then among the arguments by name. So
a call is known by the options that it is given at all, in whatever form and order, once none of
them is given twice.

* `Family`                    the calls that take the same options, and where their dictionary
                              stands;
* `Family.given`              the options that a call is given, from both places;
* `option?_eq`                the lookup of one option, as a search through all that is given;
* `option?_eq_some_iff`       what a lookup finds, if no option is given twice;
* `option_forms_alike`        calls that are given the same options declare the same.
-/

namespace Archetype

open Code (Expr Keyword Entry CallSite)

/-- the options that declarations take -/
inductive OptionName where
  | dependencies | conflicts | components | allOf | anyOf | noneOf | tags | withoutTags
  deriving DecidableEq

/-- the ways to write the name of an option -/
def OptionName.spellings : OptionName → List String
  | dependencies => ["dependencies"]
  | conflicts => ["conflicts"]
  | components => ["components"]
  | allOf => ["all"]
  | anyOf => ["any"]
  | noneOf => ["none"]
  | tags => ["tags"]
  | withoutTags => ["without_tags", "withoutTags"]

/-- the calls that declare something, by what they declare -/
inductive Family where
  | validator | template | query

namespace Family

/-- the names of the calls -/
def names : Family → List String
  | validator => validatorNames
  | template => templateNames
  | query => queryNames

/-- the options that the calls take -/
def options : Family → List OptionName
  | validator => [.dependencies, .conflicts]
  | template => [.components]
  | query => [.allOf, .anyOf, .noneOf, .tags, .withoutTags]

/-- the first of two arguments if that is a dictionary, and otherwise the second -/
def dictOr : Option Expr → Option Expr → Option Expr
  | some (.dict pos entries), _ => some (.dict pos entries)
  | _, second => second

/-- where the dictionary of options stands: behind the first argument, or, for a query, also in its
place -/
def slot : Family → CallSite → Option Expr
  | query, c => dictOr (c.place? 0) (c.place? 1)
  | _, c => c.place? 1

/-- is it a call of the family? -/
def Calls (f : Family) (c : CallSite) : Prop := ∃ name ∈ f.names, calledName? c = some name

/-- the option of the family that a name means -/
def optionOf? (f : Family) (name : Option String) : Option OptionName :=
  f.options.find? fun o => name.any (· ∈ o.spellings)

end Family

/-- an entry of a dictionary by the text of its key, if that is a text -/
def Code.Entry.written : Entry → Option String × Expr
  | .pair (.str _ key) value => (some key.text, value)
  | .pair _ value => (none, value)
  | .spread value => (none, value)

/-- the entries of a dictionary display -/
def entriesOf : Option Expr → List Entry
  | some (.dict _ entries) => entries
  | _ => []

/-- all that is written in a dictionary of options and by name, with the names as they are
written -/
def writtenOptions (slot : Option Expr) (keywords : List Keyword) : List (Option String × Expr) :=
  (entriesOf slot).map Entry.written ++ keywords.map fun k => (k.name, k.value)

/-- the options of the family that a call is given; entries and arguments with other names are not
among them -/
def Family.given (f : Family) (c : CallSite) : List (OptionName × Expr) :=
  (writtenOptions (f.slot c) c.keywords).filterMap fun p => (f.optionOf? p.1).map fun o => (o, p.2)

/-- the expression that a shape has for an option -/
def Shape.option? : Shape → OptionName → Option Expr
  | .validator s, .dependencies => s.dependencies
  | .validator s, .conflicts => s.conflicts
  | .template s, .components => s.components
  | .query s, .allOf => s.all
  | .query s, .anyOf => s.any
  | .query s, .noneOf => s.none
  | .query s, .tags => s.tags
  | .query s, .withoutTags => s.withoutTags
  | _, _ => none

/-- the family that a shape belongs to -/
def Shape.family? : Shape → Option Family
  | .validator _ => some .validator
  | .template _ => some .template
  | .query _ => some .query
  | _ => none

/-! ## one search through all that is written -/

/-- what is written under one of the names `keys` -/
def underNames (keys : List String) (p : Option String × Expr) : Option Expr :=
  if p.1.any (· ∈ keys) then some p.2 else none

theorem underNames_written (keys : List String) (e : Entry) :
    underNames keys e.written = entryValue? keys e := by
  cases e with
  | spread value => rfl
  | pair key value =>
    cases key with
    | str pos text => simp [underNames, Entry.written, entryValue?]
    | _ => rfl

theorem dictValue?_eq (slot : Option Expr) (keys : List String) :
    dictValue? slot keys = ((entriesOf slot).map Entry.written).findSome? (underNames keys) := by
  have hentries : dictValue? slot keys = (entriesOf slot).findSome? (entryValue? keys) := by
    cases slot with
    | none => rfl
    | some e => cases e <;> rfl
  rw [hentries, List.findSome?_map]
  congr 1
  funext e
  exact (underNames_written keys e).symm

theorem keyword?_eq (c : CallSite) (keys : List String) :
    c.keyword? keys = (c.keywords.map fun k => (k.name, k.value)).findSome? (underNames keys) := by
  unfold CallSite.keyword?
  rw [List.findSome?_map]
  induction c.keywords with
  | nil => rfl
  | cons k ks ih =>
    rw [List.findSome?_cons, List.find?_cons]
    cases hname : k.name.any (· ∈ keys) <;> simp [underNames, hname, ih]

/-- the lookup of an option is one search, through the dictionary and then the arguments by name -/
theorem option?_eq (c : CallSite) (slot : Option Expr) (keys : List String) :
    c.option? slot keys = (writtenOptions slot c.keywords).findSome? (underNames keys) := by
  unfold CallSite.option? writtenOptions
  rw [dictValue?_eq, keyword?_eq, List.findSome?_append]

/-- no name is a spelling of two options -/
theorem OptionName.eq_of_spelling {o o' : OptionName} {n : String} (h : n ∈ o.spellings)
    (h' : n ∈ o'.spellings) :
    o = o' := by
  have hall : ∀ n ∈ o.spellings, n ∈ o'.spellings → o = o' := by
    cases o <;> cases o' <;> decide
  exact hall n h h'

/-- a name means the option of the family that it is a spelling of -/
theorem optionOf?_eq_some {f : Family} {o : OptionName} (ho : o ∈ f.options)
    (name : Option String) :
    f.optionOf? name = some o ↔ name.any (· ∈ o.spellings) = true := by
  unfold Family.optionOf?
  constructor
  · intro h
    have hfound := List.find?_some h
    exact hfound
  · intro h
    have hsome : (f.options.find? fun o => name.any (· ∈ o.spellings)).isSome = true :=
      List.find?_isSome.mpr ⟨o, ho, h⟩
    obtain ⟨o', ho'⟩ := Option.isSome_iff_exists.mp hsome
    have h' := List.find?_some ho'
    cases name with
    | none => cases h
    | some n =>
      simp only [Option.any_some, decide_eq_true_eq] at h h'
      rw [ho', OptionName.eq_of_spelling h' h]

/-- the search for one option is a search through the options that are given -/
theorem findSome?_given {f : Family} {o : OptionName} (ho : o ∈ f.options)
    (written : List (Option String × Expr)) :
    written.findSome? (underNames o.spellings)
      = ((written.filterMap fun p => (f.optionOf? p.1).map fun o => (o, p.2)).find? fun p =>
        p.1 = o).map Prod.snd := by
  induction written with
  | nil => rfl
  | cons p written ih =>
    rw [List.findSome?_cons, List.filterMap_cons]
    have hmeans := optionOf?_eq_some ho p.1
    by_cases hname : p.1.any (· ∈ o.spellings) = true
    · rw [hmeans.mpr hname]
      simp [underNames, hname]
    · have hother : f.optionOf? p.1 ≠ some o := fun h => hname (hmeans.mp h)
      have hnone : underNames o.spellings p = none := if_neg hname
      rw [hnone]
      cases hopt : f.optionOf? p.1 with
      | none => exact ih
      | some o' =>
        have hne : o' ≠ o := fun e => hother (by rw [hopt, e])
        simp only [Option.map_some, List.find?_cons, decide_eq_false hne]
        exact ih

/-! ## the shape of a call of a family -/

theorem queryShape_eq (c : CallSite) :
    queryShape c = ⟨(queryShape c).name, c.option? (Family.query.slot c) ["all"],
    c.option? (Family.query.slot c) ["any"], c.option? (Family.query.slot c) ["none"],
    c.option? (Family.query.slot c) ["tags"],
    c.option? (Family.query.slot c) ["without_tags", "withoutTags"]⟩ := by
  have hslot : Family.query.slot c = Family.dictOr (c.place? 0) (c.place? 1) := rfl
  rw [hslot]
  unfold queryShape
  generalize c.place? 0 = first
  cases first with
  | none => rfl
  | some e => cases e <;> rfl

/-- a call of a family has a shape of that family, and its options are those that the family
takes -/
theorem Family.Calls.exists_shape {f : Family} {c : CallSite} (h : f.Calls c) :
    ∃ s, classify? c = some s ∧ s.family? = some f ∧
      ∀ o, s.option? o = if o ∈ f.options then c.option? (f.slot c) o.spellings else none := by
  obtain ⟨name, hname, hcalled⟩ := h
  unfold classify?
  simp only [hcalled]
  cases f with
  | validator =>
    have hv : name ∈ validatorNames := hname
    refine ⟨_, if_pos hv, rfl, fun o => ?_⟩
    cases o <;> rfl
  | template =>
    have hall : ∀ n ∈ templateNames, n ∉ validatorNames := by decide
    have ht : name ∈ templateNames := hname
    rw [if_neg (hall name ht), if_pos ht]
    refine ⟨_, rfl, rfl, fun o => ?_⟩
    cases o <;> rfl
  | query =>
    have hall : ∀ n ∈ queryNames, n ∉ validatorNames ∧ n ∉ templateNames := by decide
    have hq : name ∈ queryNames := hname
    rw [if_neg (hall name hq).1, if_neg (hall name hq).2, if_pos hq]
    refine ⟨_, rfl, rfl, fun o => ?_⟩
    rw [queryShape_eq]
    cases o <;> rfl

/-- the subject of declared constraints is the first argument -/
theorem subject_of_classify? {c : CallSite} {s : ValidatorShape}
    (h : classify? c = some (.validator s)) :
    s.subject = c.place? 0 := by
  unfold classify? at h
  split at h
  · cases h
  · rename_i name _
    by_cases hv : name ∈ validatorNames
    · rw [if_pos hv] at h
      cases h
      rfl
    · rw [if_neg hv] at h
      repeat' split at h
      all_goals cases h

/-! ## calls that are given the same options -/

/-- of entries with different names, each is found by its name -/
theorem find?_eq_some_of_mem {β : Type} {l : List (OptionName × β)}
    (hnodup : (l.map Prod.fst).Nodup) {p : OptionName × β} (hp : p ∈ l) :
    (l.find? fun q => q.1 = p.1) = some p := by
  have hsome : (l.find? fun q => q.1 = p.1).isSome = true :=
    List.find?_isSome.mpr ⟨p, hp, decide_eq_true rfl⟩
  obtain ⟨q, hq⟩ := Option.isSome_iff_exists.mp hsome
  have hname : q.1 = p.1 := by simpa using List.find?_some hq
  rw [hq, List.inj_on_of_nodup_map hnodup (List.mem_of_find?_eq_some hq) hp hname]

/-- of entries with different names, the one with a given name does not depend on their order -/
theorem find?_eq_of_perm {β : Type} {l l' : List (OptionName × β)} (hperm : l.Perm l')
    (hnodup : (l.map Prod.fst).Nodup) (o : OptionName) :
    (l.find? fun p => p.1 = o) = l'.find? fun p => p.1 = o := by
  cases hfind : l.find? fun p => p.1 = o with
  | some p =>
    obtain rfl : p.1 = o := by simpa using List.find?_some hfind
    have hp : p ∈ l' := hperm.subset (List.mem_of_find?_eq_some hfind)
    exact (find?_eq_some_of_mem ((hperm.map Prod.fst).nodup_iff.mp hnodup) hp).symm
  | none =>
    symm
    rw [List.find?_eq_none] at hfind ⊢
    intro p hp
    exact hfind p (hperm.symm.subset hp)

/-- a family is given none but its own options -/
theorem mem_options_of_mem_given {f : Family} {c : CallSite} {o : OptionName} {e : Expr}
    (h : (o, e) ∈ f.given c) : o ∈ f.options := by
  obtain ⟨p, _, hp⟩ := List.mem_filterMap.mp h
  obtain ⟨o', ho', heq⟩ := Option.map_eq_some_iff.mp hp
  cases heq
  exact List.mem_of_find?_eq_some ho'

/-- if no option is given twice, the lookup of an option finds the expression that it is given -/
theorem option?_eq_some_iff {f : Family} {c : CallSite} (honce : ((f.given c).map Prod.fst).Nodup)
    {o : OptionName} (ho : o ∈ f.options) (e : Expr) :
    c.option? (f.slot c) o.spellings = some e ↔ (o, e) ∈ f.given c := by
  have hsearch : c.option? (f.slot c) o.spellings
      = ((f.given c).find? fun p => p.1 = o).map Prod.snd := by
    rw [option?_eq, findSome?_given ho]
    rfl
  rw [hsearch]
  constructor
  · intro h
    obtain ⟨⟨o', _⟩, hfind, rfl⟩ := Option.map_eq_some_iff.mp h
    obtain rfl : o' = o := by simpa using List.find?_some hfind
    exact List.mem_of_find?_eq_some hfind
  · intro h
    rw [find?_eq_some_of_mem honce h]
    rfl

/-- so it is for the options of a shape, if those are what the lookups find -/
theorem option?_shape_iff {f : Family} {c : CallSite} {s : Shape}
    (honce : ((f.given c).map Prod.fst).Nodup)
    (hoption : ∀ o, s.option? o = if o ∈ f.options then c.option? (f.slot c) o.spellings else none)
    (o : OptionName) (e : Expr) : s.option? o = some e ↔ (o, e) ∈ f.given c := by
  rw [hoption]
  by_cases ho : o ∈ f.options
  · rw [if_pos ho, option?_eq_some_iff honce ho]
  · rw [if_neg ho]
    exact ⟨(nomatch ·), fun h => absurd (mem_options_of_mem_given h) ho⟩

/-- what is given, seen through `view`, decides every option, seen through `view` -/
theorem option?_eq_of_given {β : Type} (view : Expr → β) {f : Family} {c c' : CallSite}
    (honce : ((f.given c).map Prod.fst).Nodup)
    (hgiven : ((f.given c).map (Prod.map id view)).Perm ((f.given c').map (Prod.map id view)))
    {o : OptionName} (ho : o ∈ f.options) :
    (c.option? (f.slot c) o.spellings).map view
      = (c'.option? (f.slot c') o.spellings).map view := by
  have hview : ∀ l : List (OptionName × Expr), ((l.find? fun p => p.1 = o).map Prod.snd).map view
      = ((l.map (Prod.map id view)).find? fun p => p.1 = o).map Prod.snd := by
    intro l
    rw [List.find?_map, Option.map_map, Option.map_map]
    rfl
  have hnames : ((f.given c).map (Prod.map id view)).map Prod.fst = (f.given c).map Prod.fst := by
    rw [List.map_map]
    rfl
  rw [option?_eq, option?_eq, findSome?_given ho, findSome?_given ho]
  change ((((f.given c).find? fun p => p.1 = o).map Prod.snd).map view) =
    ((((f.given c').find? fun p => p.1 = o).map Prod.snd).map view)
  rw [hview, hview, find?_eq_of_perm hgiven (hnames ▸ honce)]

/-- the component, and the names that are listed as options -/
def Validator.said (v : Validator) : String × List String × List String :=
  (v.subject.name, v.dependencies.map Mention.name, v.conflicts.map Mention.name)

/-- the names that are listed as options -/
def Template.said (t : Template) : List String := t.components.map Mention.name

/-- the names and texts that are listed as options -/
def Query.said (q : Query) :
    (List String × List String × List String) × List Text.CodePoints × List Text.CodePoints :=
  ((q.all.map Mention.name, q.any.map Mention.name, q.none.map Mention.name),
    q.tags.map Mention.name, q.withoutTags.map Mention.name)

theorem map_eq_map_of_isSome {α β : Type} {x y : Option α} {f : α → β} (hsome : x.isSome = y.isSome)
    (h : ∀ a b, x = some a → y = some b → f a = f b) : x.map f = y.map f := by
  cases x with
  | none => cases y with
    | none => rfl
    | some b => cases hsome
  | some a => cases y with
    | none => cases hsome
    | some b => exact congrArg some (h a b rfl rfl)

section
variable {r : Resolver} {c c' : CallSite}

/-- constraints with the subject and the options written alike say the same -/
theorem validator_said_eq {s s' : ValidatorShape} (hs : classify? c = some (.validator s))
    (hs' : classify? c' = some (.validator s'))
    (hsubject : s.subject.map Expr.unplaced = s'.subject.map Expr.unplaced)
    (hdependencies : s.dependencies.map Expr.unplaced = s'.dependencies.map Expr.unplaced)
    (hconflicts : s.conflicts.map Expr.unplaced = s'.conflicts.map Expr.unplaced) :
    (declaredBy r.validatorIn? c).map Validator.said
      = (declaredBy r.validatorIn? c').map Validator.said := by
  have hcomponent : r.component? s.subject = r.component? s'.subject := by
    rw [← component?_unplaced, hsubject, component?_unplaced]
  have hreads : ∀ e : Expr, r.component? (some e.unplaced) = r.component? (some e) :=
    fun e => component?_unplaced r (some e)
  refine map_eq_map_of_isSome ?_ fun v v' hv hv' => ?_
  · rw [r.isSome_validatorIn?, r.isSome_validatorIn?]
    unfold Resolver.isValidator
    rw [hs, hs']
    simp only [hcomponent]
  · obtain ⟨_, ⟨t, ht, hsub, hdep, hcon, _⟩, hname, _⟩ := Resolver.gives_of_validatorIn? hv
    obtain ⟨_, ⟨t', ht', hsub', hdep', hcon', _⟩, hname', _⟩ := Resolver.gives_of_validatorIn? hv'
    cases hs.symm.trans ht
    cases hs'.symm.trans ht'
    have hsubjects : v.subject.name = v'.subject.name := by
      rw [hsub, hsub', hname, hname'] at hcomponent
      exact Option.some.inj hcomponent
    unfold Validator.said
    rw [hsubjects, hdep.map_name_eq hreads hdep' hdependencies,
      hcon.map_name_eq hreads hcon' hconflicts]

/-- templates with the components written alike say the same -/
theorem template_said_eq {s s' : TemplateShape} (hs : classify? c = some (.template s))
    (hs' : classify? c' = some (.template s'))
    (hcomponents : s.components.map Expr.unplaced = s'.components.map Expr.unplaced) :
    (declaredBy r.templateIn? c).map Template.said
      = (declaredBy r.templateIn? c').map Template.said := by
  have hdisplay : ∀ e : Option Expr, isDisplay (e.map Expr.unplaced) = isDisplay e := by
    intro e
    cases e with
    | none => rfl
    | some e => cases e <;> rfl
  have hreads : ∀ e : Expr, r.component? (entryMeaning e.unplaced)
      = r.component? (entryMeaning e) := by
    intro e
    rw [entryMeaning_unplaced, component?_unplaced]
  refine map_eq_map_of_isSome ?_ fun t t' ht ht' => ?_
  · rw [r.isSome_templateIn?, r.isSome_templateIn?]
    unfold isTemplate
    rw [hs, hs']
    simp only
    rw [← hdisplay, hcomponents, hdisplay]
  · obtain ⟨_, a, ha, _, hcom⟩ := Resolver.gives_of_templateIn? ht
    obtain ⟨_, a', ha', _, hcom'⟩ := Resolver.gives_of_templateIn? ht'
    cases hs.symm.trans ha
    cases hs'.symm.trans ha'
    exact hcom.map_name_eq hreads hcom' hcomponents

/-- queries with the options written alike say the same -/
theorem query_said_eq {s s' : QueryShape} (hs : classify? c = some (.query s))
    (hs' : classify? c' = some (.query s'))
    (halike : ∀ o, ((Shape.query s).option? o).map Expr.unplaced
      = ((Shape.query s').option? o).map Expr.unplaced) :
    (declaredBy r.queryIn? c).map Query.said = (declaredBy r.queryIn? c').map Query.said := by
  have hreads : ∀ e : Expr, r.component? (some e.unplaced) = r.component? (some e) :=
    fun e => component?_unplaced r (some e)
  refine map_eq_map_of_isSome ?_ fun q q' hq hq' => ?_
  · rw [r.isSome_queryIn?, r.isSome_queryIn?]
    unfold isQuery
    rw [hs, hs']
  · obtain ⟨_, a, ha, _, hall, hany, hnone, htags, hwithout⟩ := Resolver.gives_of_queryIn? hq
    obtain ⟨_, a', ha', _, hall', hany', hnone', htags', hwithout'⟩ :=
      Resolver.gives_of_queryIn? hq'
    cases hs.symm.trans ha
    cases hs'.symm.trans ha'
    unfold Query.said
    rw [hall.map_name_eq hreads hall' (halike .allOf),
      hany.map_name_eq hreads hany' (halike .anyOf),
      hnone.map_name_eq hreads hnone' (halike .noneOf),
      htags.map_name_eq constant?_unplaced htags' (halike .tags),
      hwithout.map_name_eq constant?_unplaced hwithout' (halike .withoutTags)]

end

/-- Forms of options are interchangeable. Let two calls of one family be given the same options,
each once, in a dictionary or by name and in any order, beside entries and arguments with other
names, and let the expressions of each option be written alike. Then both calls have shapes whose
options are the expressions that the calls are given. They are written alike, and the very same if
they stand at the same places, and the same names are read off them. -/
theorem option_forms_alike {f : Family} {c c' : CallSite} (hc : f.Calls c) (hc' : f.Calls c')
    (honce : ((f.given c).map Prod.fst).Nodup)
    (halike : ((f.given c).map (Prod.map id Expr.unplaced)).Perm
      ((f.given c').map (Prod.map id Expr.unplaced))) :
    ∃ s s', classify? c = some s ∧ classify? c' = some s' ∧ s.family? = some f ∧
    s'.family? = some f ∧
      (∀ o e, s.option? o = some e ↔ (o, e) ∈ f.given c) ∧
      (∀ o e, s'.option? o = some e ↔ (o, e) ∈ f.given c') ∧
      (∀ o, (s.option? o).map Expr.unplaced = (s'.option? o).map Expr.unplaced) ∧
      ((f.given c).Perm (f.given c') → ∀ o, s.option? o = s'.option? o) ∧
      ∀ r : Resolver,
        ((c.place? 0).map Expr.unplaced = (c'.place? 0).map Expr.unplaced →
          (declaredBy r.validatorIn? c).map Validator.said
            = (declaredBy r.validatorIn? c').map Validator.said) ∧
        (declaredBy r.templateIn? c).map Template.said
          = (declaredBy r.templateIn? c').map Template.said ∧
        (declaredBy r.queryIn? c).map Query.said = (declaredBy r.queryIn? c').map Query.said := by
  obtain ⟨s, hs, hfamily, hoption⟩ := hc.exists_shape
  obtain ⟨s', hs', hfamily', hoption'⟩ := hc'.exists_shape
  have hview : ∀ {β : Type} (view : Expr → β),
      ((f.given c).map (Prod.map id view)).Perm ((f.given c').map (Prod.map id view)) →
      ∀ o, (s.option? o).map view = (s'.option? o).map view := by
    intro β view hperm o
    rw [hoption, hoption']
    by_cases ho : o ∈ f.options
    · rw [if_pos ho, if_pos ho, option?_eq_of_given view honce hperm ho]
    · rw [if_neg ho, if_neg ho]
  have hunplaced := hview Expr.unplaced halike
  have honce' : ((f.given c').map Prod.fst).Nodup := by
    have hnames := halike.map Prod.fst
    rw [List.map_map, List.map_map] at hnames
    exact hnames.nodup_iff.mp honce
  refine ⟨s, s', hs, hs', hfamily, hfamily', option?_shape_iff honce hoption,
    option?_shape_iff honce' hoption', hunplaced, ?_, fun r => ?_⟩
  · intro hperm o
    have hid := hview id (hperm.map _) o
    rwa [Option.map_id, id, id] at hid
  · -- a shape of another family declares nothing of the kind
    have hother : ∀ {β γ : Type} (read : CallSite → Shape → Option β) (said : β → γ),
      read c s = none →
        read c' s' = none → (declaredBy read c).map said = (declaredBy read c').map said := by
      intro β γ read said h h'
      unfold declaredBy
      rw [hs, hs', Option.bind_some, Option.bind_some, h, h']
    cases f with
    | validator =>
      cases s <;> cases hfamily
      cases s' <;> cases hfamily'
      refine ⟨fun hsubject => ?_, hother _ _ rfl rfl, hother _ _ rfl rfl⟩
      refine validator_said_eq hs hs' ?_ (hunplaced .dependencies) (hunplaced .conflicts)
      rw [subject_of_classify? hs, subject_of_classify? hs', hsubject]
    | template =>
      cases s <;> cases hfamily
      cases s' <;> cases hfamily'
      exact ⟨fun _ => hother _ _ rfl rfl, template_said_eq hs hs' (hunplaced .components),
        hother _ _ rfl rfl⟩
    | query =>
      cases s <;> cases hfamily
      cases s' <;> cases hfamily'
      exact ⟨fun _ => hother _ _ rfl rfl, hother _ _ rfl rfl, query_said_eq hs hs' hunplaced⟩

/-- the list display of some names, with `place` for all places -/
def namesAt (place : Code.Position) (names : List String) : Expr :=
  .row place .list (names.map (.name place))

/-- the list display of a text -/
def textAt (place : Code.Position) (text : String) : Expr :=
  .row place .list [.str place (.ofChars text.toList)]

/-- `create_query("near", {"all": [A, B], "without_tags": ["old"]}, none=[C])` -/
def queryWithDict : CallSite :=
  let here : Code.Position := ⟨1, 0⟩
  { pos := here, func := .name here "create_query",
    args := [.str here (.ofChars "near".toList),
      .dict here [.pair (.str here (.ofChars "all".toList)) (namesAt here ["A", "B"]),
        .pair (.str here (.ofChars "without_tags".toList)) (textAt here "old")]],
    keywords := [.mk (some "none") (namesAt here ["C"])] }

/-- `world.createQuery({**shared, "none": [C]}, withoutTags=["old"], label=near, all=[A, B])` -/
def queryWithNames : CallSite :=
  let here : Code.Position := ⟨7, 4⟩
  { pos := here, func := .member here (.name here "world") "createQuery",
    args := [.dict here [.spread (.name here "shared"),
      .pair (.str here (.ofChars "none".toList)) (namesAt here ["C"])]],
    keywords :=
      [.mk (some "withoutTags") (textAt here "old"), .mk (some "label") (.name here "near"),
        .mk (some "all") (namesAt here ["A", "B"])] }

theorem given_queryWithDict : Family.query.given queryWithDict =
    [(.allOf, namesAt ⟨1, 0⟩ ["A", "B"]), (.withoutTags, textAt ⟨1, 0⟩ "old"),
      (.noneOf, namesAt ⟨1, 0⟩ ["C"])] := by
  rfl

theorem given_queryWithNames : Family.query.given queryWithNames =
    [(.noneOf, namesAt ⟨7, 4⟩ ["C"]), (.withoutTags, textAt ⟨7, 4⟩ "old"),
      (.allOf, namesAt ⟨7, 4⟩ ["A", "B"])] := by
  rfl

/-- a query with its dictionary behind its name says what one with its dictionary in front says -/
theorem option_forms_alike_twoQueries :
    ((Family.query.given queryWithDict).map Prod.fst).Nodup ∧
    (declaredBy (Resolver.queryIn? ⟨"main", none⟩) queryWithDict).map Query.said
      = (declaredBy (Resolver.queryIn? ⟨"main", none⟩) queryWithNames).map Query.said ∧
    (declaredBy (Resolver.queryIn? ⟨"main", none⟩) queryWithNames).map Query.said
      = some ((["A", "B"], [], ["C"]), [], [.ofChars "old".toList]) := by
  have honce : ((Family.query.given queryWithDict).map Prod.fst).Nodup := by
    rw [given_queryWithDict]
    decide
  have halike : ((Family.query.given queryWithDict).map (Prod.map id Expr.unplaced)).Perm
      ((Family.query.given queryWithNames).map (Prod.map id Expr.unplaced)) := by
    rw [given_queryWithDict, given_queryWithNames]
    exact (List.reverse_perm _).symm
  have h : Family.query.Calls queryWithDict := ⟨"create_query", by decide, rfl⟩
  have h' : Family.query.Calls queryWithNames := ⟨"createQuery", by decide, rfl⟩
  obtain ⟨_, _, _, _, _, _, _, _, _, _, hsaid⟩ := option_forms_alike h h' honce halike
  exact ⟨honce, (hsaid ⟨"main", none⟩).2.2, by decide +kernel⟩

end Archetype
