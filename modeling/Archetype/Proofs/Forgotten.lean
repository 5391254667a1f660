import Archetype.Proofs.Rebindings

/-!
# Names that no longer stand for an entity

A statement that neither creates entities nor attaches to them, and that gives no name what another
name stands for, can only take names away. Which ones is a matter of where it binds names.

* `Tracker.without`            what is known without some of the names;
* `track_eq_without` …         reading code takes away the names that it binds in sight, and does
                               nothing else;
* `rebound_names_forgotten`    so a statement takes away the names that it binds or deletes, and
                               those of its class bodies with them, but not always one that it binds
                               out of sight alone.
-/

namespace Archetype

open Code Rebinding

/-! ## names taken away -/

/-- the names stand for no entity -/
def Tracker.without (t : Tracker) (forgotten : List String) : Tracker :=
  { t with names := t.names.filter fun e => !forgotten.contains e.1 }

namespace Tracker

@[simp] theorem without_nil (t : Tracker) : t.without [] = t := by
  have hsame : (t.names.filter fun e => !([] : List String).contains e.1) = t.names :=
    List.filter_eq_self.mpr fun _ _ => rfl
  rw [without, hsame]

@[simp] theorem without_append (t : Tracker) (xs ys : List String) :
    t.without (xs ++ ys) = (t.without xs).without ys := by
  simp only [without, List.filter_filter, List.contains_append, Bool.not_or, Bool.and_comm]

theorem drop_eq_without (t : Tracker) (x : String) : t.drop x = t.without [x] := by
  have herase : ∀ m : Assoc Nat, m.erase x = m.filter fun e =>
      !([x] : List String).contains e.1 := by
    intro m
    induction m with
    | nil => rfl
    | cons e m ih =>
      by_cases h : e.1 = x
      · simp [Assoc.erase, h, ih]
      · simp [Assoc.erase, h, ih]
  rw [drop, without, herase]

theorem dropAll_eq_without (xs : List String) (t : Tracker) : t.dropAll xs = t.without xs := by
  induction xs generalizing t with
  | nil => exact (without_nil t).symm
  | cons x xs ih =>
    calc t.dropAll (x :: xs)
      _ = (t.drop x).dropAll xs := rfl
      _ = (t.without [x]).without xs := by rw [ih, drop_eq_without]
      _ = t.without (x :: xs) := (without_append t [x] xs).symm

theorem drop?_eq_without (t : Tracker) (x : Option String) : t.drop? x = t.without x.toList := by
  cases x with
  | none => exact (without_nil t).symm
  | some x => exact drop_eq_without t x

/-- code that only takes names away leaves no trace when it is read apart -/
theorem apart_eq_self {t : Tracker} {read : Tracker → Tracker} {forgotten : List String}
    (h : ∀ u, read u = u.without forgotten) : t.apart read = t := by
  rw [apart, h]
  rfl

end Tracker

/-! ## names in sight -/

namespace Rebinding

/-- the names that are bound or deleted in sight -/
def seen (places : List Rebinding) : List String := (places.filter (·.inSight)).map (·.name)

@[simp] theorem seen_nil : seen [] = [] := rfl

@[simp] theorem seen_append (xs ys : List Rebinding) : seen (xs ++ ys) = seen xs ++ seen ys := by
  simp [seen]

@[simp] theorem seen_hide (places : List Rebinding) : seen (hide places) = [] := by
  simp [seen, hide]

@[simp] theorem seen_disown (places : List Rebinding) : seen (disown places) = seen places := by
  simp [seen, disown, List.filter_map, Function.comp_def]

@[simp] theorem seen_plain_cons (x : String) (places : List Rebinding) :
    seen (plain x :: places) = [x] ++ seen places := rfl

@[simp] theorem seen_map_plain (xs : List String) : seen (xs.map plain) = xs := by
  simp [seen, plain, List.filter_map, Function.comp_def]

@[simp] theorem seen_targets (target : Expr) : seen (targets target) = boundNames target :=
  seen_map_plain _

@[simp] theorem seen_assigned (value target : Expr) :
    seen (assigned value target) = boundNames target := by
  simp [seen, assigned, List.filter_map, Function.comp_def]

theorem seen_flatMap_targets (row : List Expr) :
    seen (row.flatMap targets) = listBoundNames row := by
  induction row with
  | nil => rfl
  | cons target row ih => rw [List.flatMap_cons, seen_append, seen_targets, ih, listBoundNames]

theorem seen_imports (names : List Import) :
    seen (names.map fun i => plain i.boundName) = names.map Import.boundName := by
  rw [← seen_map_plain (names.map Import.boundName), List.map_map]
  rfl

theorem mem_seen {places : List Rebinding} {x : String} :
    x ∈ seen places ↔ ∃ b ∈ places, b.name = x ∧ b.inSight = true := by
  simp only [seen, List.mem_map, List.mem_filter]
  exact ⟨fun ⟨b, ⟨hb, hs⟩, hx⟩ => ⟨b, hb, hx, hs⟩, fun ⟨b, hb, hx, hs⟩ => ⟨b, ⟨hb, hs⟩, hx⟩⟩

/-- no name is bound to what another name stands for -/
def Uncopied (places : List Rebinding) : Prop := ∀ b ∈ places, b.copied = false

@[simp] theorem uncopied_append {xs ys : List Rebinding} :
    Uncopied (xs ++ ys) ↔ Uncopied xs ∧ Uncopied ys :=
  List.forall_mem_append

@[simp] theorem uncopied_cons_plain {x : String} {places : List Rebinding} :
    Uncopied (plain x :: places) ↔ Uncopied places := by
  simp [Uncopied, plain]

@[simp] theorem uncopied_hide {places : List Rebinding} :
    Uncopied (hide places) ↔ Uncopied places := by
  simp [Uncopied, hide]

@[simp] theorem uncopied_disown {places : List Rebinding} :
    Uncopied (disown places) ↔ Uncopied places := by
  simp [Uncopied, disown]

end Rebinding

/-! ## calls that leave entities alone -/

/-- does the call create an entity, or attach something to one? -/
def Code.CallSite.isBuilder (c : CallSite) : Bool :=
  match classify? c with
  | some .create => true
  | some (.attach _ _) => true
  | _ => false

theorem TrackingContext.call_eq_self (ctx : TrackingContext) (t : Tracker) {c : CallSite}
    (result : Option Nat) (h : c.isBuilder = false) : ctx.call t c result = (t, none) := by
  revert h
  rw [CallSite.isBuilder, TrackingContext.call]
  -- the two sorts of builders go out by the hypothesis
  split <;> simp

namespace Code.Levels

/-- no call at any depth creates an entity or attaches to one -/
def Quiet (found : Levels) : Prop := ∀ c ∈ found.flatten, c.isBuilder = false

@[simp] theorem quiet_below {found : Levels} : (below found).Quiet ↔ found.Quiet := Iff.rfl

@[simp] theorem quiet_merge {xs ys : Levels} : (merge xs ys).Quiet ↔ xs.Quiet ∧ ys.Quiet := by
  simp only [Quiet, mem_flatten_merge, or_imp, forall_and]

@[simp] theorem quiet_call {c : CallSite} {found : Levels} :
    Quiet ([c] :: found) ↔ c.isBuilder = false ∧ found.Quiet := by
  simp [Quiet]

end Code.Levels

open Levels

/-! ## targets -/

/-- a target that is bound to something else than the value of a name or of a call stands for no
entity -/
theorem bindTarget_eq_without (t : Tracker) (value target : Expr)
    (h : Uncopied (assigned value target)) :
    bindTarget t value none target = t.without (boundNames target) := by
  cases target with
  | name pos id =>
    have hvalue : value.isName = false :=
      h ⟨id, true, true, value.isName⟩ (List.mem_singleton.mpr rfl)
    have hnone : entityOf? t value none = none := by
      cases value with
      | name => cases hvalue
      | _ => rfl
    simp only [bindTarget, hnone]
    exact t.drop_eq_without id
  | _ => exact Tracker.dropAll_eq_without _ t

/-- so it is with a row of targets -/
theorem foldl_bindTarget_eq_without (value : Expr) (row : List Expr) (t : Tracker)
    (h : Uncopied (row.flatMap (assigned value))) :
    row.foldl (fun t target => bindTarget t value none target) t
      = t.without (seen (row.flatMap (assigned value))) := by
  induction row generalizing t with
  | nil => exact t.without_nil.symm
  | cons target row ih =>
    obtain ⟨hhead, hrest⟩ := uncopied_append.mp h
    rw [List.foldl_cons, bindTarget_eq_without t value target hhead, ih _ hrest]
    simp

/-! ## expressions -/

variable (ctx : TrackingContext)

mutual

/-- reading an expression takes away the names that it binds in sight -/
theorem Code.Expr.track_eq_without :
    ∀ (e : Expr) (t : Tracker), e.levels.Quiet → Uncopied e.rebindings →
    e.track ctx t = (t.without (seen e.rebindings), none)
  | .name _ _, t, _, _ => by simp [Expr.track, Expr.rebindings]
  | .str _ _, t, _, _ => by simp [Expr.track, Expr.rebindings]
  | .member _ value _, t, hq, hu => by
    simp only [Expr.levels, quiet_below, Expr.rebindings] at hq hu
    simp only [Expr.track, Expr.rebindings, value.track_eq_without t hq hu]
  | .call pos func args keywords, t, hq, hu => by
    simp only [Expr.levels, quiet_call, quiet_merge, Expr.rebindings, uncopied_append] at hq hu
    obtain ⟨hcall, hfunc, hargs, hkeywords⟩ := hq
    simp only [Expr.track, Expr.rebindings, seen_append, Tracker.without_append,
      func.track_eq_without t hfunc hu.1, Expr.trackAll_eq_without args _ hargs hu.2.1,
      Keyword.trackAll_eq_without keywords _ hkeywords hu.2.2]
    exact ctx.call_eq_self _ none hcall
  | .row _ _ items, t, hq, hu => by
    simp only [Expr.levels, quiet_below, Expr.rebindings] at hq hu
    simp only [Expr.track, Expr.rebindings, Expr.trackAll_eq_without items t hq hu]
  | .dict _ entries, t, hq, hu => by
    simp only [Expr.levels, quiet_below, quiet_merge, Expr.rebindings, uncopied_append] at hq hu
    simp only [Expr.track, Expr.rebindings, seen_append, Tracker.without_append,
      Entry.trackKeys_eq_without entries t hq.1 hu.1,
      Entry.trackValues_eq_without entries _ hq.2 hu.2]
  | .starred _ value, t, hq, hu => by
    simp only [Expr.levels, quiet_below, Expr.rebindings] at hq hu
    simp only [Expr.track, Expr.rebindings, value.track_eq_without t hq hu]
  | .subscript _ value index, t, hq, hu => by
    simp only [Expr.levels, quiet_below, quiet_merge, Expr.rebindings, uncopied_append] at hq hu
    simp only [Expr.track, Expr.rebindings, seen_append, Tracker.without_append,
      value.track_eq_without t hq.1 hu.1, index.track_eq_without _ hq.2 hu.2]
  | .named _ target value, t, hq, hu => by
    simp only [Expr.levels, quiet_below, quiet_merge, Expr.rebindings, uncopied_append] at hq hu
    simp only [Expr.track, Expr.rebindings, seen_append, seen_assigned, Tracker.without_append,
      target.track_eq_without t hq.1 hu.1, value.track_eq_without _ hq.2 hu.2.1,
      bindTarget_eq_without _ value target hu.2.2]
  | .lambda _ parameters body, t, hq, hu => by
    simp only [Expr.levels, quiet_below, quiet_merge, Expr.rebindings, uncopied_hide,
      uncopied_append, uncopied_disown] at hq hu
    have hread : ∀ u, (body.track ctx (Parameter.trackAll ctx parameters u)).1
        = u.without (seen (Parameter.listRebindings parameters) ++ seen body.rebindings) :=
          fun u => by
      rw [Parameter.trackAll_eq_without parameters u hq.1 hu.1, body.track_eq_without _ hq.2 hu.2,
        Tracker.without_append]
    simp only [Expr.track, Expr.rebindings, seen_hide, Tracker.without_nil,
      Tracker.apart_eq_self hread]
  | .comprehension _ yields clauses, t, hq, hu => by
    simp only [Expr.levels, quiet_below, quiet_merge, Expr.rebindings, uncopied_hide,
      uncopied_append] at hq hu
    have hread : ∀ u, Clause.trackAll ctx clauses (Expr.trackAll ctx yields u)
        = u.without (seen (Expr.listRebindings yields) ++ seen (Clause.listRebindings clauses)) :=
          fun u => by
      rw [Expr.trackAll_eq_without yields u hq.1 hu.1,
        Clause.trackAll_eq_without clauses _ hq.2 hu.2, Tracker.without_append]
    simp only [Expr.track, Expr.rebindings, seen_hide, Tracker.without_nil,
      Tracker.apart_eq_self hread]
  | .other _ operands, t, hq, hu => by
    simp only [Expr.levels, quiet_below, Expr.rebindings] at hq hu
    simp only [Expr.track, Expr.rebindings, Expr.trackAll_eq_without operands t hq hu]

theorem Code.Expr.trackAll_eq_without :
    ∀ (es : List Expr) (t : Tracker), (Expr.listLevels es).Quiet →
    Uncopied (Expr.listRebindings es) →
    Expr.trackAll ctx es t = t.without (seen (Expr.listRebindings es))
  | [], t, _, _ => by simp [Expr.trackAll, Expr.listRebindings]
  | e :: es, t, hq, hu => by
    simp only [Expr.listLevels, quiet_merge, Expr.listRebindings, uncopied_append] at hq hu
    simp only [Expr.trackAll, Expr.listRebindings, seen_append, Tracker.without_append,
      e.track_eq_without t hq.1 hu.1, Expr.trackAll_eq_without es _ hq.2 hu.2]

theorem Code.Keyword.trackAll_eq_without :
    ∀ (ks : List Keyword) (t : Tracker), (Keyword.listLevels ks).Quiet →
    Uncopied (Keyword.listRebindings ks) →
    Keyword.trackAll ctx ks t = t.without (seen (Keyword.listRebindings ks))
  | [], t, _, _ => by simp [Keyword.trackAll, Keyword.listRebindings]
  | .mk _ value :: ks, t, hq, hu => by
    simp only [Keyword.listLevels, quiet_merge, quiet_below, Keyword.listRebindings,
      uncopied_append] at hq hu
    simp only [Keyword.trackAll, Keyword.listRebindings, seen_append, Tracker.without_append,
      value.track_eq_without t hq.1 hu.1, Keyword.trackAll_eq_without ks _ hq.2 hu.2]

theorem Code.Entry.trackKeys_eq_without :
    ∀ (es : List Entry) (t : Tracker), (Entry.keyLevels es).Quiet →
    Uncopied (Entry.keyRebindings es) →
    Entry.trackKeys ctx es t = t.without (seen (Entry.keyRebindings es))
  | [], t, _, _ => by simp [Entry.trackKeys, Entry.keyRebindings]
  | .pair key _ :: es, t, hq, hu => by
    simp only [Entry.keyLevels, quiet_merge, Entry.keyRebindings, uncopied_append] at hq hu
    simp only [Entry.trackKeys, Entry.keyRebindings, seen_append, Tracker.without_append,
      key.track_eq_without t hq.1 hu.1, Entry.trackKeys_eq_without es _ hq.2 hu.2]
  | .spread _ :: es, t, hq, hu => by
    simp only [Entry.keyLevels, Entry.keyRebindings] at hq hu
    simp only [Entry.trackKeys, Entry.keyRebindings, Entry.trackKeys_eq_without es t hq hu]

theorem Code.Entry.trackValues_eq_without :
    ∀ (es : List Entry) (t : Tracker), (Entry.valueLevels es).Quiet →
    Uncopied (Entry.valueRebindings es) →
    Entry.trackValues ctx es t = t.without (seen (Entry.valueRebindings es))
  | [], t, _, _ => by simp [Entry.trackValues, Entry.valueRebindings]
  | .pair _ value :: es, t, hq, hu => by
    simp only [Entry.valueLevels, quiet_merge, Entry.valueRebindings, uncopied_append] at hq hu
    simp only [Entry.trackValues, Entry.valueRebindings, seen_append, Tracker.without_append,
      value.track_eq_without t hq.1 hu.1, Entry.trackValues_eq_without es _ hq.2 hu.2]
  | .spread value :: es, t, hq, hu => by
    simp only [Entry.valueLevels, quiet_merge, Entry.valueRebindings, uncopied_append] at hq hu
    simp only [Entry.trackValues, Entry.valueRebindings, seen_append, Tracker.without_append,
      value.track_eq_without t hq.1 hu.1, Entry.trackValues_eq_without es _ hq.2 hu.2]

theorem Code.Clause.trackAll_eq_without :
    ∀ (cs : List Clause) (t : Tracker), (Clause.listLevels cs).Quiet →
    Uncopied (Clause.listRebindings cs) →
    Clause.trackAll ctx cs t = t.without (seen (Clause.listRebindings cs))
  | [], t, _, _ => by simp [Clause.trackAll, Clause.listRebindings]
  | .mk target iter conditions :: cs, t, hq, hu => by
    simp only [Clause.listLevels, quiet_merge, quiet_below, Clause.listRebindings,
      uncopied_append] at hq hu
    obtain ⟨⟨htarget, hiter, hconditions⟩, hcs⟩ := hq
    obtain ⟨-, utarget, uiter, uconditions, ucs⟩ := hu
    simp only [Clause.trackAll, Clause.listRebindings, seen_append, seen_hide, List.nil_append,
      Tracker.without_append, target.track_eq_without t htarget utarget,
      iter.track_eq_without _ hiter uiter,
      Expr.trackAll_eq_without conditions _ hconditions uconditions,
      Clause.trackAll_eq_without cs _ hcs ucs]

theorem Code.Parameter.trackAll_eq_without : ∀ (ps : List Parameter) (t : Tracker),
    (Parameter.listLevels ps).Quiet → Uncopied (Parameter.listRebindings ps) →
    Parameter.trackAll ctx ps t = t.without (seen (Parameter.listRebindings ps))
  | [], t, _, _ => by simp [Parameter.trackAll, Parameter.listRebindings]
  | .hint value :: ps, t, hq, hu => by
    simp only [Parameter.listLevels, quiet_merge, quiet_below, Parameter.listRebindings,
      uncopied_append] at hq hu
    simp only [Parameter.trackAll, Parameter.listRebindings, seen_append, Tracker.without_append,
      value.track_eq_without t hq.1 hu.1, Parameter.trackAll_eq_without ps _ hq.2 hu.2]
  | .default value :: ps, t, hq, hu => by
    simp only [Parameter.listLevels, quiet_merge, Parameter.listRebindings,
      uncopied_append] at hq hu
    simp only [Parameter.trackAll, Parameter.listRebindings, seen_append, Tracker.without_append,
      value.track_eq_without t hq.1 hu.1, Parameter.trackAll_eq_without ps _ hq.2 hu.2]

end

theorem trackOption_eq_without (e : Option Expr) (t : Tracker) (hq : (optionLevels e).Quiet)
    (hu : Uncopied (optionRebindings e)) :
    trackOption ctx e t = t.without (seen (optionRebindings e)) := by
  cases e with
  | none => exact t.without_nil.symm
  | some e => rw [trackOption, e.track_eq_without ctx t hq hu, optionRebindings]

theorem trackItems_eq_without (items : List WithItem) (t : Tracker)
    (hq : (WithItem.listLevels items).Quiet) (hu : Uncopied (WithItem.listRebindings items)) :
    trackItems ctx items t = t.without (seen (WithItem.listRebindings items)) := by
  induction items generalizing t with
  | nil => exact t.without_nil.symm
  | cons item items ih =>
    simp only [WithItem.listLevels, quiet_merge, quiet_below, WithItem.listRebindings,
      uncopied_append] at hq hu
    have htarget : seen ((item.target.map targets).getD [])
        = (item.target.map boundNames).getD [] := by
      cases item.target with
      | none => rfl
      | some target => exact seen_targets target
    simp only [trackItems, WithItem.listRebindings, seen_append, seen_hide, List.nil_append,
      htarget, Tracker.without_append, Tracker.dropAll_eq_without,
      item.context.track_eq_without ctx t hq.1.1 hu.1, ih _ hq.2 hu.2.2.2]

/-! ## patterns -/

mutual

theorem Code.Pattern.track_eq_without :
    ∀ (p : Pattern) (t : Tracker), p.levels.Quiet → Uncopied p.rebindings →
    p.track ctx t = t.without (seen p.rebindings)
  | .value e, t, hq, hu => by
    simp only [Pattern.levels, quiet_below, Pattern.rebindings] at hq hu
    simp only [Pattern.track, Pattern.rebindings, e.track_eq_without ctx t hq hu]
  | .constant, t, _, _ => by simp [Pattern.track, Pattern.rebindings]
  | .sequence parts, t, hq, hu => by
    simp only [Pattern.levels, quiet_below, Pattern.rebindings] at hq hu
    simp only [Pattern.track, Pattern.rebindings, Pattern.trackAll_eq_without parts t hq hu]
  | .mapping keys parts others, t, hq, hu => by
    simp only [Pattern.levels, quiet_below, quiet_merge, Pattern.rebindings,
      uncopied_append] at hq hu
    simp only [Pattern.track, Pattern.rebindings, seen_append, seen_map_plain,
      Tracker.without_append, Expr.trackAll_eq_without ctx keys t hq.1 hu.1,
      Pattern.trackAll_eq_without parts _ hq.2 hu.2.1, Tracker.drop?_eq_without]
  | .record cls parts named, t, hq, hu => by
    simp only [Pattern.levels, quiet_below, quiet_merge, Pattern.rebindings,
      uncopied_append] at hq hu
    simp only [Pattern.track, Pattern.rebindings, seen_append, Tracker.without_append,
      cls.track_eq_without ctx t hq.1 hu.1, Pattern.trackAll_eq_without parts _ hq.2.1 hu.2.1,
      Pattern.trackAll_eq_without named _ hq.2.2 hu.2.2]
  | .rest name, t, _, _ => by
    simp only [Pattern.track, Pattern.rebindings, seen_map_plain, Tracker.drop?_eq_without]
  | .capture none name, t, _, _ => by
    simp only [Pattern.track, Pattern.rebindings, seen_map_plain, Tracker.drop?_eq_without]
  | .capture (some inner) name, t, hq, hu => by
    simp only [Pattern.levels, quiet_below, Pattern.rebindings, uncopied_append] at hq hu
    simp only [Pattern.track, Pattern.rebindings, seen_append, seen_map_plain,
      Tracker.without_append, inner.track_eq_without t hq hu.1, Tracker.drop?_eq_without]
  | .choice parts, t, hq, hu => by
    simp only [Pattern.levels, quiet_below, Pattern.rebindings] at hq hu
    simp only [Pattern.track, Pattern.rebindings, Pattern.trackAll_eq_without parts t hq hu]

theorem Code.Pattern.trackAll_eq_without :
    ∀ (ps : List Pattern) (t : Tracker), (Pattern.listLevels ps).Quiet →
    Uncopied (Pattern.listRebindings ps) →
    Pattern.trackAll ctx ps t = t.without (seen (Pattern.listRebindings ps))
  | [], t, _, _ => by simp [Pattern.trackAll, Pattern.listRebindings]
  | p :: ps, t, hq, hu => by
    simp only [Pattern.listLevels, quiet_merge, Pattern.listRebindings, uncopied_append] at hq hu
    simp only [Pattern.trackAll, Pattern.listRebindings, seen_append, Tracker.without_append,
      p.track_eq_without t hq.1 hu.1, Pattern.trackAll_eq_without ps _ hq.2 hu.2]

end

/-! ## statements -/

mutual

/-- reading a statement takes away the names that it binds in sight -/
theorem Code.Stmt.track_eq_without :
    ∀ (s : Stmt) (t : Tracker), s.levels.Quiet → Uncopied s.rebindings →
    s.track ctx t = t.without (seen s.rebindings)
  | .function _ name parameters body decorators returns, t, hq, hu => by
    simp only [Stmt.levels, quiet_below, quiet_merge, Stmt.rebindings, uncopied_cons_plain,
      uncopied_hide, uncopied_append, uncopied_disown] at hq hu
    obtain ⟨hparameters, hbody, hdecorators, hreturns⟩ := hq
    obtain ⟨uparameters, ubody, udecorators, ureturns⟩ := hu
    have hread : ∀ u, trackOption ctx returns (Expr.trackAll ctx decorators
          (Stmt.trackAll ctx body (Parameter.trackAll ctx parameters u)))
        = u.without (seen (Parameter.listRebindings parameters) ++ (seen (Stmt.listRebindings body)
          ++ (seen (Expr.listRebindings decorators) ++ seen (optionRebindings returns)))) :=
            fun u => by
      simp only [Parameter.trackAll_eq_without ctx parameters u hparameters uparameters,
        Stmt.trackAll_eq_without body _ hbody ubody,
        Expr.trackAll_eq_without ctx decorators _ hdecorators udecorators,
        trackOption_eq_without ctx returns _ hreturns ureturns, Tracker.without_append]
    simp only [Stmt.track, Stmt.rebindings, Tracker.apart_eq_self hread, seen_plain_cons, seen_hide,
      List.append_nil, Tracker.drop_eq_without]
  | .class_ name bases keywords body decorators, t, hq, hu => by
    simp only [Stmt.levels, quiet_below, quiet_merge, Stmt.rebindings, uncopied_cons_plain,
      uncopied_append, uncopied_disown] at hq hu
    obtain ⟨hbases, hkeywords, hbody, hdecorators⟩ := hq
    obtain ⟨ubases, ukeywords, ubody, udecorators⟩ := hu
    simp only [Stmt.track, Stmt.rebindings, seen_plain_cons, seen_append, seen_disown,
      Tracker.without_append, Tracker.drop_eq_without,
      Expr.trackAll_eq_without ctx bases _ hbases ubases,
      Keyword.trackAll_eq_without ctx keywords _ hkeywords ukeywords,
      Stmt.trackAll_eq_without body _ hbody ubody,
      Expr.trackAll_eq_without ctx decorators _ hdecorators udecorators]
  | .assign _ row value, t, hq, hu => by
    simp only [Stmt.levels, quiet_below, quiet_merge, Stmt.rebindings, uncopied_append] at hq hu
    simp only [Stmt.track, Stmt.rebindings, seen_append, Tracker.without_append,
      Expr.trackAll_eq_without ctx row t hq.1 hu.1, value.track_eq_without ctx _ hq.2 hu.2.1,
      foldl_bindTarget_eq_without value row _ hu.2.2]
  | .declare _ target hint none, t, hq, hu => by
    simp only [Stmt.levels, quiet_below, quiet_merge, Stmt.rebindings, uncopied_append,
      uncopied_disown] at hq hu
    simp only [Stmt.track, Stmt.rebindings, seen_append, seen_disown, Tracker.without_append,
      target.track_eq_without ctx t hq.1 hu.1, hint.track_eq_without ctx _ hq.2.1 hu.2]
  | .declare _ target hint (some value), t, hq, hu => by
    simp only [Stmt.levels, quiet_below, quiet_merge, Stmt.rebindings, uncopied_append,
      uncopied_disown] at hq hu
    simp only [Stmt.track, Stmt.rebindings, seen_append, seen_disown, seen_assigned,
      Tracker.without_append, target.track_eq_without ctx t hq.1 hu.1,
      hint.track_eq_without ctx _ hq.2.1 hu.2.1, value.track_eq_without ctx _ hq.2.2 hu.2.2.1,
      bindTarget_eq_without _ value target hu.2.2.2]
  | .augment target value, t, hq, hu => by
    simp only [Stmt.levels, quiet_below, quiet_merge, Stmt.rebindings, uncopied_append] at hq hu
    simp only [Stmt.track, Stmt.rebindings, seen_append, seen_targets, Tracker.without_append,
      target.track_eq_without ctx t hq.1 hu.1, value.track_eq_without ctx _ hq.2 hu.2.1,
      Tracker.dropAll_eq_without]
  | .delete row, t, hq, hu => by
    simp only [Stmt.levels, quiet_below, Stmt.rebindings, uncopied_append] at hq hu
    simp only [Stmt.track, Stmt.rebindings, seen_append, seen_flatMap_targets,
      Tracker.without_append, Expr.trackAll_eq_without ctx row t hq hu.1,
      Tracker.dropAll_eq_without]
  | .for_ target iter body otherwise, t, hq, hu => by
    simp only [Stmt.levels, quiet_below, quiet_merge, Stmt.rebindings, uncopied_append] at hq hu
    obtain ⟨-, hiter, hbody, hotherwise⟩ := hq
    obtain ⟨uiter, -, -, ubody, uotherwise⟩ := hu
    simp only [Stmt.track, Stmt.rebindings, seen_append, seen_hide, seen_targets, List.nil_append,
      Tracker.without_append, iter.track_eq_without ctx t hiter uiter, Tracker.dropAll_eq_without,
      Stmt.trackAll_eq_without body _ hbody ubody,
      Stmt.trackAll_eq_without otherwise _ hotherwise uotherwise]
  | .while_ test body otherwise, t, hq, hu => by
    simp only [Stmt.levels, quiet_below, quiet_merge, Stmt.rebindings, uncopied_append] at hq hu
    simp only [Stmt.track, Stmt.rebindings, seen_append, Tracker.without_append,
      test.track_eq_without ctx t hq.1 hu.1, Stmt.trackAll_eq_without body _ hq.2.1 hu.2.1,
      Stmt.trackAll_eq_without otherwise _ hq.2.2 hu.2.2]
  | .if_ test body otherwise, t, hq, hu => by
    simp only [Stmt.levels, quiet_below, quiet_merge, Stmt.rebindings, uncopied_append] at hq hu
    simp only [Stmt.track, Stmt.rebindings, seen_append, Tracker.without_append,
      test.track_eq_without ctx t hq.1 hu.1, Stmt.trackAll_eq_without body _ hq.2.1 hu.2.1,
      Stmt.trackAll_eq_without otherwise _ hq.2.2 hu.2.2]
  | .with_ items body, t, hq, hu => by
    simp only [Stmt.levels, quiet_below, quiet_merge, Stmt.rebindings, uncopied_append] at hq hu
    simp only [Stmt.track, Stmt.rebindings, seen_append, Tracker.without_append,
      trackItems_eq_without ctx items t hq.1 hu.1, Stmt.trackAll_eq_without body _ hq.2 hu.2]
  | .try_ _ body handlers otherwise final, t, hq, hu => by
    simp only [Stmt.levels, quiet_below, quiet_merge, Stmt.rebindings, uncopied_append] at hq hu
    obtain ⟨hbody, hhandlers, hotherwise, hfinal⟩ := hq
    obtain ⟨ubody, uhandlers, uotherwise, ufinal⟩ := hu
    simp only [Stmt.track, Stmt.rebindings, seen_append, Tracker.without_append,
      Stmt.trackAll_eq_without body t hbody ubody,
      Handler.trackAll_eq_without handlers _ hhandlers uhandlers,
      Stmt.trackAll_eq_without otherwise _ hotherwise uotherwise,
      Stmt.trackAll_eq_without final _ hfinal ufinal]
  | .import_ names, t, _, _ => by
    simp only [Stmt.track, Stmt.rebindings, seen_imports, Tracker.dropAll_eq_without]
  | .importFrom _ names _, t, _, _ => by
    simp only [Stmt.track, Stmt.rebindings, seen_imports, Tracker.dropAll_eq_without]
  | .match_ subject cases, t, hq, hu => by
    simp only [Stmt.levels, quiet_below, quiet_merge, Stmt.rebindings, uncopied_append] at hq hu
    simp only [Stmt.track, Stmt.rebindings, seen_append, Tracker.without_append,
      subject.track_eq_without ctx t hq.1 hu.1, Case.trackAll_eq_without cases _ hq.2 hu.2]
  | .evaluate values, t, hq, hu => by
    simp only [Stmt.levels, quiet_below, Stmt.rebindings] at hq hu
    simp only [Stmt.track, Stmt.rebindings, Expr.trackAll_eq_without ctx values t hq hu]

theorem Code.Stmt.trackAll_eq_without :
    ∀ (ss : List Stmt) (t : Tracker), (Stmt.listLevels ss).Quiet →
    Uncopied (Stmt.listRebindings ss) →
    Stmt.trackAll ctx ss t = t.without (seen (Stmt.listRebindings ss))
  | [], t, _, _ => by simp [Stmt.trackAll, Stmt.listRebindings]
  | s :: ss, t, hq, hu => by
    simp only [Stmt.listLevels, quiet_merge, Stmt.listRebindings, uncopied_append] at hq hu
    simp only [Stmt.trackAll, Stmt.listRebindings, seen_append, Tracker.without_append,
      s.track_eq_without t hq.1 hu.1, Stmt.trackAll_eq_without ss _ hq.2 hu.2]

theorem Code.Handler.trackAll_eq_without :
    ∀ (hs : List Handler) (t : Tracker), (Handler.listLevels hs).Quiet →
    Uncopied (Handler.listRebindings hs) →
    Handler.trackAll ctx hs t = t.without (seen (Handler.listRebindings hs))
  | [], t, _, _ => by simp [Handler.trackAll, Handler.listRebindings]
  | .mk type name body :: hs, t, hq, hu => by
    simp only [Handler.listLevels, quiet_merge, quiet_below, Handler.listRebindings,
      uncopied_append] at hq hu
    obtain ⟨⟨htype, hbody⟩, hhs⟩ := hq
    obtain ⟨-, utype, ubody, -, uhs⟩ := hu
    simp only [Handler.trackAll, Handler.listRebindings, seen_append, seen_map_plain,
      Tracker.without_append, Tracker.drop?_eq_without,
      trackOption_eq_without ctx type _ htype utype, Stmt.trackAll_eq_without body _ hbody ubody,
      Handler.trackAll_eq_without hs _ hhs uhs]

theorem Code.Case.trackAll_eq_without :
    ∀ (cs : List Case) (t : Tracker), (Case.listLevels cs).Quiet →
    Uncopied (Case.listRebindings cs) →
    Case.trackAll ctx cs t = t.without (seen (Case.listRebindings cs))
  | [], t, _, _ => by simp [Case.trackAll, Case.listRebindings]
  | .mk pattern guard body :: cs, t, hq, hu => by
    simp only [Case.listLevels, quiet_merge, quiet_below, Case.listRebindings,
      uncopied_append] at hq hu
    obtain ⟨⟨hpattern, hguard, hbody⟩, hcs⟩ := hq
    obtain ⟨upattern, uguard, ubody, ucs⟩ := hu
    simp only [Case.trackAll, Case.listRebindings, seen_append, Tracker.without_append,
      pattern.track_eq_without ctx t hpattern upattern,
      trackOption_eq_without ctx guard _ hguard uguard, Stmt.trackAll_eq_without body _ hbody ubody,
      Case.trackAll_eq_without cs _ hcs ucs]

end

/-! ## what a statement takes away -/

/-- the places in sight are the function's own there, and those with names for themselves -/
theorem Code.Stmt.mem_seen_rebindings {s : Stmt} {x : String} :
    x ∈ seen s.rebindings ↔ s.RebindsInSight x ∨ s.RebindsInside x := by
  rw [mem_seen]
  constructor
  · rintro ⟨b, hb, hx, hs⟩
    cases hown : b.own with
    | true => exact .inl ⟨b, hb, hx, hown, hs⟩
    | false => exact .inr ⟨b, hb, hx, hown, hs⟩
  · rintro (⟨b, hb, hx, -, hs⟩ | ⟨b, hb, hx, -, hs⟩)
    · exact ⟨b, hb, hx, hs⟩
    · exact ⟨b, hb, hx, hs⟩

theorem Code.Stmt.RebindsInSight.rebinds {s : Stmt} {x : String} (h : s.RebindsInSight x) :
    s.Rebinds x := by
  obtain ⟨b, hb, hx, hown, -⟩ := h
  exact ⟨b, hb, hx, hown⟩

/-- nothing is known of components or of other modules -/
def bareContext : TrackingContext := ⟨.ofDeclared true [], ⟨"main", none⟩⟩

/-- names that stand for one entity -/
def standing (names : List String) : Tracker := ⟨names.map (·, 0), [[]], []⟩

/-- `class Settings: e = 1` -/
def settingsClass : Stmt :=
  .class_ "Settings" [] [] [.assign default [.name default "e"] (.other default [])] []

/-- `ids = [(last := row.id) for row in rows]` -/
def gatherIds : Stmt :=
  .assign default [.name default "ids"]
    (.comprehension default
      [.named default (.name default "last") (.member default (.name default "row") "id")]
      [.mk (.name default "row") (.name default "rows") []])

/-- `with open(path) as rows:`, and the class and the list above in its body -/
def readRows : Stmt :=
  .with_ [⟨.call default (.name default "open") [.name default "path"] [],
    some (.name default "rows")⟩]
    [settingsClass, gatherIds]

end Archetype
