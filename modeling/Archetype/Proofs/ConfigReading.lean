import Archetype.Config
import Mathlib.Data.List.DropRight
import Mathlib.Data.List.Forall2

/-!
# Reading a configuration

A table of settings is read setting by setting. Each reader gives a value, finds a fault, or comes
to an integer that is too long to be written, and what it does is said by three conditions on the
table. Put together they say when a table is read, and what the configuration is then. A
configuration, written as a table of settings, is read as itself.

* `Setting.HoldsLong`      the settings that have no text;
* `ReadsAs`                what a reader does, by three conditions, with `bind` and `mapM` for
                           readers in a row;
* `Faulty`                 what is wrong with a table of settings;
* `StopsAtLong`            reading comes to an integer that is too long before it comes to a fault;
* `Config.Says`            the configuration is what the settings say;
* `Config.settings`        a configuration as a table of settings;
* `settings_read_exactly`  when a table is read, and as what.
-/

namespace Archetype

/-! ## texts without white space around them -/

namespace Text

theorem stripRightChars_eq_rdropWhile (cs : List Char) :
    stripRightChars cs = cs.rdropWhile isBlank := rfl

/-- what is cut at its right end starts as before -/
theorem stripLeftChars_stripRightChars (cs : List Char) (h : stripLeftChars cs = cs) :
    stripLeftChars (stripRightChars cs) = stripRightChars cs := by
  cases hcut : stripRightChars cs with
  | nil => rfl
  | cons c rest =>
    have hwhole : c :: rest ++ cs.rtakeWhile isBlank = cs := by
      rw [← hcut, stripRightChars_eq_rdropWhile, List.rdropWhile_append_rtakeWhile]
    have hblank : ¬ isBlank c = true := by
      intro hc
      have hlength := congrArg List.length h
      rw [← hwhole, stripLeftChars, List.cons_append, List.dropWhile_cons_of_pos hc,
        List.length_cons] at hlength
      have hle := (List.dropWhile_sublist isBlank (l := rest ++ cs.rtakeWhile isBlank)).length_le
      omega
    rw [stripLeftChars, List.dropWhile_cons_of_neg hblank]

/-- a text that was stripped has no white space around it -/
theorem strip_strip (s : String) : strip (strip s) = strip s := by
  have hleft : stripLeftChars (stripLeftChars s.toList) = stripLeftChars s.toList :=
    List.dropWhile_idempotent ..
  have hright := stripLeftChars_stripRightChars _ hleft
  unfold strip
  rw [String.toList_ofList, hright, stripRightChars_eq_rdropWhile, stripRightChars_eq_rdropWhile,
    List.rdropWhile_idempotent]

end Text

/-! ## names -/

section
variable {α : Type} {all : List α} {name : α → String} {s : String}

theorem find?_name_eq_some (hall : ∀ a, a ∈ all) (hinj : Function.Injective name) {a : α} :
    all.find? (name · == s) = some a ↔ name a = s := by
  constructor
  · intro h
    have hbeq : (name a == s) = true := List.find?_some (p := (name · == s)) h
    exact beq_iff_eq.mp hbeq
  · rintro rfl
    cases hfind : all.find? (name · == name a) with
    | none => exact absurd (beq_self_eq_true (name a)) (List.find?_eq_none.mp hfind a (hall a))
    | some b =>
      have hbeq : (name b == name a) = true := List.find?_some (p := (name · == name a)) hfind
      rw [hinj (beq_iff_eq.mp hbeq)]

theorem find?_name_eq_none (hall : ∀ a, a ∈ all) :
    all.find? (name · == s) = none ↔ ∀ a, name a ≠ s := by
  rw [List.find?_eq_none]
  exact ⟨fun h a e => h a (hall a) (beq_iff_eq.mpr e), fun h a _ e => h a (beq_iff_eq.mp e)⟩

end

theorem Preset.ofName?_eq_some {s : String} {p : Preset} : Preset.ofName? s = some p ↔ p.name = s :=
  find?_name_eq_some (fun p => by cases p <;> decide) fun p q h => by
    revert h; cases p <;> cases q <;> decide

theorem Preset.ofName?_eq_none {s : String} : Preset.ofName? s = none ↔ ∀ p : Preset, p.name ≠ s :=
  find?_name_eq_none fun p => by cases p <;> decide

theorem Severity.ofName?_eq_some {s : String} {v : Severity} :
    Severity.ofName? s = some v ↔ v.name = s :=
  find?_name_eq_some (fun v => by cases v <;> decide) fun v w h => by
    revert h; cases v <;> cases w <;> decide

theorem Severity.ofName?_eq_none {s : String} :
    Severity.ofName? s = none ↔ ∀ v : Severity, v.name ≠ s :=
  find?_name_eq_none fun v => by cases v <;> decide

theorem Rule.ofId?_eq_some {s : String} {r : Rule} : Rule.ofId? s = some r ↔ r.id = s :=
  find?_name_eq_some (fun r => by cases r <;> decide) fun r q h => by
    revert h; cases r <;> cases q <;> decide

theorem Rule.ofId?_eq_none {s : String} : Rule.ofId? s = none ↔ ∀ r : Rule, r.id ≠ s :=
  find?_name_eq_none fun r => by cases r <;> decide

/-- the names of presets stand for themselves -/
theorem Preset.strip_name (p : Preset) : Text.strip p.name = p.name := by cases p <;> decide

/-- the names of severities stand for themselves -/
theorem Severity.lower_strip_name (v : Severity) : Text.lower (Text.strip v.name) = v.name := by
  cases v <;> decide +kernel

/-! ## texts of settings -/

namespace Setting

/-- the setting holds an integer that is too long to be written -/
inductive HoldsLong : Setting → Prop
  | integer {n : Int} (h : Nat.pow 10 maxDigits ≤ n.natAbs) : HoldsLong (integer n)
  | item {items : List Setting} {s : Setting} (hmem : s ∈ items) (h : HoldsLong s) :
    HoldsLong (list items)
  | entry {entries : List (String × Setting)} {e : String × Setting} (hmem : e ∈ entries)
    (h : HoldsLong e.2) :
    HoldsLong (table entries)

theorem integerText?_eq_none (n : Int) :
    integerText? n = none ↔ Nat.pow 10 maxDigits ≤ n.natAbs := by
  unfold integerText?
  split
  · rename_i h
    exact ⟨nofun, fun h' => absurd h (Nat.not_lt.mpr h')⟩
  · rename_i h
    exact ⟨fun _ => Nat.not_lt.mp h, fun _ => rfl⟩

mutual

theorem inner?_eq_none : ∀ s : Setting, s.inner? = none ↔ s.HoldsLong
  | absent => ⟨nofun, nofun⟩
  | flag b => ⟨nofun, nofun⟩
  | integer n => by
    rw [inner?, integerText?_eq_none]
    exact ⟨.integer, fun | .integer h => h⟩
  | decimal x => ⟨nofun, nofun⟩
  | text s => ⟨nofun, nofun⟩
  | date d => ⟨nofun, nofun⟩
  | time t => ⟨nofun, nofun⟩
  | moment d t none => ⟨nofun, nofun⟩
  | moment d t (some offset) => ⟨nofun, nofun⟩
  | list items => by
    rw [inner?, Option.map_eq_none_iff, innerItems?_eq_none]
    exact ⟨fun ⟨_, hmem, h⟩ => .item hmem h, fun | .item hmem h => ⟨_, hmem, h⟩⟩
  | table entries => by
    rw [inner?, Option.map_eq_none_iff, innerEntries?_eq_none]
    exact ⟨fun ⟨_, hmem, h⟩ => .entry hmem h, fun | .entry hmem h => ⟨_, hmem, h⟩⟩

theorem innerItems?_eq_none :
    ∀ items : List Setting, innerItems? items = none ↔ ∃ s ∈ items, s.HoldsLong
  | [] => ⟨nofun, nofun⟩
  | s :: rest => by
    simp only [List.mem_cons, exists_eq_or_imp]
    rw [← inner?_eq_none s, ← innerItems?_eq_none rest, innerItems?]
    cases s.inner? <;> cases innerItems? rest <;> simp

theorem innerEntries?_eq_none :
    ∀ entries : List (String × Setting), innerEntries? entries = none ↔ ∃ e ∈ entries, e.2.HoldsLong
  | [] => ⟨nofun, nofun⟩
  | (name, s) :: rest => by
    simp only [List.mem_cons, exists_eq_or_imp]
    rw [← inner?_eq_none s, ← innerEntries?_eq_none rest, innerEntries?]
    cases s.inner? <;> cases innerEntries? rest <;> simp

end

/-- only an integer that is too long leaves a setting without a text -/
theorem shown?_eq_none (s : Setting) : s.shown? = none ↔ s.HoldsLong := by
  cases s with
  | text s => exact ⟨nofun, nofun⟩
  | date d => exact ⟨nofun, nofun⟩
  | time t => exact ⟨nofun, nofun⟩
  | moment d t offset => exact ⟨nofun, nofun⟩
  | _ => exact inner?_eq_none _

/-- a list of nothing but texts -/
def IsTexts (s : Setting) : Prop := ∃ texts : List String, s = list (texts.map text)

/-- a table from names to lists of texts -/
def IsTextTable (s : Setting) : Prop := ∃ entries, s = table entries ∧ ∀ e ∈ entries, e.2.IsTexts

theorem texts?_text_cons (first : String) (items : List Setting) :
    (list (text first :: items)).texts? = (list items).texts?.map (first :: ·) := by
  rw [texts?, List.mapM_cons]
  show ((list items).texts?.bind fun rest => some (first :: rest)) = _
  cases (list items).texts? <;> rfl

theorem texts?_eq_some (s : Setting) (texts : List String) :
    s.texts? = some texts ↔ s = list (texts.map text) := by
  cases s with
  | list items =>
    rw [list.injEq]
    induction items generalizing texts with
    | nil => cases texts <;> simp [texts?]
    | cons s items ih =>
      cases s with
      | text first =>
        rw [texts?_text_cons, Option.map_eq_some_iff]
        cases texts with
        | nil => simp
        | cons head rest => simp [ih, and_comm]
      | _ => cases texts <;> simp [texts?, List.mapM_cons]
  | _ => exact ⟨nofun, nofun⟩

theorem isTexts_nil : (list []).IsTexts := ⟨[], rfl⟩

theorem texts?_eq_none (s : Setting) : s.texts? = none ↔ ¬ s.IsTexts := by
  simp only [Option.eq_none_iff_forall_ne_some, IsTexts, not_exists, ne_eq, texts?_eq_some]

end Setting

/-! ## readers -/

/-- what a reader does: the values it gives, what is wrong where it finds a fault, and when an
integer is too long. It stops at the first of several troubles, so `bad` may also hold where it
comes to an integer that is too long -/
structure ReadsAs {α : Type} (x : Except SettingsError α) (good : α → Prop) (bad long : Prop) :
    Prop where
  ok : ∀ a, x = .ok a ↔ good a
  fault : ∀ e, x = .error (.config e) → bad
  long : (∃ e, x = .error (.long e)) ↔ long
  clear : bad → ∀ a, ¬ good a

namespace ReadsAs

variable {α β : Type} {x : Except SettingsError α} {good : α → Prop} {bad long : Prop}

theorem congr (h : ReadsAs x good bad long) {good' : α → Prop} {bad' long' : Prop}
    (hgood : ∀ a, good a ↔ good' a) (hbad : bad ↔ bad') (hlong : long ↔ long') :
    ReadsAs x good' bad' long' where
  ok a := (h.ok a).trans (hgood a)
  fault e he := hbad.mp (h.fault e he)
  long := h.long.trans hlong
  clear hb a hg := h.clear (hbad.mpr hb) a ((hgood a).mpr hg)

/-- a reader that gives one value whatever it reads -/
theorem pure (a : α) : ReadsAs (.ok a) (· = a) False False where
  ok b := by rw [Except.ok.injEq, eq_comm]
  fault := nofun
  long := ⟨nofun, nofun⟩
  clear := nofun

/-- a reader that finds a fault whatever it reads -/
theorem refuse (e : ConfigError) :
    ReadsAs (.error (.config e) : Except SettingsError α) (fun _ => False) True False where
  ok _ := ⟨nofun, nofun⟩
  fault _ _ := trivial
  long := ⟨nofun, nofun⟩
  clear _ _ := id

/-- a reader that comes to an integer that is too long whatever it reads -/
theorem stop (e : LongInteger) :
    ReadsAs (.error (.long e) : Except SettingsError α) (fun _ => False) False True where
  ok _ := ⟨nofun, nofun⟩
  fault := nofun
  long := ⟨fun _ => trivial, fun _ => ⟨e, rfl⟩⟩
  clear := nofun

/-- two readers in a row: what is too long for the second one counts only behind a value of the
first -/
theorem bind (h : ReadsAs x good bad long) {f : α → Except SettingsError β} {good' : α → β → Prop}
    {bad' long' : Prop} (hf : ∀ a, ReadsAs (f a) (good' a) bad' long') :
    ReadsAs (x >>= f) (fun b => ∃ a, good a ∧ good' a b) (bad ∨ bad')
      (long ∨ (∃ a, good a) ∧ long') where
  ok b := by
    cases x with
    | error e => exact ⟨nofun, fun ⟨a, hg, _⟩ => nomatch (h.ok a).mpr hg⟩
    | ok a =>
      constructor
      · exact fun hb => ⟨a, (h.ok a).mp rfl, ((hf a).ok b).mp hb⟩
      · rintro ⟨a', hg, hb⟩
        cases (h.ok a').mpr hg
        exact ((hf a).ok b).mpr hb
  fault e he := by
    cases x with
    | error e' => cases he; exact .inl (h.fault e rfl)
    | ok a => exact .inr ((hf a).fault e he)
  long := by
    cases x with
    | error e =>
      constructor
      · rintro ⟨e', he⟩
        cases he
        exact .inl (h.long.mp ⟨e', rfl⟩)
      · rintro (hl | ⟨⟨a, hg⟩, _⟩)
        · obtain ⟨e', he⟩ := h.long.mpr hl
          cases he
          exact ⟨e', rfl⟩
        · exact nomatch (h.ok a).mpr hg
    | ok a =>
      constructor
      · exact fun he => .inr ⟨⟨a, (h.ok a).mp rfl⟩, (hf a).long.mp he⟩
      · rintro (hl | ⟨_, hl⟩)
        · obtain ⟨e, he⟩ := h.long.mpr hl
          exact nomatch he
        · exact (hf a).long.mpr hl
  clear := by
    rintro (hb | hb) b ⟨a, hg, hg'⟩
    · exact h.clear hb a hg
    · exact (hf a).clear hb b hg'

/-- a reader of items, for each item of a list: it comes to the first item that gives no value -/
theorem mapM {f : α → Except SettingsError β} {good : α → β → Prop} {bad long : α → Prop}
    (h : ∀ a, ReadsAs (f a) (good a) (bad a) (long a)) (l : List α) :
    ReadsAs (l.mapM f) (List.Forall₂ good l) (∃ a ∈ l, bad a)
      (∃ front a back, l = front ++ a :: back ∧ (∀ a' ∈ front, ∃ b, good a' b) ∧ long a) := by
  induction l with
  | nil =>
    refine (ReadsAs.pure []).congr (fun bs => ?_) ?_ ?_
    · rw [List.forall₂_nil_left_iff]
    · simp
    · simp
  | cons a l ih =>
    rw [List.mapM_cons]
    refine ((h a).bind fun b => ih.bind fun bs => ReadsAs.pure (b :: bs)).congr (fun bs => ?_) ?_ ?_
    · rw [List.forall₂_cons_left_iff]
      constructor
      · rintro ⟨b, hb, bs', hbs, rfl⟩
        exact ⟨b, bs', hb, hbs, rfl⟩
      · rintro ⟨b, bs', hb, hbs, rfl⟩
        exact ⟨b, hb, bs', hbs, rfl⟩
    · simp
    · constructor
      · rintro (hl | ⟨hg, (⟨front, a', back, rfl, hfront, hl⟩ | ⟨_, ⟨⟩⟩)⟩)
        · exact ⟨[], a, l, rfl, nofun, hl⟩
        · exact ⟨a :: front, a', back, rfl, List.forall_mem_cons.mpr ⟨hg, hfront⟩, hl⟩
      · rintro ⟨_ | ⟨first, front⟩, a', back, hl, hfront, hlong⟩
        · cases hl
          exact .inl hlong
        · obtain ⟨rfl, rfl⟩ := List.cons.inj hl
          have hsplit := List.forall_mem_cons.mp hfront
          exact .inr ⟨hsplit.1, .inl ⟨front, a', back, rfl, hsplit.2, hlong⟩⟩

/-- a fault is reported unless an integer is too long before it -/
theorem exists_config_iff (h : ReadsAs x good bad long) :
    (∃ e, x = .error (.config e)) ↔ bad ∧ ¬ long := by
  constructor
  · rintro ⟨e, rfl⟩
    refine ⟨h.fault e rfl, fun hl => ?_⟩
    obtain ⟨e', he⟩ := h.long.mpr hl
    exact nomatch he
  · rintro ⟨hb, hl⟩
    cases x with
    | ok a => exact absurd ((h.ok a).mp rfl) (h.clear hb a)
    | error e =>
      cases e with
      | config e => exact ⟨e, rfl⟩
      | long e => exact absurd (h.long.mp ⟨e, rfl⟩) hl

/-- without a fault and without an integer that is too long there is a value -/
theorem exists_ok (h : ReadsAs x good bad long) (hb : ¬ bad) (hl : ¬ long) :
    ∃ a, x = .ok a ∧ good a := by
  cases x with
  | ok a => exact ⟨a, rfl, (h.ok a).mp rfl⟩
  | error e =>
    cases e with
    | config e => exact absurd (h.fault e rfl) hb
    | long e => exact absurd (h.long.mp ⟨e, rfl⟩) hl

end ReadsAs

/-! ## what settings say -/

/-- the severities that the settings give to rules -/
def overrides (t : Assoc Setting) : List (String × Setting) :=
  ((t.get? "severity").map Setting.entries).getD []

/-- the settings name a preset: the recommended one if they name none or a blank one -/
def NamesPreset (t : Assoc Setting) (p : Preset) : Prop :=
  t.get? "preset" = none ∧ p = .recommended ∨
    ∃ s text, t.get? "preset" = some s ∧ s.shown? = some text ∧
      (Text.strip text = "" ∧ p = .recommended ∨ p.name = Text.strip text)

/-- an entry gives a rule a severity -/
structure GivesSeverity (e : String × Setting) (o : String × Severity) : Prop where
  name : o.1 = e.1
  rule : ∃ r : Rule, r.id = e.1
  level : ∃ text, e.2.shown? = some text ∧ o.2.name = Text.lower (Text.strip text)

/-- a truth value as it is given, or `true` -/
def FlagIs (t : Assoc Setting) (key : String) (b : Bool) : Prop :=
  t.get? key = some (.flag b) ∨ t.get? key = none ∧ b = true

/-- a list of texts without the white space around them and without the blank ones -/
def ListsTexts (s : Setting) (texts : List String) : Prop :=
  ∃ given : List String, s = .list (given.map .text) ∧
    texts = (given.map Text.strip).filter (· != "")

/-- a table of such lists, which is empty if it is not given -/
def TableIs (t : Assoc Setting) (key : String) (table : Assoc (List String)) : Prop :=
  t.get? key = none ∧ table = [] ∨
    ∃ entries, t.get? key = some (.table entries) ∧
      List.Forall₂ (fun e o => o.1 = e.1 ∧ ListsTexts e.2 o.2) entries table

/-- the configuration is what the settings say -/
structure Config.Says (c : Config) (t : Assoc Setting) : Prop where
  preset : NamesPreset t c.preset
  severity : List.Forall₂ GivesSeverity (overrides t) c.severity
  symmetricConflicts : FlagIs t "symmetric_conflicts" c.symmetricConflicts
  checkCycles : FlagIs t "check_cycles" c.checkCycles
  semantic : FlagIs t "semantic" c.semantic
  exclude : ListsTexts ((t.get? "exclude").getD (.list [])) c.exclude
  dependencies : TableIs t "dependencies" c.dependencies
  conflicts : TableIs t "conflicts" c.conflicts

/-- what is wrong with settings: a preset that is not known, a rule or a level that is not known, or
a value of the wrong kind -/
inductive Faulty (t : Assoc Setting) : Prop
  | preset {s : Setting} {text : String} (h : t.get? "preset" = some s)
    (hshown : s.shown? = some text) (hblank : Text.strip text ≠ "")
      (hname : ∀ p : Preset, p.name ≠ Text.strip text)
  | rule {e : String × Setting} (h : e ∈ overrides t) (hid : ∀ r : Rule, r.id ≠ e.1)
  | level {e : String × Setting} {text : String} (h : e ∈ overrides t)
    (hshown : e.2.shown? = some text)
    (hname : ∀ v : Severity, v.name ≠ Text.lower (Text.strip text))
  | flag {key : String} {s : Setting}
    (hkey : key ∈ ["symmetric_conflicts", "check_cycles", "semantic"])
    (h : t.get? key = some s) (hkind : ∀ b, s ≠ .flag b)
  | exclude {s : Setting} (h : t.get? "exclude" = some s) (hkind : ¬ s.IsTexts)
  | table {key : String} {s : Setting} (hkey : key ∈ ["dependencies", "conflicts"])
    (h : t.get? key = some s)
    (hkind : ¬ s.IsTextTable)

/-- reading comes to an integer that is too long: it is in the preset, or in the level of a rule
that is known and all that is read before it is right -/
def StopsAtLong (t : Assoc Setting) : Prop :=
  (∃ s, t.get? "preset" = some s ∧ s.HoldsLong) ∨
    (∃ p, NamesPreset t p) ∧ ∃ front e back, overrides t = front ++ e :: back ∧
      (∀ e' ∈ front, ∃ o, GivesSeverity e' o) ∧ (∃ r : Rule, r.id = e.1) ∧ e.2.HoldsLong

/-! ## the readers of the settings -/

/-- what is read off the text of a setting -/
theorem readsAs_strippedText (s : Setting) {β : Type} {f : String → Except SettingsError β}
    (good : String → β → Prop) (bad : String → Prop)
    (hf : ∀ name, ReadsAs (f name) (good name) (bad name) False) :
    ReadsAs (Config.strippedText s >>= f) (fun b => ∃ text, s.shown? = some text ∧
      good (Text.strip text) b)
      (∃ text, s.shown? = some text ∧ bad (Text.strip text)) s.HoldsLong := by
  rw [← s.shown?_eq_none]
  unfold Config.strippedText
  cases s.shown? with
  | none => exact (ReadsAs.stop .write).congr (fun b => by simp) (by simp) (by simp)
  | some text => exact (hf (Text.strip text)).congr (fun b => by simp) (by simp) (by simp)

theorem readsAs_presetOf (t : Assoc Setting) :
    ReadsAs (Config.presetOf t) (NamesPreset t)
      (∃ s text, t.get? "preset" = some s ∧ s.shown? = some text ∧ Text.strip text ≠ "" ∧
        ∀ p : Preset, p.name ≠ Text.strip text)
      (∃ s, t.get? "preset" = some s ∧ s.HoldsLong) := by
  unfold Config.presetOf NamesPreset
  cases t.get? "preset" with
  | none => exact (ReadsAs.pure Preset.recommended).congr (fun p => by simp) (by simp) (by simp)
  | some s =>
    refine (readsAs_strippedText s (fun name p => name = "" ∧ p = .recommended ∨ p.name = name)
      (fun name => name ≠ "" ∧ ∀ p : Preset, p.name ≠ name) fun name => ?_).congr
      (fun p => by simp) (by simp) (by simp)
    have hname (p : Preset) : p.name ≠ "" := by cases p <;> decide
    split
    · rename_i hblank
      exact (ReadsAs.pure Preset.recommended).congr (fun p => by simp [hblank, hname])
        (by simp [hblank]) .rfl
    · rename_i hblank
      cases hfind : Preset.ofName? name with
      | none =>
        have hnone := Preset.ofName?_eq_none.mp hfind
        exact (ReadsAs.refuse _).congr (fun p => by simp [hblank, hnone])
          (by simp [hblank, hnone]) .rfl
      | some p =>
        refine (ReadsAs.pure p).congr (fun q => ?_) ?_ .rfl
        · rw [← Preset.ofName?_eq_some (p := q), hfind]
          simpa [hblank] using eq_comm
        · have hp := Preset.ofName?_eq_some.mp hfind
          exact ⟨nofun, fun h => h.2 p hp⟩

theorem readsAs_severityEntry (e : String × Setting) :
    ReadsAs (Config.severityEntry e) (GivesSeverity e)
      ((∀ r : Rule, r.id ≠ e.1) ∨
        ∃ text, e.2.shown? = some text ∧ ∀ v : Severity, v.name ≠ Text.lower (Text.strip text))
      ((∃ r : Rule, r.id = e.1) ∧ e.2.HoldsLong) := by
  unfold Config.severityEntry
  cases hfind : Rule.ofId? e.1 with
  | none =>
    have hnone := Rule.ofId?_eq_none.mp hfind
    exact (ReadsAs.refuse _).congr (fun o => ⟨nofun, fun h => h.rule.elim hnone⟩) (by simp [hnone])
      (by simp [hnone])
  | some r =>
    have hid := Rule.ofId?_eq_some.mp hfind
    refine (readsAs_strippedText e.2 (fun text o => o.1 = e.1 ∧ o.2.name = Text.lower text)
      (fun text => ∀ v : Severity, v.name ≠ Text.lower text)
        fun text => ?_).congr (fun o => ?_) ?_ ?_
    · cases hlevel : Severity.ofName? (Text.lower text) with
      | none =>
        have hnone := Severity.ofName?_eq_none.mp hlevel
        exact (ReadsAs.refuse _).congr (fun o => by simp [hnone]) (by simp [hnone]) .rfl
      | some v =>
        refine (ReadsAs.pure (e.1, v)).congr (fun o => ?_) ?_ .rfl
        · rw [← Severity.ofName?_eq_some, hlevel, Prod.ext_iff, Option.some.injEq, eq_comm (a := v)]
        · have hv := Severity.ofName?_eq_some.mp hlevel
          exact ⟨nofun, fun h => h v hv⟩
    · constructor
      · rintro ⟨text, hshown, hname, hlevel⟩
        exact ⟨hname, ⟨r, hid⟩, text, hshown, hlevel⟩
      · rintro ⟨hname, _, text, hshown, hlevel⟩
        exact ⟨text, hshown, hname, hlevel⟩
    · exact ⟨.inr, fun h => h.resolve_left fun hnone => hnone r hid⟩
    · exact ⟨fun h => ⟨⟨r, hid⟩, h⟩, And.right⟩

theorem readsAs_flag (t : Assoc Setting) (key : String) :
    ReadsAs (Config.flag t key) (FlagIs t key)
      (∃ s, t.get? key = some s ∧ ∀ b, s ≠ .flag b) False := by
  unfold Config.flag FlagIs
  cases t.get? key with
  | none => exact (ReadsAs.pure true).congr (fun b => by simp) (by simp) .rfl
  | some s =>
    cases s with
    | flag b => exact (ReadsAs.pure b).congr (fun b' => by simpa using eq_comm) (by simp) .rfl
    | _ => exact (ReadsAs.refuse _).congr (fun b => by simp) (by simp) .rfl

theorem readsAs_textList (key : String) (s : Setting) :
    ReadsAs (Config.textList key s) (ListsTexts s) (¬ s.IsTexts) False := by
  unfold Config.textList ListsTexts
  cases hgiven : s.texts? with
  | none =>
    have hnot := s.texts?_eq_none.mp hgiven
    exact (ReadsAs.refuse _).congr (fun texts => ⟨nofun, fun ⟨given, h, _⟩ => hnot ⟨given, h⟩⟩)
      (by simp [hnot]) .rfl
  | some given =>
    have hs := (s.texts?_eq_some given).mp hgiven
    refine (ReadsAs.pure _).congr (fun texts => ?_) ⟨nofun, fun hnot => hnot ⟨given, hs⟩⟩ .rfl
    constructor
    · rintro rfl
      exact ⟨given, hs, rfl⟩
    · rintro ⟨given', hs', rfl⟩
      cases hgiven.symm.trans ((s.texts?_eq_some given').mpr hs')
      rfl

theorem readsAs_textTable (t : Assoc Setting) (key : String) :
    ReadsAs (Config.textTable t key) (TableIs t key) (∃ s, t.get? key = some s ∧ ¬ s.IsTextTable)
      False := by
  unfold Config.textTable TableIs
  cases t.get? key with
  | none => exact (ReadsAs.pure []).congr (fun table => by simp) (by simp) .rfl
  | some s =>
    cases s with
    | table entries =>
      have hentry (e : String × Setting) :
          ReadsAs (Config.textList (key ++ "." ++ e.1) e.2 >>= fun targets => pure (e.1, targets))
            (fun o => o.1 = e.1 ∧ ListsTexts e.2 o.2) (¬ e.2.IsTexts) False := by
        refine ((readsAs_textList _ e.2).bind fun targets => ReadsAs.pure (e.1, targets)).congr
          (fun o => ?_) (by simp)
          (by simp)
        constructor
        · rintro ⟨targets, h, rfl⟩
          exact ⟨rfl, h⟩
        · rintro ⟨hname, h⟩
          exact ⟨o.2, h, Prod.ext hname rfl⟩
      exact (ReadsAs.mapM hentry entries).congr (fun table => by simp)
        (by simp [Setting.IsTextTable]) (by simp)
    | _ =>
      exact (ReadsAs.refuse _).congr (fun table => by simp) (by simp [Setting.IsTextTable]) .rfl

/-- the faults, in the order in which the settings are read -/
theorem faulty_iff (t : Assoc Setting) :
    Faulty t ↔
      (∃ s text, t.get? "preset" = some s ∧ s.shown? = some text ∧ Text.strip text ≠ "" ∧
        ∀ p : Preset, p.name ≠ Text.strip text) ∨
      (∃ e ∈ overrides t, (∀ r : Rule, r.id ≠ e.1) ∨
        ∃ text, e.2.shown? = some text ∧ ∀ v : Severity, v.name ≠ Text.lower (Text.strip text)) ∨
      (∃ key ∈ ["symmetric_conflicts", "check_cycles", "semantic"], ∃ s, t.get? key = some s ∧
        ∀ b, s ≠ .flag b) ∨
      ¬ ((t.get? "exclude").getD (.list [])).IsTexts ∨
      ∃ key ∈ ["dependencies", "conflicts"], ∃ s, t.get? key = some s ∧ ¬ s.IsTextTable := by
  constructor
  · intro h
    cases h with
    | preset h hshown hblank hname => exact .inl ⟨_, _, h, hshown, hblank, hname⟩
    | rule he hid => exact .inr (.inl ⟨_, he, .inl hid⟩)
    | level he hshown hname => exact .inr (.inl ⟨_, he, .inr ⟨_, hshown, hname⟩⟩)
    | flag hkey h hkind => exact .inr (.inr (.inl ⟨_, hkey, _, h, hkind⟩))
    | exclude h hkind => exact .inr (.inr (.inr (.inl (by rw [h]; exact hkind))))
    | table hkey h hkind => exact .inr (.inr (.inr (.inr ⟨_, hkey, _, h, hkind⟩)))
  · rintro (⟨s, text, h, hshown, hblank, hname⟩ | ⟨e, he, (hid | ⟨text, hshown, hname⟩)⟩ |
      ⟨key, hkey, s, h, hkind⟩ |
      hkind | ⟨key, hkey, s, h, hkind⟩)
    · exact .preset h hshown hblank hname
    · exact .rule he hid
    · exact .level he hshown hname
    · exact .flag hkey h hkind
    · cases h : t.get? "exclude" with
      | none =>
        rw [h] at hkind
        exact absurd Setting.isTexts_nil hkind
      | some s =>
        rw [h] at hkind
        exact .exclude h hkind
    · exact .table hkey h hkind

/-- what reading settings does -/
theorem readsAs_ofSettings (t : Assoc Setting) (source : Option Path) :
    ReadsAs (Config.ofSettings t source) (fun c => c.source = source ∧ c.Says t) (Faulty t)
      (StopsAtLong t) := by
  unfold Config.ofSettings
  refine ((readsAs_presetOf t).bind fun preset =>
    (ReadsAs.mapM readsAs_severityEntry (overrides t)).bind fun severity =>
    (readsAs_flag t "symmetric_conflicts").bind fun symmetricConflicts =>
    (readsAs_flag t "check_cycles").bind fun checkCycles =>
    (readsAs_flag t "semantic").bind fun semantic =>
    (readsAs_textList "exclude" ((t.get? "exclude").getD (.list []))).bind fun exclude =>
    (readsAs_textTable t "dependencies").bind fun dependencies =>
    (readsAs_textTable t "conflicts").bind fun conflicts =>
      ReadsAs.pure _).congr (fun c => ?_) ?_ ?_
  · constructor
    · rintro ⟨_, hp, _, hv, _, hs, _, hc, _, hm, _, he, _, hd, _, hf, rfl⟩
      exact ⟨rfl, hp, hv, hs, hc, hm, he, hd, hf⟩
    · rintro ⟨rfl, hp, hv, hs, hc, hm, he, hd, hf⟩
      exact ⟨_, hp, _, hv, _, hs, _, hc, _, hm, _, he, _, hd, _, hf, rfl⟩
  · -- a fault counts wherever it stands, so the faults of all the readers are joined as they are
    simp only [faulty_iff, List.mem_cons, List.not_mem_nil, or_false, exists_eq_or_imp,
      exists_eq_left, or_assoc]
  · -- only the preset and the levels are written out
    simp only [and_false, or_false, StopsAtLong]

/-! ## configurations as settings -/

/-- a text that is not blank and has no white space around it -/
def Trimmed (s : String) : Prop := s ≠ "" ∧ Text.strip s = s

/-- a configuration of rules that are known and of texts without white space around them -/
structure Config.Normal (c : Config) : Prop where
  severity : ∀ e ∈ c.severity, ∃ r : Rule, r.id = e.1
  exclude : ∀ s ∈ c.exclude, Trimmed s
  dependencies : ∀ e ∈ c.dependencies, ∀ s ∈ e.2, Trimmed s
  conflicts : ∀ e ∈ c.conflicts, ∀ s ∈ e.2, Trimmed s

/-- lists of texts, by name, as a setting -/
def tableSetting (table : Assoc (List String)) : Setting :=
  .table (table.map fun e => (e.1, .list (e.2.map .text)))

/-- the fields of a configuration as a table of settings -/
def Config.settings (c : Config) : Assoc Setting :=
  [("preset", .text c.preset.name),
    ("severity", .table (c.severity.map fun e => (e.1, .text e.2.name))),
    ("symmetric_conflicts", .flag c.symmetricConflicts), ("check_cycles", .flag c.checkCycles),
    ("semantic", .flag c.semantic), ("exclude", .list (c.exclude.map .text)),
    ("dependencies", tableSetting c.dependencies), ("conflicts", tableSetting c.conflicts)]

theorem exists_of_mem_right {α β : Type} {R : α → β → Prop} {l : List α} {m : List β}
    (h : List.Forall₂ R l m) :
    ∀ b ∈ m, ∃ a, R a b := by
  induction h with
  | nil => exact nofun
  | cons hab _ ih => exact List.forall_mem_cons.mpr ⟨⟨_, hab⟩, ih⟩

theorem ListsTexts.trimmed {s : Setting} {texts : List String} (h : ListsTexts s texts) :
    ∀ e ∈ texts, Trimmed e := by
  obtain ⟨given, _, rfl⟩ := h
  intro e he
  obtain ⟨hmem, hblank⟩ := List.mem_filter.mp he
  obtain ⟨text, _, rfl⟩ := List.mem_map.mp hmem
  exact ⟨bne_iff_ne.mp hblank, Text.strip_strip text⟩

theorem listsTexts_of_trimmed {texts : List String} (h : ∀ e ∈ texts, Trimmed e) :
    ListsTexts (.list (texts.map .text)) texts := by
  refine ⟨texts, rfl, ?_⟩
  have hstrip : texts.map Text.strip = texts := by
    conv_rhs => rw [← List.map_id texts]
    exact List.map_congr_left fun e he => (h e he).2
  rw [hstrip, List.filter_eq_self.mpr fun e he => bne_iff_ne.mpr (h e he).1]

theorem TableIs.trimmed {t : Assoc Setting} {key : String} {table : Assoc (List String)}
    (h : TableIs t key table) :
    ∀ e ∈ table, ∀ s ∈ e.2, Trimmed s := by
  intro e he
  obtain ⟨_, rfl⟩ | ⟨entries, _, hentries⟩ := h
  · exact nomatch he
  · obtain ⟨_, _, hlist⟩ := exists_of_mem_right hentries e he
    exact hlist.trimmed

theorem tableIs_of_trimmed {t : Assoc Setting} {key : String} {table : Assoc (List String)}
    (hget : t.get? key = some (tableSetting table)) (h : ∀ e ∈ table, ∀ s ∈ e.2, Trimmed s) :
    TableIs t key table := by
  refine .inr ⟨_, hget, List.forall₂_map_left_iff.mpr (List.forall₂_same.mpr fun e he => ?_)⟩
  exact ⟨rfl, listsTexts_of_trimmed (h e he)⟩

/-- what settings say is normal -/
theorem Config.Says.normal {c : Config} {t : Assoc Setting} (h : c.Says t) : c.Normal where
  severity e he := by
    obtain ⟨_, hgives⟩ := exists_of_mem_right h.severity e he
    rw [hgives.name]
    exact hgives.rule
  exclude := h.exclude.trimmed
  dependencies := h.dependencies.trimmed
  conflicts := h.conflicts.trimmed

/-- the settings of a normal configuration say what it is, wherever they are read from -/
theorem Config.Normal.says_settings {c : Config} (h : c.Normal) (other : Option Path) :
    { c with source := other }.Says c.settings where
  preset := .inr ⟨_, _, rfl, rfl, .inr c.preset.strip_name.symm⟩
  severity := List.forall₂_map_left_iff.mpr (List.forall₂_same.mpr fun e he =>
    ⟨rfl, h.severity e he, _, rfl, e.2.lower_strip_name.symm⟩)
  symmetricConflicts := .inl rfl
  checkCycles := .inl rfl
  semantic := .inl rfl
  exclude := listsTexts_of_trimmed h.exclude
  dependencies := tableIs_of_trimmed rfl h.dependencies
  conflicts := tableIs_of_trimmed rfl h.conflicts

/-- settings are refused exactly if something is wrong with them, unless reading comes to an integer
first that is too long. Settings with nothing wrong make the configuration that they say, which is
normal, and whose own settings make it again -/
theorem settings_read_exactly (t : Assoc Setting) (source : Option Path) :
    ((∃ e, Config.ofSettings t source = .error (.config e)) ↔ Faulty t ∧ ¬ StopsAtLong t) ∧
      ((∃ e, Config.ofSettings t source = .error (.long e)) ↔ StopsAtLong t) ∧
      (¬ Faulty t → ¬ StopsAtLong t → ∃ c, Config.ofSettings t source = .ok c ∧
        c.source = source ∧ c.Says t ∧ c.Normal ∧
        ∀ other, Config.ofSettings c.settings other = .ok { c with source := other }) := by
  have hreads := readsAs_ofSettings t source
  refine ⟨hreads.exists_config_iff, hreads.long, fun hfaulty hlong => ?_⟩
  obtain ⟨c, hc, hsource, hsays⟩ := hreads.exists_ok hfaulty hlong
  refine ⟨c, hc, hsource, hsays, hsays.normal, fun other => ?_⟩
  exact ((readsAs_ofSettings c.settings other).ok _).mpr ⟨rfl, hsays.normal.says_settings other⟩

/-- settings with white space and capitals that do not count -/
def paddedSettings : Assoc Setting :=
  [("preset", .text " strict "), ("severity", .table [("component-order", .text "Warning\n")]),
    ("exclude", .list [.text " gen/* ", .text "  "]),
    ("conflicts", .table [("Ghost", .list [.text "Solid "])])]

theorem settings_read_exactly_padded :
    (¬ Faulty paddedSettings ∧ ¬ StopsAtLong paddedSettings) ∧
      ∃ c, Config.ofSettings paddedSettings none = .ok c ∧ c.exclude = ["gen/*"] ∧
        Config.ofSettings c.settings none = .ok c := by
  have hread : Config.ofSettings paddedSettings none = .ok ⟨.strict, true, true, true, ["gen/*"],
      [("component-order", .warning)], [], [("Ghost", ["Solid"])], none⟩ := by rfl
  have hreads := readsAs_ofSettings paddedSettings none
  have hfaulty : ¬ Faulty paddedSettings := fun h => hreads.clear h _ ((hreads.ok _).mp hread)
  have hlong : ¬ StopsAtLong paddedSettings := by
    intro h
    obtain ⟨e, he⟩ := hreads.long.mpr h
    exact nomatch hread.symm.trans he
  obtain ⟨c, hc, _, _, _, hagain⟩ := (settings_read_exactly paddedSettings none).2.2 hfaulty hlong
  cases hread.symm.trans hc
  exact ⟨⟨hfaulty, hlong⟩, _, hread, rfl, hagain none⟩

theorem exists_long_of_integer {n : Int} (h : Nat.pow 10 Setting.maxDigits ≤ n.natAbs) :
    ∃ e, Config.ofSettings [("preset", .integer n)] none = .error (.long e) :=
  (readsAs_ofSettings [("preset", .integer n)] none).long.mpr (.inl ⟨.integer n, rfl, .integer h⟩)

/-- a preset that is an integer too long to be written is neither refused nor read -/
theorem long_preset_not_refused :
    (∀ e, Config.ofSettings [("preset", .integer (Nat.pow 10 Setting.maxDigits))] none
      ≠ .error (.config e)) ∧
      ∀ c, Config.ofSettings [("preset", .integer (Nat.pow 10 Setting.maxDigits))] none
        ≠ .ok c := by
  obtain ⟨e, he⟩ := exists_long_of_integer (Int.natAbs_natCast (Nat.pow 10 Setting.maxDigits)).ge
  rw [he]
  exact ⟨nofun, nofun⟩

end Archetype
