import Archetype.Path
import Mathlib.Data.List.Basic

/-!
# Paths and their texts

A path that was read from a text has proper names: none is empty, a dot or cut by a slash. Such a
path is known by its text, and a unit of a program by the text of its path as seen from the root.

* `Path.Proper`          what every path that was read has;
* `Path.ofString_text`   the text of a proper path is read as that path;
* `Path.text_inj`        proper paths with one text are one path;
* `Path.Placed`          the paths that a root leads to;
* `Path.relativeTo_inj`  placed paths that look alike from the root are one path.
-/

namespace Archetype

namespace Path

/-- a name that can stand in a path -/
def IsName (n : String) : Prop := n ≠ "" ∧ n ≠ "." ∧ '/' ∉ n.toList

/-- a path as it is after reading: one of the three anchors, and proper names -/
structure Proper (p : Path) : Prop where
  anchor : p.anchor = "" ∨ p.anchor = "/" ∨ p.anchor = "//"
  names : ∀ n ∈ p.names, IsName n

instance (n : String) : Decidable (IsName n) := inferInstanceAs (Decidable (_ ∧ _ ∧ _))

instance (p : Path) : Decidable p.Proper :=
  decidable_of_iff ((p.anchor = "" ∨ p.anchor = "/" ∨ p.anchor = "//") ∧ ∀ n ∈ p.names, IsName n)
    ⟨fun h => ⟨h.1, h.2⟩, fun h => ⟨h.anchor, h.names⟩⟩

/-! ## names put together -/

/-- the characters of names with slashes between them -/
def body (names : List String) : List Char := ['/'].intercalate (names.map String.toList)

theorem toList_joinWith (names : List String) : (Text.joinWith "/" names).toList = body names :=
  String.toList_intercalate

theorem body_nil : body [] = [] := rfl

theorem body_singleton (n : String) : body [n] = n.toList := List.intercalate_singleton

theorem body_cons_cons (n m : String) (names : List String) :
    body (n :: m :: names) = n.toList ++ '/' :: body (m :: names) := by
  unfold body
  rw [List.map_cons, List.map_cons, List.intercalate_cons_cons]
  simp

/-- names put together start with the first of them -/
theorem body_cons (n : String) (names : List String) :
    ∃ rest, body (n :: names) = n.toList ++ rest := by
  cases names with
  | nil => exact ⟨[], by rw [body_singleton, List.append_nil]⟩
  | cons m names => exact ⟨_, body_cons_cons n m names⟩

theorem mem_body {c : Char} {names : List String} (h : c ∈ body names) :
    c = '/' ∨ ∃ n ∈ names, c ∈ n.toList := by
  induction names with
  | nil => exact absurd h List.not_mem_nil
  | cons n names ih =>
    cases names with
    | nil =>
      rw [body_singleton] at h
      exact Or.inr ⟨n, List.mem_cons_self .., h⟩
    | cons m names =>
      rw [body_cons_cons, List.mem_append, List.mem_cons] at h
      rcases h with h | h | h
      · exact Or.inr ⟨n, List.mem_cons_self .., h⟩
      · exact Or.inl h
      · exact (ih h).imp_right fun ⟨k, hk, hc⟩ => ⟨k, List.mem_cons_of_mem _ hk, hc⟩

theorem mem_body_of_mem {c : Char} {n : String} {names : List String} (hn : n ∈ names)
    (hc : c ∈ n.toList) :
    c ∈ body names := by
  induction names with
  | nil => exact absurd hn List.not_mem_nil
  | cons k names ih =>
    rcases List.mem_cons.mp hn with rfl | hn
    · obtain ⟨rest, hrest⟩ := body_cons n names
      rw [hrest]
      exact List.mem_append_left _ hc
    · cases names with
      | nil => exact absurd hn List.not_mem_nil
      | cons m names =>
        rw [body_cons_cons]
        exact List.mem_append_right _ (List.mem_cons_of_mem _ (ih hn))

theorem IsName.toList_ne_nil {n : String} (h : IsName n) : n.toList ≠ [] := fun e =>
  h.1 (String.toList_inj.mp e)

/-! ## texts -/

/-- what follows the anchor in the text of a path -/
def tail (p : Path) : List Char := if p.anchor = "" ∧ p.names = [] then ['.'] else body p.names

theorem toList_text (p : Path) : p.text.toList = p.anchor.toList ++ p.tail := by
  unfold text tail
  by_cases h : p.anchor = "" ∧ p.names = []
  · simp [h.1, h.2]
  · have hb : ¬ ((decide (p.anchor = "") && p.names.isEmpty) = true) := by simpa using h
    rw [if_neg hb, if_neg h, String.toList_append, toList_joinWith]

/-- no slash follows the anchor -/
theorem head_tail {p : Path} (h : p.Proper) (c : Char) (rest : List Char) (e : p.tail = c :: rest) :
    c ≠ '/' := by
  unfold tail at e
  split at e
  · cases e
    decide
  · cases hn : p.names with
    | nil =>
      rw [hn, body_nil] at e
      cases e
    | cons n names =>
      have hname := h.names n (hn ▸ List.mem_cons_self ..)
      obtain ⟨more, hmore⟩ := body_cons n names
      rw [hn, hmore] at e
      cases hl : n.toList with
      | nil => exact absurd hl hname.toList_ne_nil
      | cons d ds =>
        rw [hl, List.cons_append] at e
        intro hc
        apply hname.2.2
        rw [hl, ← hc, (List.cons.inj e).1]
        exact List.mem_cons_self ..

theorem anchor_slashes {p : Path} (h : p.Proper) : ∀ c ∈ p.anchor.toList, c = '/' := by
  rcases h.anchor with e | e | e <;> rw [e] <;> simp

theorem mem_text_of_mem {c : Char} {p : Path} {n : String} (hn : n ∈ p.names) (hc : c ∈ n.toList) :
    c ∈ p.text.toList := by
  rw [toList_text]
  apply List.mem_append_right
  unfold tail
  rw [if_neg fun h => List.not_mem_nil (h.2 ▸ hn)]
  exact mem_body_of_mem hn hc

theorem mem_text {c : Char} {p : Path} (hp : p.Proper) (h : c ∈ p.text.toList) :
    c = '/' ∨ c = '.' ∨ ∃ n ∈ p.names, c ∈ n.toList := by
  rw [toList_text, List.mem_append] at h
  rcases h with h | h
  · left
    exact anchor_slashes hp c h
  · unfold tail at h
    split at h
    · exact Or.inr (Or.inl (List.mem_singleton.mp h))
    · exact (mem_body h).imp_right Or.inr

/-! ## reading -/

theorem splitChars_free (sep : Char) (cs : List Char) :
    ∀ piece ∈ Text.splitChars sep cs, sep ∉ piece := by
  induction cs with
  | nil =>
    intro piece hp
    rw [List.mem_singleton.mp hp]
    exact List.not_mem_nil
  | cons c cs ih =>
    intro piece hp
    unfold Text.splitChars at hp
    split at hp
    · rcases List.mem_cons.mp hp with rfl | hp
      · exact List.not_mem_nil
      · exact ih piece hp
    · rename_i hc
      cases hs : Text.splitChars sep cs with
      | nil => exact absurd hs (Text.splitChars_ne_nil sep cs)
      | cons first more =>
        rw [hs] at hp ih
        rcases List.mem_cons.mp hp with rfl | hp
        · intro hsep
          rcases List.mem_cons.mp hsep with rfl | hsep
          · exact hc rfl
          · exact ih first (List.mem_cons_self ..) hsep
        · exact ih piece (List.mem_cons_of_mem _ hp)

/-- every path that was read is proper -/
theorem ofString_proper (s : String) : (ofString s).Proper where
  anchor := by
    show anchorOf s.toList = "" ∨ anchorOf s.toList = "/" ∨ anchorOf s.toList = "//"
    unfold anchorOf
    split <;> decide
  names := by
    intro n hn
    obtain ⟨hmem, hne⟩ := List.mem_filter.mp hn
    obtain ⟨piece, hpiece, rfl⟩ := List.mem_map.mp hmem
    rw [Bool.and_eq_true, bne_iff_ne, bne_iff_ne] at hne
    refine ⟨hne.1, hne.2, ?_⟩
    rw [String.toList_ofList]
    exact splitChars_free '/' s.toList piece hpiece

theorem splitChars_of_free {sep : Char} {piece : List Char} (h : sep ∉ piece) :
    Text.splitChars sep piece = [piece] := by
  induction piece with
  | nil => rfl
  | cons c piece ih =>
    obtain ⟨hc, hpiece⟩ := List.ne_and_not_mem_of_not_mem_cons h
    rw [Text.splitChars, if_neg hc.symm, ih hpiece]

theorem splitChars_append {sep : Char} {piece : List Char} (h : sep ∉ piece) (cs : List Char) :
    Text.splitChars sep (piece ++ sep :: cs) = piece :: Text.splitChars sep cs := by
  induction piece with
  | nil => exact if_pos rfl
  | cons c piece ih =>
    obtain ⟨hc, hpiece⟩ := List.ne_and_not_mem_of_not_mem_cons h
    rw [List.cons_append, Text.splitChars, if_neg hc.symm, ih hpiece]

theorem splitChars_body {n : String} {names : List String} (h : ∀ m ∈ n :: names, IsName m) :
    (Text.splitChars '/' (body (n :: names))).map String.ofList = n :: names := by
  induction names generalizing n with
  | nil =>
    rw [body_singleton, splitChars_of_free (h n (List.mem_cons_self ..)).2.2, List.map_singleton,
      String.ofList_toList]
  | cons m names ih =>
    rw [body_cons_cons, splitChars_append (h n (List.mem_cons_self ..)).2.2, List.map_cons,
      String.ofList_toList, ih fun k hk => h k (List.mem_cons_of_mem _ hk)]

/-- the names of a path in what was written of it -/
def namesIn (cs : List Char) : List String :=
  ((Text.splitChars '/' cs).map String.ofList).filter fun n => n != "" && n != "."

/-- slashes before the names are no names -/
theorem namesIn_append {slashes : List Char} (h : ∀ c ∈ slashes, c = '/') (cs : List Char) :
    namesIn (slashes ++ cs) = namesIn cs := by
  induction slashes with
  | nil => rfl
  | cons c slashes ih =>
    rw [← ih fun d hd => h d (List.mem_cons_of_mem _ hd), h c (List.mem_cons_self ..),
      List.cons_append]
    unfold namesIn
    rw [Text.splitChars, if_pos rfl]
    rfl

theorem namesIn_tail {p : Path} (h : p.Proper) : namesIn p.tail = p.names := by
  unfold tail
  split
  · rename_i hdot
    rw [hdot.2]
    decide
  · cases hn : p.names with
    | nil => decide
    | cons n names =>
      have hnames : ∀ m ∈ n :: names, IsName m := hn ▸ h.names
      rw [namesIn, splitChars_body hnames, List.filter_eq_self]
      intro m hm
      simp [(hnames m hm).1, (hnames m hm).2.1]

theorem anchorOf_text {p : Path} (h : p.Proper) : anchorOf p.text.toList = p.anchor := by
  rw [toList_text]
  have htail := head_tail h
  cases ht : p.tail with
  | nil => rcases h.anchor with e | e | e <;> rw [e] <;> rfl
  | cons c rest =>
    have hc := htail c rest ht
    rcases h.anchor with e | e | e <;> rw [e] <;> simp [anchorOf, hc]

/-- the text of a proper path is read as that path -/
theorem ofString_text {p : Path} (h : p.Proper) : ofString p.text = p := by
  have hnames : namesIn p.text.toList = p.names := by
    rw [toList_text, namesIn_append (anchor_slashes h), namesIn_tail h]
  exact congrArg₂ Path.mk (anchorOf_text h) hnames

/-- proper paths with one text are one path -/
theorem text_inj {p q : Path} (hp : p.Proper) (hq : q.Proper) (h : p.text = q.text) : p = q := by
  rw [← ofString_text hp, h, ofString_text hq]

/-! ## paths below a root -/

/-- a path that `root` leads to: one below it, or one with an anchor of its own -/
def Placed (root path : Path) : Prop := ∃ q : Path, q.Proper ∧ path = root.join q

/-- how a placed path looks from the root: by the names below the root, or by itself -/
theorem Placed.relativeTo_cases {root path : Path} (h : Placed root path) :
    (∃ names, (∀ n ∈ names, IsName n) ∧ path = ⟨root.anchor, root.names ++ names⟩ ∧
      path.relativeTo root = ⟨"", names⟩) ∨
    (path.Proper ∧ path.anchor ≠ "" ∧ path.relativeTo root = path) := by
  have hbelow : ∀ names, (⟨root.anchor, root.names ++ names⟩ : Path).relativeTo root
      = ⟨"", names⟩ := by
    intro names
    simp [relativeTo, relativeTo?]
  obtain ⟨q, hq, rfl⟩ := h
  unfold join
  split
  · exact Or.inl ⟨q.names, hq.names, rfl, hbelow q.names⟩
  · rename_i ha
    by_cases hb : q.anchor = root.anchor ∧ root.names <+: q.names
    · left
      obtain ⟨names, hnames⟩ := hb.2
      have hqe : q = ⟨root.anchor, root.names ++ names⟩ := by rw [← hb.1, hnames]
      refine ⟨names, fun n hn => hq.names n (hnames ▸ List.mem_append_right _ hn), hqe, ?_⟩
      rw [hqe]
      exact hbelow names
    · right
      refine ⟨hq, ha, ?_⟩
      unfold relativeTo relativeTo?
      rw [if_neg (by simpa using hb)]
      rfl

theorem Placed.relativeTo_proper {root path : Path} (h : Placed root path) :
    (path.relativeTo root).Proper := by
  rcases h.relativeTo_cases with ⟨names, hnames, _, e⟩ | ⟨hp, _, e⟩
  · rw [e]
    exact ⟨Or.inl rfl, hnames⟩
  · rw [e]
    exact hp

/-- placed paths that look alike from the root are one path -/
theorem relativeTo_inj {root p q : Path} (hp : Placed root p) (hq : Placed root q)
    (h : (p.relativeTo root).text = (q.relativeTo root).text) : p = q := by
  have e := text_inj hp.relativeTo_proper hq.relativeTo_proper h
  rcases hp.relativeTo_cases with ⟨ns, _, hpe, hpr⟩ | ⟨_, hpa, hpr⟩
  · rcases hq.relativeTo_cases with ⟨ms, _, hqe, hqr⟩ | ⟨_, hqa, hqr⟩
    · rw [hpr, hqr] at e
      have hnames : ns = ms := congrArg Path.names e
      rw [hpe, hqe, hnames]
    · rw [hpr, hqr] at e
      exact absurd (congrArg Path.anchor e).symm hqa
  · rcases hq.relativeTo_cases with ⟨ms, _, hqe, hqr⟩ | ⟨_, hqa, hqr⟩
    · rw [hpr, hqr] at e
      exact absurd (congrArg Path.anchor e) hpa
    · rw [hpr, hqr] at e
      exact e

/-- a character that is neither a slash nor a dot is in the text of a placed path if it is in the
text as seen from the root -/
theorem Placed.mem_text_of_relativeTo {root path : Path} (h : Placed root path) {c : Char}
    (hslash : c ≠ '/') (hdot : c ≠ '.') (hc : c ∈ (path.relativeTo root).text.toList) :
    c ∈ path.text.toList := by
  obtain ⟨n, hn, hcn⟩ := ((mem_text h.relativeTo_proper hc).resolve_left hslash).resolve_left hdot
  refine mem_text_of_mem ?_ hcn
  rcases h.relativeTo_cases with ⟨names, _, hpe, hpr⟩ | ⟨_, _, hpr⟩
  · rw [hpr] at hn
    rw [hpe]
    exact List.mem_append_right _ hn
  · rwa [hpr] at hn

end Path

end Archetype
