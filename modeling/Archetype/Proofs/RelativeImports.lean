import Archetype.Program.Load
import Archetype.Proofs.PathText
import Archetype.Resolve.Scope
import Mathlib.Data.List.TakeWhile

/-!
# Relative imports and the places of files

A `from` import with dots is followed on dotted names: the package of the unit is cut at its dots,
one part is dropped for each dot but the first, and the module written behind the dots is put below
the rest. The name of a module is read off the place of its file. The two agree.

* `splitOn_joinWith`, `beforeLast_joinWith`   dotted names are cut where they were put together;
* `moduleName_below`                          the module of a file below the root;
* `relativeModule?_eq`                        what a relative import means, by the directories of
                                              the unit;
* `relative_import_place`                     it is the module of the file at that place.
-/

namespace Archetype

open Text (splitOn joinWith beforeLast)

/-- a part of a dotted name -/
def IsPart (n : String) : Prop := n ≠ "" ∧ '.' ∉ n.toList

instance (n : String) : Decidable (IsPart n) := inferInstanceAs (Decidable (_ ∧ _))

/-! ## dotted names -/

theorem joinWith_cons {n : String} {names : List String} (h : names ≠ []) :
    joinWith "." (n :: names) = n ++ "." ++ joinWith "." names :=
  String.intercalate_cons_of_ne_nil h

theorem joinWith_concat {names : List String} (h : names ≠ []) (n : String) :
    joinWith "." (names ++ [n]) = joinWith "." names ++ "." ++ n := by
  induction names with
  | nil => exact absurd rfl h
  | cons m names ih =>
    cases names with
    | nil => rfl
    | cons k names =>
      have hne : k :: names ≠ [] := List.cons_ne_nil _ _
      rw [List.cons_append, joinWith_cons (by simp), ih hne, joinWith_cons hne]
      simp only [String.append_assoc]

/-- dotted names are cut into the parts that they were put together from -/
theorem splitOn_joinWith {names : List String} (hne : names ≠ [])
    (h : ∀ n ∈ names, '.' ∉ n.toList) :
    splitOn '.' (joinWith "." names) = names := by
  unfold splitOn
  induction names with
  | nil => exact absurd rfl hne
  | cons n names ih =>
    have hn := h n (List.mem_cons_self ..)
    by_cases hnil : names = []
    · subst hnil
      show (Text.splitChars '.' (joinWith "." [n]).toList).map String.ofList = [n]
      have hone : joinWith "." [n] = n := rfl
      rw [hone, Path.splitChars_of_free hn, List.map_singleton, String.ofList_toList]
    · have htext : (joinWith "." (n :: names)).toList
          = n.toList ++ '.' :: (joinWith "." names).toList := by
        rw [joinWith_cons hnil, String.toList_append, String.toList_append, List.append_assoc]
        rfl
      rw [htext, Path.splitChars_append hn, List.map_cons, String.ofList_toList,
        ih hnil fun m hm => h m (List.mem_cons_of_mem _ hm)]

/-- what stands before the last dot are the parts before the last -/
theorem beforeLast_joinWith {stem : String} (names : List String) (h : '.' ∉ stem.toList) :
    beforeLast '.' (joinWith "." (names ++ [stem])) = joinWith "." names := by
  have hstem : ∀ c ∈ stem.toList.reverse, (c != '.') = true := by
    intro c hc
    rw [bne_iff_ne]
    intro e
    exact h (e ▸ List.mem_reverse.mp hc)
  unfold beforeLast
  cases names with
  | nil =>
    have hone : joinWith "." ([] ++ [stem]) = stem := rfl
    rw [hone, List.dropWhile_eq_nil_iff.mpr hstem]
    rfl
  | cons n names =>
    have htext : (joinWith "." (n :: names ++ [stem])).toList.reverse
        = stem.toList.reverse ++ '.' :: (joinWith "." (n :: names)).toList.reverse := by
      rw [joinWith_concat (List.cons_ne_nil _ _), String.toList_append, String.toList_append,
        List.reverse_append, List.reverse_append]
      rfl
    rw [htext, List.dropWhile_append_of_pos hstem, List.dropWhile_cons_of_neg (by simp),
      List.drop_succ_cons, List.drop_zero, List.reverse_reverse, String.ofList_toList]

/-- a dotted name is empty only if it has no parts -/
theorem joinWith_eq_empty {names : List String} (h : ∀ n ∈ names, n ≠ "") :
    joinWith "." names = "" ↔ names = [] := by
  constructor
  · intro e
    cases names with
    | nil => rfl
    | cons n names =>
      have hn := h n (List.mem_cons_self ..)
      by_cases hnil : names = []
      · subst hnil
        exact absurd e hn
      · rw [joinWith_cons hnil, String.append_eq_empty_iff, String.append_eq_empty_iff] at e
        exact absurd e.1.1 hn
  · intro e
    rw [e]
    rfl

/-! ## files below a root -/

/-- the path of `file` in the directories `dirs` below `root` -/
def Path.below (root : Path) (dirs : List String) (file : String) : Path :=
  ⟨root.anchor, root.names ++ dirs ++ [file]⟩

theorem Path.name_below (root : Path) (dirs : List String) (file : String) :
    (root.below dirs file).name = file := by
  simp [Path.below, Path.name, List.getLastD_eq_getLast?]

theorem Path.stem_below (root : Path) (dirs : List String) (file : String) :
    (root.below dirs file).stem = (Path.splitName file).1 := by
  unfold Path.stem
  rw [Path.name_below]

/-- the module of a file: the directories and the stem, or the directories alone if it is the file
of a package -/
theorem moduleName_below (root : Path) (dirs : List String) (file : String) :
    moduleName (root.below dirs file) root = .ok (joinWith "."
      (if (root.below dirs file).stem = "__init__" then dirs
        else dirs ++ [(root.below dirs file).stem])) := by
  have hrel : (root.below dirs file).relativeTo root = ⟨"", dirs ++ [file]⟩ := by
    simp [Path.below, Path.relativeTo, Path.relativeTo?]
  have hstem : (⟨"", dirs ++ [file]⟩ : Path).stem = (root.below dirs file).stem := by
    rw [Path.stem_below, Path.stem, Path.name, List.getLastD_eq_getLast?, List.getLast?_concat,
      Option.getD_some]
  have hwithout : (⟨"", dirs ++ [file]⟩ : Path).withoutSuffix?
      = some ⟨"", dirs ++ [(root.below dirs file).stem]⟩ := by
    unfold Path.withoutSuffix?
    rw [hstem]
    simp
  have hparts : (⟨"", dirs ++ [(root.below dirs file).stem]⟩ : Path).parts
      = dirs ++ [(root.below dirs file).stem] := rfl
  unfold moduleName
  rw [hrel]
  simp only [hwithout, hparts, List.getLast?_concat, Option.some.injEq, List.dropLast_concat]

/-- the source file of the module `names` below the directories `dirs`; without names it is the file
of the innermost directory as a package -/
def moduleFile (root : Path) (dirs names : List String) (ending : String) : Path :=
  match names.getLast? with
  | none => root.below dirs ("__init__" ++ ending)
  | some last => root.below (dirs ++ names.dropLast) (last ++ ending)

/-- the ending of a source file is its suffix -/
theorem splitName_ending {stem ending : String} (h : IsPart stem)
    (hending : ending ∈ sourceSuffixes) :
    (Path.splitName (stem ++ ending)).1 = stem := by
  obtain ⟨tail, rfl, htail, hfree⟩ : ∃ tail : String, ending = "." ++ tail ∧ tail ≠ "" ∧
      '.' ∉ tail.toList := by
    rcases List.mem_cons.mp hending with rfl | hending
    · exact ⟨"py", rfl, by decide, by decide⟩
    · rw [List.mem_singleton.mp hending]
      exact ⟨"pyi", rfl, by decide, by decide⟩
  have hchars : (stem ++ ("." ++ tail)).toList = stem.toList ++ '.' :: tail.toList := by
    rw [String.toList_append, String.toList_append]
    rfl
  have hrun : ((stem ++ ("." ++ tail)).toList.reverse.takeWhile (· != '.')).reverse
      = tail.toList := by
    rw [hchars, List.reverse_append, List.reverse_cons, List.append_assoc, List.singleton_append,
      takeWhile_ne_append_cons (fun hmem => hfree (List.mem_reverse.mp hmem)), List.reverse_reverse]
  have hstem : stem.toList ≠ [] := fun e => h.1 (String.toList_inj.mp e)
  have htailne : tail.toList ≠ [] := fun e => htail (String.toList_inj.mp e)
  have hlen : (stem ++ ("." ++ tail)).toList.length
      = stem.toList.length + 1 + tail.toList.length := by
    rw [hchars, List.length_append, List.length_cons]
    omega
  have hhead : (stem ++ ("." ++ tail)).toList.take
      ((stem ++ ("." ++ tail)).toList.length - tail.toList.length - 1) = stem.toList := by
    have hcut : (stem ++ ("." ++ tail)).toList.length - tail.toList.length - 1
        = stem.toList.length := by omega
    rw [hcut, hchars, List.take_left]
  unfold Path.splitName
  simp only [hrun, hhead]
  rw [if_neg, String.ofList_toList]
  simp only [Bool.or_eq_true, List.isEmpty_iff, decide_eq_true_eq, hstem, htailne, false_or]
  omega

/-- the file of a module has the name of the module, unless that is the name for files of
packages -/
theorem moduleName_moduleFile (root : Path) (dirs : List String) {names : List String}
    {ending : String} (hnames : ∀ n ∈ names, IsPart n) (hlast : names.getLast? ≠ some "__init__")
    (hending : ending ∈ sourceSuffixes) :
    moduleName (moduleFile root dirs names ending) root = .ok (joinWith "." (dirs ++ names)) := by
  unfold moduleFile
  rcases List.eq_nil_or_concat' names with rfl | ⟨front, last, rfl⟩
  · have hstem : (root.below dirs ("__init__" ++ ending)).stem = "__init__" := by
      rw [Path.stem_below]
      exact splitName_ending (by decide) hending
    simp only [List.getLast?_nil, List.append_nil]
    rw [moduleName_below, hstem, if_pos rfl]
  · have hpart : IsPart last := hnames last (by simp)
    have hstem : (root.below (dirs ++ front) (last ++ ending)).stem = last := by
      rw [Path.stem_below]
      exact splitName_ending hpart hending
    have hmodule : last ≠ "__init__" := fun e => hlast (by rw [List.getLast?_concat, e])
    simp only [List.getLast?_concat, List.dropLast_concat]
    rw [moduleName_below, hstem, if_neg hmodule, List.append_assoc]

/-! ## the package of a unit -/

section
variable {root : Path} {dirs : List String} {file : String} {u : SourceUnit}

/-- the package of a unit is its directory, for a module as for the file of a package -/
theorem package_below (hpath : u.path = root.below dirs file)
    (hmodule : moduleName u.path root = .ok u.module) (hstem : '.' ∉ u.path.stem.toList) :
    u.package = joinWith "." dirs := by
  rw [hpath] at hmodule hstem
  rw [moduleName_below] at hmodule
  have hname := Except.ok.inj hmodule
  unfold SourceUnit.package SourceUnit.isPackage
  rw [hpath, ← hname]
  by_cases hinit : (root.below dirs file).stem = "__init__"
  · rw [if_pos (decide_eq_true hinit), if_pos hinit]
  · rw [if_neg (by simpa using hinit), if_neg hinit, beforeLast_joinWith dirs hstem]

/-- what a relative import means: the directories that its dots leave and the names behind them;
nothing if there are more dots than directories and the root -/
theorem relativeModule?_eq (hpath : u.path = root.below dirs file)
    (hmodule : moduleName u.path root = .ok u.module) (hdirs : ∀ d ∈ dirs, IsPart d)
    (hstem : '.' ∉ u.path.stem.toList) {level : Nat} (hlevel : 1 ≤ level) {names : List String}
    (hnames : ∀ n ∈ names, IsPart n) {suffix : Option String}
    (hsuffix : suffix.getD "" = joinWith "." names) :
    relativeModule? u level suffix =
      if dirs.length + 1 < level then none
      else some (joinWith "." (dirs.take (dirs.length + 1 - level) ++ names)) := by
  have hpackage := package_below hpath hmodule hstem
  have hbase : (if u.package = "" then [] else splitOn '.' u.package) = dirs := by
    rw [hpackage]
    by_cases hnil : dirs = []
    · subst hnil
      rfl
    · rw [if_neg (fun e => hnil ((joinWith_eq_empty fun d hd => (hdirs d hd).1).mp e)),
        splitOn_joinWith hnil fun d hd => (hdirs d hd).2]
  have hup : ((level : Int) - 1).toNat = level - 1 := by omega
  have hkept : dirs.length - (level - 1) = dirs.length + 1 - level := by omega
  unfold relativeModule?
  rw [if_neg (by omega)]
  simp only [hbase, hup, hkept]
  by_cases hfar : dirs.length + 1 < level
  · rw [if_pos hfar, if_pos (by omega)]
  · rw [if_neg hfar, if_neg (by omega)]
    cases suffix with
    | none =>
      have hnil : names = [] := (joinWith_eq_empty fun n hn => (hnames n hn).1).mp hsuffix.symm
      rw [hnil, List.append_nil]
    | some text =>
      have htext : text = joinWith "." names := hsuffix
      rw [htext]
      by_cases hnil : names = []
      · subst hnil
        rw [List.append_nil]
        rfl
      · have hne : joinWith "." names ≠ "" := fun e =>
          hnil ((joinWith_eq_empty fun n hn => (hnames n hn).1).mp e)
        simp only [if_neg hne]
        rw [splitOn_joinWith hnil fun n hn => (hnames n hn).2]

/-- Relative imports and places of files agree. In a unit with the directories `dirs` below the
root, a `from` import of one up to `dirs.length + 1` dots means the module of the file that stands
at the names behind the dots, seen from the directory that the dots lead to; without such names it
means the package of that directory. More dots lead nowhere. -/
theorem relative_import_place (hpath : u.path = root.below dirs file)
    (hmodule : moduleName u.path root = .ok u.module) (hdirs : ∀ d ∈ dirs, IsPart d)
    (hstem : '.' ∉ u.path.stem.toList) {names : List String} (hnames : ∀ n ∈ names, IsPart n)
    (hlast : names.getLast? ≠ some "__init__") {suffix : Option String}
    (hsuffix : suffix.getD "" = joinWith "." names) {level : Nat} (hlevel : 1 ≤ level) :
    (level ≤ dirs.length + 1 → ∀ ending ∈ sourceSuffixes, ∃ target,
      relativeModule? u level suffix = some target ∧
      moduleName (moduleFile root (dirs.take (dirs.length + 1 - level)) names ending) root
        = .ok target) ∧
    (relativeModule? u level suffix = none ↔ dirs.length + 1 < level) := by
  have heq := relativeModule?_eq hpath hmodule hdirs hstem hlevel hnames hsuffix
  constructor
  · intro hle ending hending
    refine ⟨_, ?_, moduleName_moduleFile root _ hnames hlast hending⟩
    rw [heq, if_neg (by omega)]
  · rw [heq]
    by_cases hfar : dirs.length + 1 < level
    · simp [hfar]
    · simp [hfar]

end

/-- a unit two directories below the root -/
def panelUnit : SourceUnit :=
  ⟨Program.memoryRoot.below ["game", "ui"] "panel.py", "game.ui.panel", "", []⟩

theorem moduleName_panelUnit :
    moduleName panelUnit.path Program.memoryRoot = .ok panelUnit.module := by
  have hstem : (Program.memoryRoot.below ["game", "ui"] "panel.py").stem = "panel" := by
    decide +kernel
  show moduleName (Program.memoryRoot.below ["game", "ui"] "panel.py") Program.memoryRoot = _
  rw [moduleName_below, hstem]
  rfl

/-- two dots lead from `game/ui/panel.py` to `game`, and four lead out of the program -/
theorem relative_import_place_panel :
    (∃ target, relativeModule? panelUnit 2 (some "core.shapes") = some target ∧
      moduleName (moduleFile Program.memoryRoot ["game"] ["core", "shapes"] ".pyi")
        Program.memoryRoot = .ok target) ∧
    relativeModule? panelUnit 4 (some "core.shapes") = none := by
  have hdirs : ∀ d ∈ ["game", "ui"], IsPart d := by decide
  have hstem : '.' ∉ panelUnit.path.stem.toList := by decide +kernel
  have hnames : ∀ n ∈ ["core", "shapes"], IsPart n := by decide
  have hsuffix : (some "core.shapes").getD "" = joinWith "." ["core", "shapes"] := by decide
  constructor
  · exact (relative_import_place rfl moduleName_panelUnit hdirs hstem hnames (by decide) hsuffix
      (by decide : 1 ≤ 2)).1 (by decide) ".pyi" (by decide)
  · exact (relative_import_place rfl moduleName_panelUnit hdirs hstem hnames (by decide) hsuffix
      (by decide : 1 ≤ 4)).2.mpr (by decide)

end Archetype
