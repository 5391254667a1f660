import Archetype.Program.Load
import Archetype.Proofs.Fingerprint

/-!
# Programs loaded from disk

In a file tree every place is there once, and its names are names. The programs that are loaded from
such trees below one root can be compared: they have each path once and list their units in the
order of the paths.

* `FileTree.Proper`      what holds of every file tree;
* `Program.load_eq_ok`   what a loaded program is made of;
* `load_comparable`      programs loaded below one root can be compared.
-/

namespace Archetype

/-- every place is there once, and all names are proper -/
structure FileTree.Proper (t : FileTree) : Prop where
  places : (t.entries.map Prod.fst).Nodup
  names : ∀ e ∈ t.entries, ∀ n ∈ e.1, Path.IsName n

/-! ## the order of paths -/

namespace Path

theorem le_iff (p q : Path) : p.le q = true ↔ ¬ q.parts < p.parts := by
  unfold le
  rw [Bool.not_eq_true', decide_eq_false_iff_not]

theorem le_trans (p q r : Path) (h : p.le q = true) (h' : q.le r = true) : p.le r = true := by
  rw [le_iff] at *
  exact @List.le_trans String _ _ _ _ p.parts q.parts r.parts h h'

theorem le_total (p q : Path) : (p.le q || q.le p) = true := by
  rw [Bool.or_eq_true, le_iff, le_iff]
  exact List.le_total p.parts q.parts

/-- the order of the paths of files, which all start at the root of the tree -/
def FileOrder (p q : Path) : Prop := p.anchor = "/" ∧ q.anchor = "/" ∧ p.le q = true

theorem FileOrder.antisymm (p q : Path) (h : FileOrder p q) (h' : FileOrder q p) : p = q := by
  obtain ⟨hp, hq, hle⟩ := h
  rw [le_iff] at hle
  have hge := (le_iff q p).mp h'.2.2
  have hparts : p.parts = q.parts := List.le_antisymm hle hge
  cases p
  cases q
  simp_all [parts]

end Path

/-! ## the files of a program -/

theorem map_fst_filterMap_sublist {α β γ : Type} (key : α → β) (f : α → Option (β × γ)) (l : List α)
    (h : ∀ a b, f a = some b → b.1 = key a) :
    ((l.filterMap f).map Prod.fst).Sublist (l.map key) := by
  induction l with
  | nil => exact List.Sublist.refl _
  | cons a l ih =>
    cases hf : f a with
    | none =>
      rw [List.filterMap_cons_none hf, List.map_cons]
      exact ih.cons _
    | some b =>
      rw [List.filterMap_cons_some hf, List.map_cons, List.map_cons, h a b hf]
      exact ih.cons_cons _

/-- the paths of the files below a place are those of entries of the tree -/
theorem FileTree.filesBelow_sublist (t : FileTree) (place : Place) :
    ((t.filesBelow place).map Prod.fst).Sublist (t.entries.map fun e => (⟨"/", e.1⟩ : Path)) := by
  refine map_fst_filterMap_sublist _ _ _ ?_
  rintro ⟨p, node⟩ b hb
  cases node with
  | directory => cases hb
  | file bytes =>
    dsimp only at hb
    split at hb
    · cases hb
      rfl
    · cases hb

/-- the texts of the source files below a root, in order -/
def sourceTexts (t : FileTree) (root : Path) (patterns : List String) : List (Path × String) :=
  (sourceFiles t root patterns).filterMap fun (path, bytes) =>
    (FileTree.textOf? bytes).map (path, ·)

theorem sourceTexts_sublist (t : FileTree) (root : Path) (patterns : List String) :
    ((sourceTexts t root patterns).map Prod.fst).Sublist
      ((sourceFiles t root patterns).map Prod.fst) := by
  refine map_fst_filterMap_sublist _ _ _ ?_
  rintro ⟨path, bytes⟩ b hb
  obtain ⟨text, _, rfl⟩ := Option.map_eq_some_iff.mp hb
  rfl

theorem sourceFiles_perm (t : FileTree) (root : Path) (patterns : List String) :
    ∃ files, files.Sublist ((t.filesBelow root.names).map Prod.fst) ∧
      ((sourceFiles t root patterns).map Prod.fst).Perm files :=
  ⟨_, List.filter_sublist.map _, (List.mergeSort_perm _ _).map _⟩

theorem mem_sourceFiles_path {t : FileTree} {root : Path} {patterns : List String} {path : Path}
    (h : path ∈ (sourceFiles t root patterns).map Prod.fst) :
    ∃ e ∈ t.entries, path = ⟨"/", e.1⟩ := by
  obtain ⟨files, hsub, hperm⟩ := sourceFiles_perm t root patterns
  obtain ⟨e, he, rfl⟩ := List.mem_map.mp
    ((t.filesBelow_sublist root.names).subset (hsub.subset (hperm.mem_iff.mp h)))
  exact ⟨e, he, rfl⟩

theorem sourceFiles_nodup {t : FileTree} (ht : t.Proper) (root : Path) (patterns : List String) :
    ((sourceFiles t root patterns).map Prod.fst).Nodup := by
  obtain ⟨files, hsub, hperm⟩ := sourceFiles_perm t root patterns
  have hplaces : (t.entries.map fun e => (⟨"/", e.1⟩ : Path)).Nodup := by
    have h := ht.places.map (f := fun p => (⟨"/", p⟩ : Path)) fun p q hpq => congrArg Path.names hpq
    rwa [List.map_map] at h
  exact hperm.nodup_iff.mpr (hplaces.sublist (hsub.trans (t.filesBelow_sublist root.names)))

theorem sourceFiles_inOrder (t : FileTree) (root : Path) (patterns : List String) :
    ((sourceFiles t root patterns).map Prod.fst).Pairwise Path.FileOrder := by
  have hanchor : ∀ path ∈ (sourceFiles t root patterns).map Prod.fst, path.anchor = "/" := by
    intro path hpath
    obtain ⟨e, _, rfl⟩ := mem_sourceFiles_path hpath
    rfl
  have hle : ((sourceFiles t root patterns).map Prod.fst).Pairwise fun a b => a.le b = true := by
    rw [List.pairwise_map]
    exact List.pairwise_mergeSort (fun a b c => Path.le_trans a.1 b.1 c.1)
      (fun a b => Path.le_total a.1 b.1) _
  exact hle.imp_of_mem fun ha hb h => ⟨hanchor _ ha, hanchor _ hb, h⟩

/-! ## the program -/

namespace Program

/-- a loaded program is made of the source texts below the root -/
theorem load_eq_ok {t : FileTree} {root : Path} {patterns : List String} {semantic : Bool}
    {p : Program} (h : load t root patterns semantic = .ok p) :
    p.root = root.settled ∧ p.semantic = semantic ∧
      unitsOf root.settled (sourceTexts t root.settled patterns) = .ok p.units := by
  unfold load at h
  change (do
    return ⟨root.settled, ← unitsOf root.settled (sourceTexts t root.settled patterns), semantic⟩ :
    Except SourceError Program) = .ok p at h
  cases hu : unitsOf root.settled (sourceTexts t root.settled patterns) with
  | error e =>
    rw [hu] at h
    cases h
  | ok units =>
    rw [hu] at h
    cases h
    exact ⟨rfl, rfl, rfl⟩

section
variable {t : FileTree} (ht : t.Proper) {root : Path} {patterns : List String} {semantic : Bool}
  {p : Program}
  (h : load t root patterns semantic = .ok p)
include h

theorem load_paths_sublist :
    (p.units.map SourceUnit.path).Sublist ((sourceFiles t root.settled patterns).map Prod.fst) :=
  (unitsOf_sublist (load_eq_ok h).2.2).trans (sourceTexts_sublist t root.settled patterns)

theorem load_inOrder : p.InOrder Path.FileOrder :=
  List.pairwise_map.mp
    ((sourceFiles_inOrder t root.settled patterns).sublist (load_paths_sublist h))

include ht

theorem load_distinct : p.PathsDistinct :=
  (sourceFiles_nodup ht root.settled patterns).sublist (load_paths_sublist h)

theorem load_loaded : p.Loaded := by
  obtain ⟨hroot, _, hunits⟩ := load_eq_ok h
  refine ⟨fun u hu => ?_, fun u hu => ?_⟩
  · have hpath := (load_paths_sublist h).subset (List.mem_map.mpr ⟨u, hu, rfl⟩)
    obtain ⟨e, he, hue⟩ := mem_sourceFiles_path hpath
    have hproper : u.path.Proper := by
      rw [hue]
      exact ⟨Or.inr (Or.inl rfl), ht.names e he⟩
    -- the path starts at the root of the tree, so it stays as it is when it is joined
    refine ⟨u.path, hproper, ?_⟩
    unfold Path.join
    rw [hue]
    rfl
  · rw [hroot]
    exact (mem_unitsOf hunits u hu).2

end

/-- programs that are loaded from trees below one root can be compared, whatever is excluded -/
theorem load_comparable {seen : Program → Prop} (root : Path)
    (h : ∀ p, seen p → ∃ t : FileTree, t.Proper ∧
      ∃ patterns semantic, load t root patterns semantic = .ok p) :
    Comparable seen Path.FileOrder where
  loaded := by
    intro p hp
    obtain ⟨t, ht, _, _, hload⟩ := h p hp
    exact load_loaded ht hload
  distinct := by
    intro p hp
    obtain ⟨t, ht, _, _, hload⟩ := h p hp
    exact load_distinct ht hload
  ordered := by
    intro p hp
    obtain ⟨t, _, _, _, hload⟩ := h p hp
    exact load_inOrder hload
  root := by
    intro p q hp hq
    obtain ⟨_, _, _, _, hload⟩ := h p hp
    obtain ⟨_, _, _, _, hload'⟩ := h q hq
    rw [(load_eq_ok hload).1, (load_eq_ok hload').1]
  antisymm := Path.FileOrder.antisymm

end Program

/-! ## projects of one file -/

/-- a project of one file -/
def writtenTree (text : String) : FileTree := FileTree.empty.put ["project", "main.py"] text.toUTF8

theorem writtenTree_places (text : String) :
    (writtenTree text).entries.map Prod.fst = [["project"], ["project", "main.py"]] := rfl

theorem writtenTree_proper (text : String) : (writtenTree text).Proper where
  places := by
    rw [writtenTree_places]
    decide
  names := by
    intro e he
    have hplace : e.1 ∈ (writtenTree text).entries.map Prod.fst := List.mem_map_of_mem he
    rw [writtenTree_places] at hplace
    have hall : ∀ place ∈ [["project"], ["project", "main.py"]],
        ∀ n ∈ place, Path.IsName n := by decide
    exact hall e.1 hplace

end Archetype
