import Archetype.Proofs.Loading
import Archetype.Proofs.SameEnds
import Mathlib.Data.List.Lex

/-!
# Files that are no modules

A file whose text is no module is left out, and all other files give the units that they give
without it. Only the character with code zero is not borne: a text that holds it, or a path, ends
the loading of the whole program.

* `Accepted`              what is asked of a file so that loading goes on, a unit or not;
* `unitsOf_skip`          a text that is no module changes nothing, wherever it stands;
* `unitsOf_refuse`        a text that is refused refuses all;
* `FileTree.HasFurther`   a tree with the files of another and one more;
* `bad_file_left_out`     both ways of loading leave a bad file out, unless it holds the character
                          with code zero.
-/

namespace Archetype

/-! ## one file -/

/-- what is asked of a file so that loading goes on: no character with code zero, and a name if it
is a module -/
structure Accepted (root path : Path) (text : String) : Prop where
  path_free : closer ∉ path.text.toList
  text_free : closer ∉ text.toList
  named : (Code.parseModule? text.toList).isSome → (path.relativeTo root).names ≠ []

theorem contains_zero_iff (cs : List Char) : cs.contains (Char.ofNat 0) = true ↔ closer ∈ cs :=
  List.contains_iff_mem

/-- a text that is no module makes no unit -/
theorem parseUnit_of_bad {root path : Path} {text : String} (hpath : closer ∉ path.text.toList)
    (htext : closer ∉ text.toList) (hbad : Code.parseModule? text.toList = none) :
    parseUnit path text root = .ok none := by
  unfold parseUnit
  rw [if_neg (mt (contains_zero_iff _).mp hpath), if_neg (mt (contains_zero_iff _).mp htext), hbad]

/-- a text with the character with code zero is refused -/
theorem parseUnit_of_closer {root path : Path} {text : String} (hpath : closer ∉ path.text.toList)
    (htext : closer ∈ text.toList) : parseUnit path text root = .error .nullCharacter := by
  unfold parseUnit
  rw [if_neg (mt (contains_zero_iff _).mp hpath), if_pos ((contains_zero_iff _).mpr htext)]

theorem exists_moduleName_iff (path root : Path) :
    (∃ name, moduleName path root = .ok name) ↔ (path.relativeTo root).names ≠ [] := by
  unfold moduleName Path.withoutSuffix?
  dsimp only
  by_cases hnames : (path.relativeTo root).names = []
  · rw [if_pos (List.isEmpty_iff.mpr hnames)]
    exact ⟨nofun, fun h => absurd hnames h⟩
  · rw [if_neg (mt List.isEmpty_iff.mp hnames)]
    exact ⟨fun _ => hnames, fun _ => ⟨_, rfl⟩⟩

/-- what is asked of a file is what making its unit asks -/
theorem exists_parseUnit_iff (root path : Path) (text : String) :
    (∃ unit, parseUnit path text root = .ok unit) ↔ Accepted root path text := by
  unfold parseUnit
  split
  · rename_i hpath
    exact ⟨nofun, fun h => absurd ((contains_zero_iff _).mp hpath) h.path_free⟩
  rename_i hpath
  split
  · rename_i htext
    exact ⟨nofun, fun h => absurd ((contains_zero_iff _).mp htext) h.text_free⟩
  rename_i htext
  have hpath' : closer ∉ path.text.toList := mt (contains_zero_iff _).mpr hpath
  have htext' : closer ∉ text.toList := mt (contains_zero_iff _).mpr htext
  cases hparse : Code.parseModule? text.toList with
  | none =>
    exact ⟨fun _ => ⟨hpath', htext', fun h => by rw [hparse] at h; cases h⟩, fun _ => ⟨none, rfl⟩⟩
  | some body =>
    cases hname : moduleName path root with
    | error e =>
      refine ⟨nofun, fun h => ?_⟩
      obtain ⟨name, hname'⟩ := (exists_moduleName_iff path root).mpr (h.named (by rw [hparse]; rfl))
      rw [hname] at hname'
      cases hname'
    | ok name =>
      exact ⟨fun _ => ⟨hpath', htext', fun _ => (exists_moduleName_iff path root).mp ⟨name, hname⟩⟩,
        fun _ => ⟨_, rfl⟩⟩

/-! ## all files -/

namespace Program

theorem unitsOf_cons_eq (root : Path) (s : Path × String) (rest : List (Path × String)) :
    unitsOf root (s :: rest) = do
      let unit ← parseUnit s.1 s.2 root
      let units ← unitsOf root rest
      return unit.toList ++ units := rfl

/-- a text that makes no unit changes nothing, wherever it stands -/
theorem unitsOf_skip {root path : Path} {text : String} (h : parseUnit path text root = .ok none)
    (front back : List (Path × String)) :
    unitsOf root (front ++ (path, text) :: back) = unitsOf root (front ++ back) := by
  induction front with
  | nil =>
    rw [List.nil_append, List.nil_append, unitsOf_cons_eq, h]
    cases unitsOf root back <;> rfl
  | cons s' front ih =>
    rw [List.cons_append, List.cons_append, unitsOf_cons_eq, unitsOf_cons_eq, ih]

/-- a text that is refused refuses all -/
theorem unitsOf_refuse {root path : Path} {text : String} {e : SourceError}
    (h : parseUnit path text root = .error e) {front back : List (Path × String)}
    {units : List SourceUnit} (hrest : unitsOf root (front ++ back) = .ok units) :
    unitsOf root (front ++ (path, text) :: back) = .error e := by
  induction front generalizing units with
  | nil =>
    rw [List.nil_append, unitsOf_cons_eq, h]
    rfl
  | cons s' front ih =>
    rw [List.cons_append] at hrest
    obtain ⟨unit, more, hunit, hmore, -⟩ := unitsOf_cons hrest
    rw [List.cons_append, unitsOf_cons_eq, ih hmore, hunit]
    rfl

/-- the units are made just if every file is accepted -/
theorem exists_unitsOf_iff (root : Path) (texts : List (Path × String)) :
    (∃ units, unitsOf root texts = .ok units) ↔ ∀ s ∈ texts, Accepted root s.1 s.2 := by
  induction texts with
  | nil => exact ⟨fun _ s hs => absurd hs List.not_mem_nil, fun _ => ⟨[], rfl⟩⟩
  | cons s rest ih =>
    rw [List.forall_mem_cons, ← ih, ← exists_parseUnit_iff]
    constructor
    · rintro ⟨units, hunits⟩
      obtain ⟨unit, more, hunit, hmore, -⟩ := unitsOf_cons hunits
      exact ⟨⟨unit, hunit⟩, more, hmore⟩
    · rintro ⟨⟨unit, hunit⟩, more, hmore⟩
      exact ⟨unit.toList ++ more, by rw [unitsOf_cons_eq, hunit, hmore]; rfl⟩

/-! ## programs in memory -/

/-- the path of a text in memory -/
def memoryPath (name : String) : Path := memoryRoot.join (.ofString name)

theorem ofSources_eq (sources : List (String × String)) (semantic : Bool) :
    ofSources sources semantic
      = (unitsOf memoryRoot (memoryTexts sources)).map (⟨memoryRoot, ·, semantic⟩) := rfl

/-- a further text comes in somewhere among the others -/
theorem memoryTexts_insert (name text : String) (front back : List (String × String)) :
    ∃ front' back', memoryTexts (front ++ (name, text) :: back)
      = front' ++ (memoryPath name, text) :: back' ∧
      memoryTexts (front ++ back) = front' ++ back' := by
  have hkey : ByKey (fun s : String × String => s.1) fun a b => Names.le a.1 b.1 :=
    fun a b => Names.byKey_le a.1 b.1
  obtain ⟨front', back', hmore, hless⟩ := hkey.mergeSort_insert (name, text) front back
  unfold memoryTexts
  rw [hmore, hless, List.map_append, List.map_append, List.map_cons]
  exact ⟨_, _, rfl, rfl⟩

theorem mem_memoryTexts (sources : List (String × String)) (s : Path × String) :
    s ∈ memoryTexts sources ↔
      ∃ name text, (name, text) ∈ sources ∧ s = (memoryPath name, text) := by
  unfold memoryTexts
  rw [List.mem_map]
  constructor
  · rintro ⟨⟨name, text⟩, hmem, rfl⟩
    exact ⟨name, text, List.mem_mergeSort.mp hmem, rfl⟩
  · rintro ⟨name, text, hmem, rfl⟩
    exact ⟨(name, text), List.mem_mergeSort.mpr hmem, rfl⟩

theorem exists_map_ok {α β ε : Type} (x : Except ε α) (f : α → β) :
    (∃ b, x.map f = .ok b) ↔ ∃ a, x = .ok a := by
  cases x with
  | error e => exact ⟨nofun, nofun⟩
  | ok a => exact ⟨fun _ => ⟨a, rfl⟩, fun _ => ⟨f a, rfl⟩⟩

/-- in memory, a text that is no module changes nothing -/
theorem ofSources_insert_bad {name text : String} (hname : closer ∉ (memoryPath name).text.toList)
    (htext : closer ∉ text.toList) (hbad : Code.parseModule? text.toList = none)
    (front back : List (String × String)) (semantic : Bool) :
    ofSources (front ++ (name, text) :: back) semantic = ofSources (front ++ back) semantic := by
  obtain ⟨front', back', hmore, hless⟩ := memoryTexts_insert name text front back
  rw [ofSources_eq, ofSources_eq, hmore, hless, unitsOf_skip (parseUnit_of_bad hname htext hbad)]

/-- in memory, a text with the character with code zero refuses all -/
theorem ofSources_insert_closer {name text : String}
    (hname : closer ∉ (memoryPath name).text.toList) (htext : closer ∈ text.toList)
    {front back : List (String × String)} {semantic : Bool} {p : Program}
    (h : ofSources (front ++ back) semantic = .ok p) :
    ofSources (front ++ (name, text) :: back) semantic = .error .nullCharacter := by
  obtain ⟨front', back', hmore, hless⟩ := memoryTexts_insert name text front back
  obtain ⟨-, hunits, -⟩ := ofSources_eq_ok h
  rw [hless] at hunits
  rw [ofSources_eq, hmore, unitsOf_refuse (parseUnit_of_closer hname htext) hunits]
  rfl

theorem exists_ofSources_iff (sources : List (String × String)) (semantic : Bool) :
    (∃ p, ofSources sources semantic = .ok p) ↔
      ∀ s ∈ sources, Accepted memoryRoot (memoryPath s.1) s.2 := by
  rw [ofSources_eq, exists_map_ok, exists_unitsOf_iff]
  constructor
  · exact fun h s hs => h _ ((mem_memoryTexts sources _).mpr ⟨s.1, s.2, hs, rfl⟩)
  · intro h s hs
    obtain ⟨name, text, hmem, rfl⟩ := (mem_memoryTexts sources s).mp hs
    exact h (name, text) hmem

end Program

/-! ## files on disk -/

/-- the bytes of a file -/
def FileNode.bytes? : FileNode → Option ByteArray
  | directory => none
  | file bytes => some bytes

/-- the path that leads to a place -/
def filePath (place : Place) : Path := ⟨"/", place⟩

namespace FileTree

/-- the files of a tree with their places -/
def files (t : FileTree) : List (Place × ByteArray) :=
  t.entries.filterMap fun e => e.2.bytes?.map (e.1, ·)

/-- `t'` has the files of `t` and one more, wherever it stands among them -/
def HasFurther (t t' : FileTree) (place : Place) (bytes : ByteArray) : Prop :=
  ∃ front back, t.files = front ++ back ∧ t'.files = front ++ (place, bytes) :: back

theorem filesBelow_eq (t : FileTree) (place : Place) :
    t.filesBelow place = (t.files.filter fun f => place.isPrefixOf f.1).map fun f =>
      (filePath f.1, f.2) := by
  unfold filesBelow files
  rw [List.filter_filterMap, List.map_filterMap]
  refine List.filterMap_congr fun e _ => ?_
  obtain ⟨p, node⟩ := e
  cases node with
  | directory => rfl
  | file bytes =>
    by_cases hp : place.isPrefixOf p = true <;> simp [FileNode.bytes?, filePath, Option.filter, hp]

/-! ### writing a file -/

/-- what is put where no file is comes behind the files -/
theorem files_set {t : FileTree} {place : Place} (node : FileNode) (hplace : place ≠ [])
    (h : ∀ f ∈ t.files, f.1 ≠ place) :
    (t.set place node).files = t.files ++ (node.bytes?.map (place, ·)).toList := by
  unfold set
  rw [if_neg (mt List.isEmpty_iff.mp hplace)]
  unfold files
  rw [List.filterMap_append, List.filterMap_filter]
  congr 1
  refine List.filterMap_congr fun e he => ?_
  by_cases hat : e.1 = place
  · cases hbytes : e.2.bytes? with
    | none => simp
    | some bytes =>
      refine absurd hat (h (e.1, bytes) (List.mem_filterMap.mpr ⟨e, he, ?_⟩))
      rw [hbytes, Option.map_some]
  · rw [if_pos (bne_iff_ne.mpr hat)]

/-- directories above a place do not touch the files, if none of these is in the way -/
theorem files_foldl_directory (places : List Place) (t : FileTree)
    (h : ∀ f ∈ t.files, f.1 ∉ places) :
    (places.foldl (fun t p => if t.isDirectory p then t else t.set p .directory) t).files
      = t.files := by
  induction places generalizing t with
  | nil => rfl
  | cons place places ih =>
    have hstep : (if t.isDirectory place then t else t.set place .directory).files = t.files := by
      split
      · rfl
      · rename_i hnode
        have hplace : place ≠ [] := by
          rintro rfl
          exact hnode rfl
        rw [files_set .directory hplace fun f hf e => h f hf (e ▸ List.mem_cons_self ..)]
        exact List.append_nil _
    rw [List.foldl_cons, ih _ fun f hf hmem => ?_, hstep]
    rw [hstep] at hf
    exact h f hf (List.mem_cons_of_mem _ hmem)

/-- a file that is written where no file is, nor above it, is a further file -/
theorem hasFurther_put {t : FileTree} {place : Place} (bytes : ByteArray) (hplace : place ≠ [])
    (h : ∀ f ∈ t.files, ¬ f.1 <+: place) : t.HasFurther (t.put place bytes) place bytes := by
  have habove : (t.makeDirectory place.dropLast).files = t.files := by
    refine files_foldl_directory _ t fun f hf hmem => h f hf ?_
    obtain ⟨n, -, hn⟩ := List.mem_map.mp hmem
    rw [← hn, List.dropLast_eq_take, List.take_take]
    exact ⟨_, List.take_append_drop _ place⟩
  have hfree : ∀ f ∈ (t.makeDirectory place.dropLast).files, f.1 ≠ place := fun f hf e =>
    h f (habove ▸ hf) ⟨[], by rw [e, List.append_nil]⟩
  refine ⟨t.files, [], (List.append_nil _).symm, ?_⟩
  unfold put
  rw [files_set (.file bytes) hplace hfree, habove]
  rfl

end FileTree

/-! ## programs on disk -/

theorem Path.byKey_le : ByKey Path.parts Path.le := by
  intro p q
  rw [Path.le_iff]
  exact not_lt

/-- is a file one of the source files below a root? -/
def isTaken (root : Path) (patterns : List String) (f : Place × ByteArray) : Bool :=
  (sourceSuffixes.contains (filePath f.1).suffix && !isExcluded (filePath f.1) root patterns) &&
    root.names.isPrefixOf f.1

theorem sourceFiles_eq (t : FileTree) (root : Path) (patterns : List String) :
    sourceFiles t root patterns =
      ((t.files.filter (isTaken root patterns)).map fun f => (filePath f.1, f.2)).mergeSort
        fun a b => a.1.le b.1 := by
  unfold sourceFiles
  rw [FileTree.filesBelow_eq, List.filter_map, List.filter_filter]
  rfl

theorem mem_sourceFiles {t : FileTree} {root : Path} {patterns : List String} {place : Place}
    {bytes : ByteArray} (h : (filePath place, bytes) ∈ sourceFiles t root patterns) :
    isTaken root patterns (place, bytes) = true := by
  rw [sourceFiles_eq, List.mem_mergeSort] at h
  obtain ⟨⟨p, b⟩, hmem, heq⟩ := List.mem_map.mp h
  obtain ⟨hpath, rfl⟩ := Prod.mk.inj heq
  obtain rfl : p = place := congrArg Path.names hpath
  exact (List.mem_filter.mp hmem).2

/-- a further file comes in somewhere among the source files, or is none of them -/
theorem sourceFiles_insert {t t' : FileTree} {place : Place} {bytes : ByteArray}
    (h : t.HasFurther t' place bytes) (root : Path) (patterns : List String) :
    (isTaken root patterns (place, bytes) = false ∧
      sourceFiles t' root patterns = sourceFiles t root patterns) ∨
      ∃ front back, sourceFiles t' root patterns = front ++ (filePath place, bytes) :: back ∧
        sourceFiles t root patterns = front ++ back := by
  obtain ⟨front, back, hless, hmore⟩ := h
  rw [sourceFiles_eq, sourceFiles_eq, hless, hmore, List.filter_append, List.filter_append]
  cases htaken : isTaken root patterns (place, bytes) with
  | false =>
    rw [List.filter_cons_of_neg (by rw [htaken]; exact Bool.false_ne_true)]
    exact .inl ⟨rfl, rfl⟩
  | true =>
    have hkey : ByKey (fun f : Path × ByteArray => f.1.parts) fun a b => a.1.le b.1 :=
      fun a b => Path.byKey_le a.1 b.1
    rw [List.filter_cons_of_pos htaken, List.map_append, List.map_append, List.map_cons]
    exact .inr (hkey.mergeSort_insert (filePath place, bytes) _ _)

/-- the texts of source files, a further one among them -/
theorem sourceTexts_of_insert {t t' : FileTree} {root : Path} {patterns : List String} {path : Path}
    {bytes : ByteArray} {front back : List (Path × ByteArray)}
    (hmore : sourceFiles t' root patterns = front ++ (path, bytes) :: back)
    (hless : sourceFiles t root patterns = front ++ back) :
    ∃ front' back', sourceTexts t' root patterns =
        front' ++ ((FileTree.textOf? bytes).map (path, ·)).toList ++ back' ∧
      sourceTexts t root patterns = front' ++ back' := by
  unfold sourceTexts
  rw [hmore, hless, List.filterMap_append, List.filterMap_append, List.filterMap_cons]
  refine ⟨_, _, ?_, rfl⟩
  cases htext : FileTree.textOf? bytes with
  | none => simp [htext]
  | some text => simp [htext]

namespace Program

theorem load_eq (t : FileTree) (root : Path) (patterns : List String) (semantic : Bool) :
    load t root patterns semantic =
      (unitsOf root.settled (sourceTexts t root.settled patterns)).map
        (⟨root.settled, ·, semantic⟩) := rfl

theorem exists_load_iff (t : FileTree) (root : Path) (patterns : List String) (semantic : Bool) :
    (∃ p, load t root patterns semantic = .ok p) ↔
      ∀ s ∈ sourceTexts t root.settled patterns, Accepted root.settled s.1 s.2 := by
  rw [load_eq, exists_map_ok, exists_unitsOf_iff]

/-- on disk, a file that is no text or no module changes nothing -/
theorem load_insert_bad {t t' : FileTree} {place : Place} {bytes : ByteArray}
    (h : t.HasFurther t' place bytes) (hplace : closer ∉ (filePath place).text.toList)
    (hbad : ∀ text, FileTree.textOf? bytes = some text →
      closer ∉ text.toList ∧ Code.parseModule? text.toList = none)
    (root : Path) (patterns : List String) (semantic : Bool) :
    load t' root patterns semantic = load t root patterns semantic := by
  rw [load_eq, load_eq]
  rcases sourceFiles_insert h root.settled patterns with ⟨-, hsame⟩ | ⟨front, back, hmore, hless⟩
  · unfold sourceTexts
    rw [hsame]
  · obtain ⟨front', back', hmore, hless⟩ := sourceTexts_of_insert hmore hless
    rw [hmore, hless]
    cases htext : FileTree.textOf? bytes with
    | none => rw [Option.map_none, Option.toList_none, List.append_nil]
    | some text =>
      obtain ⟨hfree, hparse⟩ := hbad text htext
      rw [Option.map_some, Option.toList_some, List.append_assoc, List.singleton_append,
        unitsOf_skip (parseUnit_of_bad hplace hfree hparse)]

/-- on disk, a source file with the character with code zero refuses all -/
theorem load_insert_closer {t t' : FileTree} {place : Place} {bytes : ByteArray}
    (h : t.HasFurther t' place bytes) (hplace : closer ∉ (filePath place).text.toList)
    {text : String} (htext : FileTree.textOf? bytes = some text) (hcloser : closer ∈ text.toList)
    {root : Path} {patterns : List String} {semantic : Bool}
    (htaken : (filePath place, bytes) ∈ sourceFiles t' root.settled patterns) {p : Program}
    (hload : load t root patterns semantic = .ok p) :
    load t' root patterns semantic = .error .nullCharacter := by
  rcases sourceFiles_insert h root.settled patterns with ⟨hnot, -⟩ | ⟨front, back, hmore, hless⟩
  · rw [mem_sourceFiles htaken] at hnot
    cases hnot
  · obtain ⟨front', back', hmore, hless⟩ := sourceTexts_of_insert hmore hless
    obtain ⟨-, -, hunits⟩ := load_eq_ok hload
    rw [hless] at hunits
    rw [load_eq, hmore, htext, Option.map_some, Option.toList_some, List.append_assoc,
      List.singleton_append, unitsOf_refuse (parseUnit_of_closer hplace hcloser) hunits]
    rfl

end Program

/-- A further file that is no module is left out, and the program is the one without it; so is the
report. But one whose text holds the character with code zero ends the loading, in memory as on
disk. Loading gives a program just if every file is accepted. -/
theorem bad_file_left_out (semantic : Bool) :
    (∀ (front back : List (String × String)) (name text : String),
      closer ∉ (Program.memoryPath name).text.toList →
      (closer ∉ text.toList → Code.parseModule? text.toList = none →
        Program.ofSources (front ++ (name, text) :: back) semantic
          = Program.ofSources (front ++ back) semantic) ∧
      (closer ∈ text.toList → ∀ p, Program.ofSources (front ++ back) semantic = .ok p →
        Program.ofSources (front ++ (name, text) :: back) semantic = .error .nullCharacter)) ∧
    (∀ (t t' : FileTree) (place : Place) (bytes : ByteArray) (root : Path) (patterns : List String),
      t.HasFurther t' place bytes → closer ∉ (filePath place).text.toList →
        ((∀ text, FileTree.textOf? bytes = some text →
            closer ∉ text.toList ∧ Code.parseModule? text.toList = none) →
          Program.load t' root patterns semantic = Program.load t root patterns semantic) ∧
        (∀ text, FileTree.textOf? bytes = some text → closer ∈ text.toList →
          (filePath place, bytes) ∈ sourceFiles t' root.settled patterns →
          ∀ p, Program.load t root patterns semantic = .ok p →
            Program.load t' root patterns semantic = .error .nullCharacter)) ∧
    (∀ sources : List (String × String), (∃ p, Program.ofSources sources semantic = .ok p) ↔
      ∀ s ∈ sources, Accepted Program.memoryRoot (Program.memoryPath s.1) s.2) ∧
    (∀ (t : FileTree) (root : Path) (patterns : List String),
      (∃ p, Program.load t root patterns semantic = .ok p) ↔
      ∀ s ∈ sourceTexts t root.settled patterns, Accepted root.settled s.1 s.2) := by
  refine ⟨fun front back name text hname => ⟨fun htext hbad => ?_, fun htext p hp => ?_⟩,
    fun t t' place bytes root patterns h hplace =>
      ⟨fun hbad => ?_, fun text htext hcloser htaken p hp => ?_⟩,
    fun sources => Program.exists_ofSources_iff sources semantic,
    fun t root patterns => Program.exists_load_iff t root patterns semantic⟩
  · exact Program.ofSources_insert_bad hname htext hbad front back semantic
  · exact Program.ofSources_insert_closer hname htext hp
  · exact Program.load_insert_bad h hplace hbad root patterns semantic
  · exact Program.load_insert_closer h hplace htext hcloser htaken hp

/-- a module of one class -/
def plainText : String := "class A:\n    pass\n"

/-- a text that breaks off within brackets -/
def brokenText : String := "def oops(:\n"

theorem bad_file_left_out_broken :
    Code.parseModule? brokenText.toList = none ∧
      Program.ofSources [("main.py", plainText), ("bad.py", brokenText)] true =
        Program.ofSources [("main.py", plainText)] true ∧
      Program.load ((writtenTree plainText).put ["project", "bad.py"] brokenText.toUTF8)
          ⟨"/", ["project"]⟩ [] true =
        Program.load (writtenTree plainText) ⟨"/", ["project"]⟩ [] true := by
  have hbroken : FileTree.textOf? brokenText.toUTF8 = some brokenText ∧ closer ∉ brokenText.toList ∧
      Code.parseModule? brokenText.toList = none := by decide +kernel
  obtain ⟨htext, hfree, hparse⟩ := hbroken
  have hfurther : (writtenTree plainText).HasFurther
      ((writtenTree plainText).put ["project", "bad.py"] brokenText.toUTF8)
        ["project", "bad.py"] brokenText.toUTF8 :=
    FileTree.hasFurther_put _ (by decide) (by decide)
  refine ⟨hparse,
    ((bad_file_left_out true).1 [("main.py", plainText)] [] "bad.py" brokenText (by decide)).1
      hfree hparse,
    ((bad_file_left_out true).2.1 _ _ _ _ ⟨"/", ["project"]⟩ [] hfurther (by decide)).1
      fun text h => ?_⟩
  rw [htext] at h
  cases h
  exact ⟨hfree, hparse⟩

/-- beside a file that is nothing but the character with code zero no program is loaded -/
theorem zero_refuses_all :
    (∃ p, Program.ofSources [("main.py", plainText)] true = .ok p) ∧
      ¬ ∃ p, Program.ofSources [("main.py", plainText), ("bad.py", "\x00")] true = .ok p := by
  have haccepted : ∀ s ∈ [("main.py", plainText)],
      Accepted Program.memoryRoot (Program.memoryPath s.1) s.2 := by
    intro s hs
    obtain rfl := List.mem_singleton.mp hs
    exact ⟨by decide, by decide, fun _ => by decide⟩
  refine ⟨(Program.exists_ofSources_iff _ _).mpr haccepted, fun h => ?_⟩
  have hzero := (Program.exists_ofSources_iff _ _).mp h ("bad.py", "\x00") (by simp)
  exact absurd hzero.text_free (by decide)

end Archetype
