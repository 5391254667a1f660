import Archetype.Program
import Archetype.Proofs.PathText
import Mathlib.Data.List.Nodup
import Mathlib.Data.List.Perm.Basic

/-!
# Fingerprints tell programs apart

The message that is digested lists the units in the order of their paths, each by its path as seen
from the root and its text, closed by the character with code zero. Loading refuses that character
in paths and texts, so the message can be read back; and a unit is made from its path and its text
alone.

* `Program.Loaded`        what the loaders promise of a program: each unit is made from its path and
                          its text;
* `Program.message`       the bytes that are digested;
* `Program.ordered_inj`   loaded programs with one root and one message have the same units in
                          order;
* `Program.units_inj`     if both list their units in one order of paths, they list the same units;
* `Comparable.faithful`   so where the digest does not collide, the fingerprint tells such programs
                          apart.
-/

namespace Archetype

/-- the character that closes the parts of the message -/
def closer : Char := Char.ofNat 0

/-! ## closed parts -/

/-- a part is known by where it is closed -/
theorem closed_inj {z : Char} {x y rest rest' : List Char} (hx : z ∉ x) (hy : z ∉ y)
    (h : x ++ z :: rest = y ++ z :: rest') : x = y ∧ rest = rest' := by
  have hxy : x = y := by rw [← takeWhile_ne_append_cons hx, h, takeWhile_ne_append_cons hy]
  rw [hxy] at h
  exact ⟨hxy, (List.cons.inj (List.append_cancel_left h)).2⟩

/-- things that are written as two closed parts each can be read back from what is written of all of
them -/
theorem flatMap_closed_inj {α : Type} (z : Char) (f g : α → List Char) (xs ys : List α)
    (hx : ∀ x ∈ xs, z ∉ f x ∧ z ∉ g x) (hy : ∀ y ∈ ys, z ∉ f y ∧ z ∉ g y)
    (hinj : ∀ x ∈ xs, ∀ y ∈ ys, f x = f y → g x = g y → x = y)
    (h : xs.flatMap (fun x => f x ++ z :: (g x ++ [z])) = ys.flatMap
      (fun y => f y ++ z :: (g y ++ [z]))) :
    xs = ys := by
  have hne : ∀ (y : α) (rest : List α), (y :: rest).flatMap (fun y => f y ++ z :: (g y ++ [z]))
      ≠ [] := by
    intro y rest
    simp
  induction xs generalizing ys with
  | nil =>
    cases ys with
    | nil => rfl
    | cons y ys => exact absurd h.symm (hne y ys)
  | cons x xs ih =>
    cases ys with
    | nil => exact absurd h (hne x xs)
    | cons y ys =>
      have hx0 := hx x (List.mem_cons_self ..)
      have hy0 := hy y (List.mem_cons_self ..)
      rw [List.flatMap_cons, List.flatMap_cons, List.append_assoc, List.append_assoc,
        List.cons_append, List.cons_append] at h
      obtain ⟨hf, h⟩ := closed_inj hx0.1 hy0.1 h
      rw [List.append_assoc, List.append_assoc, List.singleton_append, List.singleton_append] at h
      obtain ⟨hg, h⟩ := closed_inj hx0.2 hy0.2 h
      rw [hinj x (List.mem_cons_self ..) y (List.mem_cons_self ..) hf hg]
      congr 1
      exact ih ys (fun a ha => hx a (List.mem_cons_of_mem _ ha))
        (fun a ha => hy a (List.mem_cons_of_mem _ ha))
        (fun a ha b hb => hinj a (List.mem_cons_of_mem _ ha) b (List.mem_cons_of_mem _ hb)) h

/-! ## bytes -/

theorem toList_loop_eq (bytes : ByteArray) (i : Nat) (taken : List UInt8) :
    ByteArray.toList.loop bytes i taken = taken.reverse ++ bytes.data.toList.drop i := by
  induction h : bytes.size - i generalizing i taken with
  | zero =>
    have hi : ¬ i < bytes.size := by omega
    rw [ByteArray.toList.loop, if_neg hi, List.drop_eq_nil_of_le, List.append_nil]
    exact Nat.le_of_not_lt hi
  | succ n ih =>
    have hi : i < bytes.size := by omega
    have hi' : i < bytes.data.toList.length := hi
    rw [ByteArray.toList.loop, if_pos hi, ih (i + 1) _ (by omega), List.drop_eq_getElem_cons hi',
      List.reverse_cons, List.append_assoc]
    congr 1
    have hget : bytes.get! i = bytes.data.toList.get ⟨i, hi'⟩ := getElem!_pos bytes.data i hi
    rw [hget]
    rfl

theorem byteArray_toList_inj {a b : ByteArray} (h : a.toList = b.toList) : a = b := by
  have hdata : ∀ c : ByteArray, c.toList = c.data.toList := fun c => toList_loop_eq c 0 []
  rw [hdata, hdata] at h
  cases a
  cases b
  exact congrArg ByteArray.mk (Array.toList_inj.mp h)

/-! ## loaded programs -/

/-- what making a unit gives: its path and its text are those it was made from, and neither holds
the closer -/
theorem parseUnit_eq_some {path root : Path} {text : String} {u : SourceUnit}
    (h : parseUnit path text root = .ok (some u)) :
    u.path = path ∧ u.text = text ∧ closer ∉ path.text.toList ∧ closer ∉ text.toList := by
  unfold parseUnit at h
  split at h
  · cases h
  · rename_i hpath
    split at h
    · cases h
    · rename_i htext
      split at h
      · cases h
      · cases hm : moduleName path root with
        | error e =>
          rw [hm] at h
          cases h
        | ok name =>
          rw [hm] at h
          cases h
          refine ⟨rfl, rfl, fun hc => hpath ?_, fun hc => htext ?_⟩
          · exact List.contains_iff_mem.mpr hc
          · exact List.contains_iff_mem.mpr hc

namespace Program

/-- what the loaders promise: every unit is made from its path, which the root leads to, and its
text -/
structure Loaded (p : Program) : Prop where
  placed : ∀ u ∈ p.units, Path.Placed p.root u.path
  parsed : ∀ u ∈ p.units, parseUnit u.path u.text p.root = .ok (some u)

theorem unitsOf_cons {root path : Path} {text : String} {rest : List (Path × String)}
    {units : List SourceUnit} (h : unitsOf root ((path, text) :: rest) = .ok units) :
    ∃ unit more, parseUnit path text root = .ok unit ∧ unitsOf root rest = .ok more ∧
      units = unit.toList ++ more := by
  unfold unitsOf at h
  cases hu : parseUnit path text root with
  | error e =>
    rw [hu] at h
    cases h
  | ok unit =>
    cases hm : unitsOf root rest with
    | error e =>
      rw [hu, hm] at h
      cases h
    | ok more =>
      rw [hu, hm] at h
      cases h
      exact ⟨unit, more, rfl, rfl, rfl⟩

/-- every unit is made from one of the texts -/
theorem mem_unitsOf {root : Path} {texts : List (Path × String)} {units : List SourceUnit}
    (h : unitsOf root texts = .ok units) :
    ∀ u ∈ units, (u.path, u.text) ∈ texts ∧ parseUnit u.path u.text root = .ok (some u) := by
  induction texts generalizing units with
  | nil =>
    cases h
    exact fun u hu => absurd hu List.not_mem_nil
  | cons e rest ih =>
    obtain ⟨path, text⟩ := e
    obtain ⟨unit, more, hu, hm, rfl⟩ := unitsOf_cons h
    intro u hmem
    rcases List.mem_append.mp hmem with hmem | hmem
    · rw [Option.mem_toList] at hmem
      obtain rfl : unit = some u := hmem
      obtain ⟨hpath, htext, _⟩ := parseUnit_eq_some hu
      rw [hpath, htext]
      exact ⟨List.mem_cons_self .., hu⟩
    · obtain ⟨h1, h2⟩ := ih hm u hmem
      exact ⟨List.mem_cons_of_mem _ h1, h2⟩

/-- units come in the order of the texts -/
theorem unitsOf_sublist {root : Path} {texts : List (Path × String)} {units : List SourceUnit}
    (h : unitsOf root texts = .ok units) :
    (units.map SourceUnit.path).Sublist (texts.map Prod.fst) := by
  induction texts generalizing units with
  | nil =>
    cases h
    exact List.Sublist.refl _
  | cons e rest ih =>
    obtain ⟨path, text⟩ := e
    obtain ⟨unit, more, hu, hm, rfl⟩ := unitsOf_cons h
    cases unit with
    | none => exact (ih hm).cons _
    | some u =>
      have hpath : u.path = path := (parseUnit_eq_some hu).1
      show (u.path :: more.map SourceUnit.path).Sublist (path :: rest.map Prod.fst)
      rw [hpath]
      exact (ih hm).cons_cons _

/-- the texts of a program in memory, in the order of its units -/
def memoryTexts (sources : List (String × String)) : List (Path × String) :=
  (sources.mergeSort fun a b => Names.le a.1 b.1).map fun s =>
    (memoryRoot.join (.ofString s.1), s.2)

/-- what a program in memory is made of -/
theorem ofSources_eq_ok {sources : List (String × String)} {semantic : Bool} {p : Program}
    (h : ofSources sources semantic = .ok p) :
    p.root = memoryRoot ∧ unitsOf memoryRoot (memoryTexts sources) = .ok p.units ∧
    p.semantic = semantic := by
  unfold ofSources at h
  cases hu : unitsOf memoryRoot (memoryTexts sources) with
  | error e =>
    rw [memoryTexts] at hu
    simp only [hu] at h
    cases h
  | ok units =>
    rw [memoryTexts] at hu
    simp only [hu] at h
    cases h
    exact ⟨rfl, rfl, rfl⟩

theorem ofSources_loaded {sources : List (String × String)} {semantic : Bool} {p : Program}
    (h : ofSources sources semantic = .ok p) : p.Loaded := by
  obtain ⟨hroot, hunits, _⟩ := ofSources_eq_ok h
  refine ⟨fun u hmem => ?_, fun u hmem => ?_⟩
  · obtain ⟨s, _, e⟩ := List.mem_map.mp (mem_unitsOf hunits u hmem).1
    rw [hroot]
    exact ⟨.ofString s.1, Path.ofString_proper s.1, (congrArg Prod.fst e).symm⟩
  · rw [hroot]
    exact (mem_unitsOf hunits u hmem).2

/-! ## reading the message back -/

/-- the bytes that are digested -/
def message (p : Program) : List UInt8 := p.fingerprintText.toUTF8.toList

theorem fingerprint_eq (p : Program) : p.fingerprint = Text.Digest.sha256 p.message := rfl

theorem fingerprintText_eq_of_message {p q : Program} (h : p.message = q.message) :
    p.fingerprintText = q.fingerprintText :=
  String.toByteArray_inj.mp (byteArray_toList_inj h)

theorem toList_fingerprintText (p : Program) :
    p.fingerprintText.toList = p.ordered.flatMap fun u =>
      (u.path.relativeTo p.root).text.toList ++ closer :: (u.text.toList ++ [closer]) := by
  unfold fingerprintText
  rw [String.toList_join, List.flatMap_map]
  congr 1
  funext u
  simp [closer]

theorem mem_ordered (p : Program) (u : SourceUnit) : u ∈ p.ordered ↔ u ∈ p.units :=
  List.mem_mergeSort

theorem Loaded.closer_free {p : Program} (h : p.Loaded) {u : SourceUnit} (hu : u ∈ p.units) :
    closer ∉ (u.path.relativeTo p.root).text.toList ∧ closer ∉ u.text.toList := by
  obtain ⟨_, _, hpath, htext⟩ := parseUnit_eq_some (h.parsed u hu)
  refine ⟨fun hc => hpath ?_, htext⟩
  exact (h.placed u hu).mem_text_of_relativeTo (by decide) (by decide) hc

/-- loaded programs with one root and one message have the same units in the order of their paths -/
theorem ordered_inj {p q : Program} (hp : p.Loaded) (hq : q.Loaded) (hroot : p.root = q.root)
    (h : p.message = q.message) : p.ordered = q.ordered := by
  have htext := congrArg String.toList (fingerprintText_eq_of_message h)
  rw [toList_fingerprintText, toList_fingerprintText, hroot] at htext
  refine flatMap_closed_inj closer (fun u => (u.path.relativeTo q.root).text.toList)
    (fun u => u.text.toList)
    p.ordered q.ordered ?_ ?_ ?_ htext
  · intro u hu
    rw [← hroot]
    exact hp.closer_free ((mem_ordered p u).mp hu)
  · intro u hu
    exact hq.closer_free ((mem_ordered q u).mp hu)
  · intro u hu v hv hrel htxt
    have hpu := hp.parsed u ((mem_ordered p u).mp hu)
    have hqv := hq.parsed v ((mem_ordered q v).mp hv)
    have hpath : u.path = v.path := by
      refine Path.relativeTo_inj (hroot ▸ hp.placed u ((mem_ordered p u).mp hu))
        (hq.placed v ((mem_ordered q v).mp hv)) (String.toList_inj.mp hrel)
    rw [hpath, String.toList_inj.mp htxt, hroot, hqv] at hpu
    exact (Option.some.inj (Except.ok.inj hpu)).symm

/-- the units of a program stand in an order of their paths -/
def InOrder (before : Path → Path → Prop) (p : Program) : Prop :=
  p.units.Pairwise fun u v => before u.path v.path

/-- no two units of a program have the same path -/
def PathsDistinct (p : Program) : Prop := (p.units.map SourceUnit.path).Nodup

theorem PathsDistinct.unit_eq {p : Program} (h : p.PathsDistinct) {u v : SourceUnit}
    (hu : u ∈ p.units) (hv : v ∈ p.units) (e : u.path = v.path) : u = v :=
  List.inj_on_of_nodup_map h hu hv e

/-- loaded programs with one root and one message, whose units stand in one order of paths, have the
same units -/
theorem units_inj {p q : Program} (hp : p.Loaded) (hq : q.Loaded) (hroot : p.root = q.root)
    (hdist : p.PathsDistinct) {before : Path → Path → Prop}
    (hanti : ∀ a b, before a b → before b a → a = b) (hpo : p.InOrder before)
    (hqo : q.InOrder before) (h : p.message = q.message) : p.units = q.units := by
  have hperm : p.units.Perm q.units := by
    have h1 : p.ordered.Perm p.units := List.mergeSort_perm ..
    have h2 : q.ordered.Perm q.units := List.mergeSort_perm ..
    rw [ordered_inj hp hq hroot h] at h1
    exact h1.symm.trans h2
  refine List.Perm.eq_of_pairwise ?_ hpo hqo hperm
  intro u v hu hv huv hvu
  exact hdist.unit_eq hu (hperm.mem_iff.mpr hv) (hanti _ _ huv hvu)

/-! ## programs that can be compared -/

/-- programs loaded from one root that have each path once and list their units in one order of the
paths -/
structure Comparable (seen : Program → Prop) (before : Path → Path → Prop) : Prop where
  loaded : ∀ p, seen p → p.Loaded
  distinct : ∀ p, seen p → p.PathsDistinct
  ordered : ∀ p, seen p → p.InOrder before
  root : ∀ p q, seen p → seen q → p.root = q.root
  antisymm : ∀ a b, before a b → before b a → a = b

/-- the digest tells the messages of the programs apart -/
def CollisionFree (seen : Program → Prop) : Prop :=
  ∀ p q, seen p → seen q → Text.Digest.sha256 p.message = Text.Digest.sha256 q.message →
    p.message = q.message

/-- a program is known by its parts -/
theorem eq_of_parts {p q : Program} (hroot : p.root = q.root) (hunits : p.units = q.units)
    (hsemantic : p.semantic = q.semantic) : p = q := by
  cases p
  cases q
  simp_all

/-- programs whose fingerprints tell them apart, but for the way names are resolved -/
def Faithful (seen : Program → Prop) : Prop :=
  ∀ p q, seen p → seen q → p.fingerprint = q.fingerprint → p.root = q.root ∧ p.units = q.units

theorem Comparable.faithful {seen : Program → Prop} {before : Path → Path → Prop}
    (h : Comparable seen before) (hfree : CollisionFree seen) : Faithful seen := by
  intro p q hp hq e
  rw [fingerprint_eq, fingerprint_eq] at e
  have hroot := h.root p q hp hq
  refine ⟨hroot, ?_⟩
  exact units_inj (h.loaded p hp) (h.loaded q hq) hroot (h.distinct p hp) h.antisymm
    (h.ordered p hp)
    (h.ordered q hq) (hfree p q hp hq e)

theorem Comparable.mono {seen seen' : Program → Prop} {before : Path → Path → Prop}
    (h : Comparable seen before) (hs : ∀ p, seen' p → seen p) : Comparable seen' before :=
  ⟨fun p hp => h.loaded p (hs p hp), fun p hp => h.distinct p (hs p hp),
    fun p hp => h.ordered p (hs p hp), fun p q hp hq => h.root p q (hs p hp) (hs q hq), h.antisymm⟩

end Program

/-! ## programs of one file -/

/-- a program of one file; without units if the file cannot be read -/
def oneFile (text : String) : Program :=
  match Program.ofSources [("game.py", text)] true with
  | .ok p => p
  | .error _ => ⟨Program.memoryRoot, [], true⟩

theorem oneFile_cases (text : String) :
    Program.ofSources [("game.py", text)] true = .ok (oneFile text) ∨
      oneFile text = ⟨Program.memoryRoot, [], true⟩ := by
  unfold oneFile
  cases Program.ofSources [("game.py", text)] true with
  | ok p => exact Or.inl rfl
  | error e => exact Or.inr rfl

theorem oneFile_root (text : String) : (oneFile text).root = Program.memoryRoot := by
  rcases oneFile_cases text with h | h
  · exact (Program.ofSources_eq_ok h).1
  · rw [h]

theorem oneFile_semantic (text : String) : (oneFile text).semantic = true := by
  rcases oneFile_cases text with h | h
  · exact (Program.ofSources_eq_ok h).2.2
  · rw [h]

theorem oneFile_paths (text : String) :
    ((oneFile text).units.map SourceUnit.path).Sublist
      [Program.memoryRoot.join (.ofString "game.py")] := by
  rcases oneFile_cases text with h | h
  · simpa [Program.memoryTexts] using Program.unitsOf_sublist (Program.ofSources_eq_ok h).2.1
  · rw [h]
    exact List.nil_sublist _

theorem oneFile_comparable : Program.Comparable (fun p => ∃ text, p = oneFile text) (· = ·) where
  loaded := by
    rintro _ ⟨text, rfl⟩
    rcases oneFile_cases text with h | h
    · exact Program.ofSources_loaded h
    · rw [h]
      exact ⟨fun u hu => absurd hu List.not_mem_nil, fun u hu => absurd hu List.not_mem_nil⟩
  distinct := by
    rintro _ ⟨text, rfl⟩
    exact (oneFile_paths text).nodup (List.nodup_singleton _)
  ordered := by
    rintro _ ⟨text, rfl⟩
    exact List.pairwise_map.mp ((List.pairwise_singleton _ _).sublist (oneFile_paths text))
  root := by
    rintro _ _ ⟨_, rfl⟩ ⟨_, rfl⟩
    rw [oneFile_root, oneFile_root]
  antisymm := fun _ _ h _ => h

end Archetype
