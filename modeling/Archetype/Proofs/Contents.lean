import Archetype.Proofs.Fingerprint
import Archetype.Proofs.SameEnds
import Mathlib.Data.Set.Basic

/-!
# What a message tells of a program

The message that is digested can be read back to the contents of the program: how the path of each
unit looks from the root, and the text of the unit. Paths are told apart by how they look from the
root, whether they lie below it or not, so programs with one root that have the same contents have
the same message, in whatever order their units stand.

* `Program.contents`               the pairs of a path, as seen from the root, and a text;
* `Program.Readable`               absolute paths, each once, and no closer in paths and texts;
* `Readable.message_eq_iff`        the message is known by the pairs in the order of the paths;
* `Readable.orderedEntries_eq`     that order comes of the contents alone;
* `message_iff_contents`           two programs with one root.
-/

namespace Archetype

/-- an absolute path can be reached from every root -/
theorem Path.Proper.placed {path : Path} (h : path.Proper) (habs : path.anchor ≠ "") (root : Path) :
    Path.Placed root path := by
  refine ⟨path, h, ?_⟩
  unfold Path.join
  rw [if_neg habs]

namespace Program

/-! ## contents -/

/-- what the message says of a unit: how its path looks from the root, and its text -/
def entry (p : Program) (u : SourceUnit) : String × String :=
  ((u.path.relativeTo p.root).text, u.text)

/-- what the message says of all units -/
def contents (p : Program) : Set (String × String) := { e | ∃ u ∈ p.units, p.entry u = e }

/-- the entries in the order of the message -/
def orderedEntries (p : Program) : List (String × String) := p.ordered.map p.entry

/-- absolute paths as they are after reading, each once, and no closer in paths and texts -/
structure Readable (p : Program) : Prop where
  proper : ∀ u ∈ p.units, u.path.Proper
  absolute : ∀ u ∈ p.units, u.path.anchor ≠ ""
  distinct : p.PathsDistinct
  path_free : ∀ u ∈ p.units, closer ∉ u.path.text.toList
  text_free : ∀ u ∈ p.units, closer ∉ u.text.toList

theorem mem_orderedEntries (p : Program) (e : String × String) :
    e ∈ p.orderedEntries ↔ e ∈ p.contents := by
  have h : (∃ u ∈ p.ordered, p.entry u = e) ↔ ∃ u ∈ p.units, p.entry u = e := by
    simp only [mem_ordered]
  exact List.mem_map.trans h

/-- the message is written from the entries alone -/
theorem toList_fingerprintText_entries (p : Program) :
    p.fingerprintText.toList = p.orderedEntries.flatMap fun e =>
      e.1.toList ++ closer :: (e.2.toList ++ [closer]) := by
  rw [toList_fingerprintText, orderedEntries, List.flatMap_map]
  rfl

namespace Readable

variable {p q : Program}

theorem placed (h : p.Readable) {u : SourceUnit} (hu : u ∈ p.units) : Path.Placed p.root u.path :=
  (h.proper u hu).placed (h.absolute u hu) p.root

/-- a part of the message does not hold the character that closes it -/
theorem entry_free (h : p.Readable) :
    ∀ e ∈ p.orderedEntries, closer ∉ e.1.toList ∧ closer ∉ e.2.toList := by
  intro e he
  obtain ⟨u, hu, rfl⟩ := (p.mem_orderedEntries e).mp he
  refine ⟨fun hc => h.path_free u hu ?_, h.text_free u hu⟩
  exact (h.placed hu).mem_text_of_relativeTo (by decide) (by decide) hc

/-- the message is known by the entries in order, and the entries by the message -/
theorem message_eq_iff (hp : p.Readable) (hq : q.Readable) :
    p.message = q.message ↔ p.orderedEntries = q.orderedEntries := by
  constructor
  · intro h
    have htext := congrArg String.toList (fingerprintText_eq_of_message h)
    rw [toList_fingerprintText_entries, toList_fingerprintText_entries] at htext
    refine flatMap_closed_inj closer (fun e => e.1.toList) (fun e => e.2.toList) _ _
      hp.entry_free hq.entry_free ?_ htext
    intro e _ e' _ hpath htxt
    exact Prod.ext (String.toList_inj.mp hpath) (String.toList_inj.mp htxt)
  · intro h
    have htext : p.fingerprintText.toList = q.fingerprintText.toList := by
      rw [toList_fingerprintText_entries, toList_fingerprintText_entries, h]
    unfold message
    rw [String.toList_inj.mp htext]

/-! ## the order of the entries -/

/-- the path and the text of a unit -/
def pathAndText (u : SourceUnit) : Path × String := (u.path, u.text)

/-- units of programs with one root that have the same entry have the same path and the same text -/
theorem pathAndText_eq (hp : p.Readable) (hq : q.Readable) (hroot : p.root = q.root)
    {u v : SourceUnit} (hu : u ∈ p.units) (hv : v ∈ q.units) (h : p.entry u = q.entry v) :
    pathAndText u = pathAndText v := by
  obtain ⟨hrel, htext⟩ := Prod.mk.inj h
  rw [hroot] at hrel
  have hpath : u.path = v.path := Path.relativeTo_inj (hroot ▸ hp.placed hu) (hq.placed hv) hrel
  exact Prod.ext hpath htext

theorem subset_of_contents (hp : p.Readable) (hq : q.Readable) (hroot : p.root = q.root)
    (h : p.contents = q.contents) : ∀ e ∈ p.units.map pathAndText, e ∈ q.units.map pathAndText := by
  intro e he
  obtain ⟨u, hu, rfl⟩ := List.mem_map.mp he
  have hmem : p.entry u ∈ q.contents := h ▸ ⟨u, hu, rfl⟩
  obtain ⟨v, hv, hentry⟩ := hmem
  rw [pathAndText_eq hp hq hroot hu hv hentry.symm]
  exact List.mem_map_of_mem hv

theorem nodup_pathAndText (h : p.Readable) : (p.units.map pathAndText).Nodup := by
  have hpaths : ((p.units.map pathAndText).map Prod.fst).Nodup := by
    rw [List.map_map]
    exact h.distinct
  exact hpaths.of_map _

/-- the order of the units, told by paths alone -/
theorem byKey_path :
    ByKey (fun e : Path × String => e.1.text) fun e e' => Names.le e.1.text e'.1.text :=
  fun e e' => Names.byKey_le e.1.text e'.1.text

theorem map_ordered (p : Program) :
    p.ordered.map pathAndText = (p.units.map pathAndText).mergeSort fun e e' =>
      Names.le e.1.text e'.1.text := by
  unfold ordered
  exact List.map_mergeSort fun _ _ _ _ => rfl

/-- programs with one root and the same contents list their entries alike -/
theorem orderedEntries_eq (hp : p.Readable) (hq : q.Readable) (hroot : p.root = q.root)
    (h : p.contents = q.contents) : p.orderedEntries = q.orderedEntries := by
  have hperm : (p.units.map pathAndText).Perm (q.units.map pathAndText) :=
    (List.perm_ext_iff_of_nodup hp.nodup_pathAndText hq.nodup_pathAndText).mpr fun e =>
      ⟨subset_of_contents hp hq hroot h e, subset_of_contents hq hp hroot.symm h.symm e⟩
  -- a path is known by its text, and no other unit has it
  have hinj : ∀ e ∈ p.units.map pathAndText, ∀ e' ∈ p.units.map pathAndText, e.1.text = e'.1.text →
      e = e' := by
    intro e he e' he' htext
    obtain ⟨u, hu, rfl⟩ := List.mem_map.mp he
    obtain ⟨v, hv, rfl⟩ := List.mem_map.mp he'
    have hpath : u.path = v.path := Path.text_inj (hp.proper u hu) (hp.proper v hv) htext
    rw [hp.distinct.unit_eq hu hv hpath]
  have hsorted : p.ordered.map pathAndText = q.ordered.map pathAndText := by
    rw [map_ordered, map_ordered]
    exact byKey_path.mergeSort_eq_of_perm hperm hinj
  have hentries : ∀ r : Program, r.orderedEntries
      = (r.ordered.map pathAndText).map fun e => ((e.1.relativeTo r.root).text, e.2) := by
    intro r
    rw [List.map_map]
    rfl
  rw [hentries, hentries, hsorted, hroot]

theorem of_perm (h : p.Readable) {units : List SourceUnit} (hperm : units.Perm p.units) :
    ({ p with units := units } : Program).Readable where
  proper u hu := h.proper u (hperm.mem_iff.mp hu)
  absolute u hu := h.absolute u (hperm.mem_iff.mp hu)
  distinct := (hperm.map SourceUnit.path).nodup_iff.mpr h.distinct
  path_free u hu := h.path_free u (hperm.mem_iff.mp hu)
  text_free u hu := h.text_free u (hperm.mem_iff.mp hu)

end Readable

/-- The message that is digested tells the contents of a program and nothing else. For two programs
with one root, whose units have absolute paths, each once, and no closer in paths and texts, the
messages are the same just if the programs have the same pairs of a path, as seen from the root, and
a text. So the message does not depend on the order of the units. No unit that is made from a text
has the closer in its path or its text. -/
theorem message_iff_contents (p q : Program) (hp : p.Readable) (hq : q.Readable)
    (hroot : p.root = q.root) :
    p.fingerprint = Text.Digest.sha256 p.message ∧
    (p.message = q.message ↔ p.contents = q.contents) ∧
    (∀ units : List SourceUnit, units.Perm p.units →
      ({ p with units := units } : Program).message = p.message) ∧
    ∀ (path : Path) (text : String) (u : SourceUnit), parseUnit path text p.root = .ok (some u) →
      closer ∉ u.path.text.toList ∧ closer ∉ u.text.toList := by
  refine ⟨p.fingerprint_eq, ⟨fun h => ?_, fun h => ?_⟩, fun units hperm => ?_,
    fun path text u hparse => ?_⟩
  · have hentries := (hp.message_eq_iff hq).mp h
    ext e
    rw [← mem_orderedEntries, ← mem_orderedEntries, hentries]
  · exact (hp.message_eq_iff hq).mpr (hp.orderedEntries_eq hq hroot h)
  · have hr := hp.of_perm hperm
    have hcontents : ({ p with units := units } : Program).contents = p.contents := by
      ext e
      exact exists_congr fun u => and_congr_left' hperm.mem_iff
    exact (hr.message_eq_iff hp).mpr (hr.orderedEntries_eq hp rfl hcontents)
  · obtain ⟨hpath, htext, hfree⟩ := parseUnit_eq_some hparse
    rw [hpath, htext]
    exact hfree

/-- a source without text below the root, and a stub elsewhere -/
def twoPlaces : Program :=
  ⟨memoryRoot,
    [⟨⟨"/", ["virtual", "game.py"]⟩, "game", "", []⟩,
      ⟨⟨"//", ["lib", "game.pyi"]⟩, "lib.game", "A = 1\n", []⟩], true⟩

/-- the same texts at the other places -/
def twoPlacesSwapped : Program :=
  ⟨memoryRoot,
    [⟨⟨"//", ["lib", "game.pyi"]⟩, "lib.game", "", []⟩,
      ⟨⟨"/", ["virtual", "game.py"]⟩, "game", "A = 1\n", []⟩], true⟩

theorem readable_twoPlaces : twoPlaces.Readable :=
  ⟨by decide, by decide, by unfold PathsDistinct; decide, by decide, by decide⟩

theorem readable_twoPlacesSwapped : twoPlacesSwapped.Readable :=
  ⟨by decide, by decide, by unfold PathsDistinct; decide, by decide, by decide⟩

theorem message_iff_contents_twoPlaces :
    twoPlaces.Readable ∧ twoPlacesSwapped.Readable ∧ twoPlaces.root = twoPlacesSwapped.root ∧
      twoPlaces.message ≠ twoPlacesSwapped.message ∧
      ({ twoPlaces with units := twoPlaces.units.reverse } : Program).message
        = twoPlaces.message := by
  obtain ⟨_, hiff, hreorder, _⟩ :=
    message_iff_contents twoPlaces twoPlacesSwapped readable_twoPlaces readable_twoPlacesSwapped rfl
  refine ⟨readable_twoPlaces, readable_twoPlacesSwapped, rfl, fun h => ?_,
    hreorder _ (List.reverse_perm _)⟩
  have hmem : ("game.py", "") ∈ twoPlaces.contents := ⟨_, List.mem_cons_self .., by decide⟩
  rw [hiff.mp h] at hmem
  obtain ⟨u, hu, hentry⟩ := hmem
  revert u
  decide

end Program

end Archetype
