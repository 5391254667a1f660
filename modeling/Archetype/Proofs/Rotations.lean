import Archetype.Proofs.CycleSearch
import Archetype.Proofs.SameEnds
import Mathlib.Data.List.Rotate

/-!
# Closed paths up to rotation

The names of a closed path stand in a ring, which can be read from any of them. The key of the path
is the one reading that starts at the smallest name. So two closed paths have one key just if they
go round the same ring.

* `IsClosedPath`              a path that repeats nothing but its first name, at its end;
* `mem_and_le_of_leastName`   the smallest of some names;
* `cycleKey?_eq_some`         the key is a reading of the ring from its smallest name;
* `eq_of_isRotated`           of the readings of a ring, one starts at a given name;
* `cycleKey_eq_iff_rotated`   closed paths with one key are those with one ring.
-/

namespace Archetype

/-- a closed path: its first name stands again at its end, and no other name is repeated -/
structure IsClosedPath (path : List String) : Prop where
  closed : ∃ x ring, path = x :: ring ++ [x]
  nodup : path.dropLast.Nodup

theorem IsClosedPath.dropLast_ne_nil {path : List String} (h : IsClosedPath path) :
    path.dropLast ≠ [] := by
  obtain ⟨x, ring, rfl⟩ := h.closed
  rw [List.dropLast_concat]
  exact List.cons_ne_nil x ring

/-! ## the smallest name -/

theorem mem_and_le_of_leastName {names : List String} {least : String}
    (h : leastName names = some least) :
    least ∈ names ∧ ∀ n ∈ names, least ≤ n := by
  induction names generalizing least with
  | nil => cases h
  | cons n ns ih =>
    unfold leastName at h
    cases hrest : leastName ns with
    | none =>
      rw [hrest] at h
      cases h
      obtain rfl := ConstraintGraph.leastName_eq_none hrest
      simp
    | some m =>
      rw [hrest] at h
      obtain ⟨hmem, hle⟩ := ih hrest
      simp only at h
      split at h
      · rename_i hnm
        cases h
        have hnm' : n ≤ m := (Names.byKey_le _ _).mp hnm
        refine ⟨List.mem_cons_self .., fun k hk => ?_⟩
        rcases List.mem_cons.mp hk with rfl | hk
        · exact le_rfl
        · exact hnm'.trans (hle k hk)
      · rename_i hnm
        cases h
        refine ⟨List.mem_cons_of_mem _ hmem, fun k hk => ?_⟩
        rcases List.mem_cons.mp hk with rfl | hk
        · exact le_of_not_ge fun hge => hnm ((Names.byKey_le _ _).mpr hge)
        · exact hle k hk

/-! ## the key -/

/-- a ring that is read from one of its names starts there -/
theorem dropWhile_ne_of_mem {ring : List String} {name : String} (h : name ∈ ring) :
    ∃ rest, ring.dropWhile (· != name) = name :: rest := by
  obtain ⟨front, back, rfl, hfront⟩ := List.eq_append_cons_of_mem h
  have hpass : ∀ n ∈ front, (n != name) = true :=
    fun n hn => bne_iff_ne.mpr fun e => hfront (e ▸ hn)
  refine ⟨back, ?_⟩
  rw [List.dropWhile_append_of_pos hpass, List.dropWhile_cons_of_neg (by simp)]

/-- the key of a path reads its ring from the smallest name -/
theorem cycleKey?_eq_some {path : List String} (h : path.dropLast ≠ []) :
    ∃ least rest, cycleKey? path = some (least :: rest) ∧ (least :: rest) ~r path.dropLast ∧
      ∀ n ∈ path.dropLast, least ≤ n := by
  cases hleast : leastName path.dropLast with
  | none => exact absurd (ConstraintGraph.leastName_eq_none hleast) h
  | some least =>
    obtain ⟨hmem, hle⟩ := mem_and_le_of_leastName hleast
    obtain ⟨rest, hrest⟩ := dropWhile_ne_of_mem hmem
    have hturned : path.dropLast.dropWhile (· != least) ++ path.dropLast.takeWhile (· != least) ~r
        path.dropLast.takeWhile (· != least) ++ path.dropLast.dropWhile (· != least) :=
          List.isRotated_append
    rw [List.takeWhile_append_dropWhile, hrest] at hturned
    refine ⟨least, rest ++ path.dropLast.takeWhile (· != least), ?_, hturned, hle⟩
    unfold cycleKey?
    simp only [hleast, Option.map_some, hrest, List.cons_append]

/-- of the readings of a ring, one starts at a given name -/
theorem eq_of_isRotated {name : String} {rest rest' : List String} (hnodup : (name :: rest).Nodup)
    (h : (name :: rest) ~r (name :: rest')) : rest = rest' := by
  obtain ⟨k, hk⟩ := h
  rw [← List.rotate_mod] at hk
  have hlt : k % (name :: rest).length < (name :: rest).length := Nat.mod_lt _ (Nat.succ_pos _)
  -- the first name is found again at the place where the second reading starts
  have hhead := List.head?_rotate hlt
  rw [hk, List.head?_cons, List.getElem?_eq_getElem hlt, Option.some.injEq] at hhead
  have hsame : (name :: rest)[0] = (name :: rest)[k % (name :: rest).length] := hhead
  have hzero : 0 = k % (name :: rest).length := hnodup.getElem_inj_iff.mp hsame
  rw [← hzero, List.rotate_zero] at hk
  exact (List.cons.inj hk).2

/-- closed paths have one key just if the ring of one is a rotation of that of the other, and the
key is the rotation that starts at the smallest name -/
theorem cycleKey_eq_iff_rotated {c d : List String} (hc : IsClosedPath c) (hd : IsClosedPath d) :
    (cycleKey? c = cycleKey? d ↔ c.dropLast ~r d.dropLast) ∧
      ∃ least rest, cycleKey? c = some (least :: rest) ∧ (least :: rest) ~r c.dropLast ∧
        ∀ n ∈ c.dropLast, least ≤ n := by
  obtain ⟨least, rest, hkey, hturned, hle⟩ := cycleKey?_eq_some hc.dropLast_ne_nil
  obtain ⟨least', rest', hkey', hturned', hle'⟩ := cycleKey?_eq_some hd.dropLast_ne_nil
  refine ⟨⟨fun heq => ?_, fun hrot => ?_⟩, least, rest, hkey, hturned, hle⟩
  · rw [hkey, hkey', Option.some.injEq] at heq
    rw [heq] at hturned
    exact hturned.symm.trans hturned'
  · have hkeys : (least :: rest) ~r (least' :: rest') := hturned.trans (hrot.trans hturned'.symm)
    -- each smallest name is in both rings
    have hmem : least ∈ d.dropLast := hrot.mem_iff.mp (hturned.mem_iff.mp (List.mem_cons_self ..))
    have hmem' : least' ∈ c.dropLast :=
      hrot.mem_iff.mpr (hturned'.mem_iff.mp (List.mem_cons_self ..))
    obtain rfl : least = least' := le_antisymm (hle least' hmem') (hle' least hmem)
    rw [hkey, hkey', eq_of_isRotated (hturned.nodup_iff.mpr hc.nodup) hkeys]

/-- a ring of three names, read from two of them -/
theorem cycleKey_eq_iff_rotated_threeNames :
    IsClosedPath ["Turret", "Armor", "Hull", "Turret"] ∧
    IsClosedPath ["Hull", "Turret", "Armor", "Hull"] ∧
      cycleKey? ["Turret", "Armor", "Hull", "Turret"]
        = cycleKey? ["Hull", "Turret", "Armor", "Hull"] ∧
      ["Turret", "Armor", "Hull"] ~r ["Hull", "Turret", "Armor"] := by
  have hc : IsClosedPath ["Turret", "Armor", "Hull", "Turret"] :=
    ⟨⟨"Turret", ["Armor", "Hull"], rfl⟩, by decide⟩
  have hd : IsClosedPath ["Hull", "Turret", "Armor", "Hull"] :=
    ⟨⟨"Hull", ["Turret", "Armor"], rfl⟩, by decide⟩
  have hkeys : cycleKey? ["Turret", "Armor", "Hull", "Turret"]
      = cycleKey? ["Hull", "Turret", "Armor", "Hull"] := by
    decide
  exact ⟨hc, hd, hkeys, (cycleKey_eq_iff_rotated hc hd).1.mp hkeys⟩

end Archetype
