import Mathlib.Data.List.Basic
import Mathlib.Data.List.Nodup
import Mathlib.Order.Lattice

/-!
# Sorting by a key

Reports are sorted by where their findings are, and names by their code points. Such an order
compares keys, and what has one key stays in the order in which it came. So a sorted list is known
by what it has of each key.

* `ByKey`                       an order that compares keys;
* `filter_key_mergeSort`        sorting keeps what has one key as it is;
* `mergeSort_eq_of_filter_key`  lists that agree on each key are sorted alike;
* `filter_mergeSort`            it does not matter whether something is left out before or after
                                sorting;
* `mergeSort_sublist`           a part of a list is sorted to a part of the sorted list;
* `mergeSort_insert`            a further element leaves all others as they are sorted.
-/

namespace Archetype

/-- the order compares keys -/
def ByKey {α κ : Type} [LinearOrder κ] (key : α → κ) (le : α → α → Bool) : Prop :=
  ∀ a b, le a b = true ↔ key a ≤ key b

namespace ByKey

variable {α κ : Type} [LinearOrder κ] {key : α → κ} {le : α → α → Bool}

theorem trans (h : ByKey key le) (a b c : α) (hab : le a b = true) (hbc : le b c = true) :
    le a c = true :=
  (h a c).mpr (le_trans ((h a b).mp hab) ((h b c).mp hbc))

theorem total (h : ByKey key le) (a b : α) : (le a b || le b a) = true := by
  rw [Bool.or_eq_true, h, h]
  exact le_total (key a) (key b)

theorem pairwise_mergeSort (h : ByKey key le) (l : List α) :
    (l.mergeSort le).Pairwise fun a b => key a ≤ key b :=
  (List.pairwise_mergeSort h.trans h.total l).imp fun {a b} hab => (h a b).mp hab

/-- lists with the same elements are sorted alike if their elements are known by their keys -/
theorem mergeSort_eq_of_perm (h : ByKey key le) {l l' : List α} (hperm : l.Perm l')
    (hinj : ∀ a ∈ l, ∀ b ∈ l, key a = key b → a = b) : l.mergeSort le = l'.mergeSort le := by
  have hperm' : (l.mergeSort le).Perm (l'.mergeSort le) :=
    ((List.mergeSort_perm l le).trans hperm).trans (List.mergeSort_perm l' le).symm
  refine hperm'.eq_of_pairwise ?_ (h.pairwise_mergeSort l) (h.pairwise_mergeSort l')
  intro a b ha hb hab hba
  exact hinj a (List.mem_mergeSort.mp ha) b (hperm.mem_iff.mpr (List.mem_mergeSort.mp hb))
    (le_antisymm hab hba)

/-! ## what has one key -/

/-- sorting keeps what has one key as it is -/
theorem filter_key_mergeSort (h : ByKey key le) (l : List α) (k : κ) :
    (l.mergeSort le).filter (key · = k) = l.filter (key · = k) := by
  have hkeys : ∀ a ∈ l.filter (key · = k), key a = k :=
    fun a ha => of_decide_eq_true (List.mem_filter.mp ha).2
  have hsorted : (l.filter (key · = k)).Pairwise fun a b => le a b = true :=
    List.pairwise_of_forall_mem_list fun a ha b hb =>
      (h a b).mpr ((hkeys a ha).trans (hkeys b hb).symm).le
  have hsub : (l.filter (key · = k)).Sublist (l.mergeSort le) :=
    List.sublist_mergeSort h.trans h.total hsorted List.filter_sublist
  have hsub' := hsub.filter (key · = k)
  rw [List.filter_filter] at hsub'
  simp only [Bool.and_self] at hsub'
  exact (hsub'.eq_of_length ((List.mergeSort_perm l le).filter _).length_eq.symm).symm

theorem mem_of_filter_key {l l' : List α}
    (heq : ∀ k, l.filter (key · = k) = l'.filter (key · = k)) {a : α} (ha : a ∈ l) : a ∈ l' := by
  have ha' : a ∈ l.filter (key · = key a) := List.mem_filter.mpr ⟨ha, decide_eq_true rfl⟩
  rw [heq] at ha'
  exact (List.mem_filter.mp ha').1

theorem key_head_le {a b : α} {l : List α} (hl : (a :: l).Pairwise fun a b => key a ≤ key b)
    (hb : b ∈ a :: l) :
    key a ≤ key b := by
  rcases List.mem_cons.mp hb with rfl | hb
  · exact le_rfl
  · exact List.rel_of_pairwise_cons hl hb

/-- sorted lists that agree on each key are equal -/
theorem eq_of_filter_key {l l' : List α} (hl : l.Pairwise fun a b => key a ≤ key b)
    (hl' : l'.Pairwise fun a b => key a ≤ key b)
    (heq : ∀ k, l.filter (key · = k) = l'.filter (key · = k)) : l = l' := by
  induction l generalizing l' with
  | nil =>
    cases l' with
    | nil => rfl
    | cons b l' =>
      exact absurd (mem_of_filter_key (fun k => (heq k).symm) (List.mem_cons_self ..))
        List.not_mem_nil
  | cons a l ih =>
    cases l' with
    | nil => exact absurd (mem_of_filter_key heq (List.mem_cons_self ..)) List.not_mem_nil
    | cons b l' =>
      -- each of the two first elements is in the other list, so they have one key and are the same
      have hkey : key b = key a :=
        le_antisymm (key_head_le hl' (mem_of_filter_key heq (List.mem_cons_self ..)))
          (key_head_le hl (mem_of_filter_key (fun k => (heq k).symm) (List.mem_cons_self ..)))
      obtain ⟨rfl, _⟩ : a = b ∧ _ := by simpa [List.filter_cons, hkey] using heq (key a)
      congr 1
      refine ih hl.of_cons hl'.of_cons fun k => ?_
      have hk := heq k
      rw [List.filter_cons, List.filter_cons] at hk
      split at hk
      · exact (List.cons.inj hk).2
      · exact hk

/-- lists that agree on each key are sorted alike -/
theorem mergeSort_eq_of_filter_key (h : ByKey key le) {l l' : List α}
    (heq : ∀ k, l.filter (key · = k) = l'.filter (key · = k)) :
    l.mergeSort le = l'.mergeSort le := by
  refine eq_of_filter_key (h.pairwise_mergeSort l) (h.pairwise_mergeSort l') fun k => ?_
  rw [h.filter_key_mergeSort, h.filter_key_mergeSort, heq]

/-- it does not matter whether something is left out before or after sorting -/
theorem filter_mergeSort (h : ByKey key le) (l : List α) (p : α → Bool) :
    (l.mergeSort le).filter p = (l.filter p).mergeSort le := by
  refine eq_of_filter_key ((h.pairwise_mergeSort l).filter p) (h.pairwise_mergeSort _) fun k => ?_
  rw [h.filter_key_mergeSort, List.filter_comm, h.filter_key_mergeSort, List.filter_comm]

/-! ## parts of a list -/

/-- a part of a list that has one element less -/
theorem exists_insert_of_sublist {l l' : List α} (h : l.Sublist l')
    (hlength : l'.length = l.length + 1) :
    ∃ front a back, l' = front ++ a :: back ∧ l = front ++ back := by
  induction h with
  | slnil => cases hlength
  | @cons l l' a hsub _ =>
    obtain rfl := hsub.eq_of_length (Nat.succ.inj hlength).symm
    exact ⟨[], a, l, rfl, rfl⟩
  | @cons_cons l l' b _ ih =>
    obtain ⟨front, a, back, rfl, rfl⟩ := ih (Nat.succ.inj hlength)
    exact ⟨b :: front, a, back, rfl, rfl⟩

/-- what a sorted list has before an element and behind it, told by the order alone -/
theorem filter_of_sorted_append (h : ByKey key le) {a : α} {front back : List α}
    (hsorted : (front ++ a :: back).Pairwise fun a b => key a ≤ key b)
    (hfront : ∀ b ∈ front, (!le a b) = true) :
    (front ++ back).filter (fun b => !le a b) = front ∧ (front ++ back).filter (le a) = back := by
  have hback : ∀ b ∈ back, le a b = true := fun b hb =>
    (h a b).mpr (List.rel_of_pairwise_cons (List.pairwise_append.mp hsorted).2.1 hb)
  have hnone : back.filter (fun b => !le a b) = [] :=
    List.filter_eq_nil_iff.mpr fun b hb => by simp [hback b hb]
  have hnone' : front.filter (le a) = [] :=
    List.filter_eq_nil_iff.mpr fun b hb => by simpa using hfront b hb
  rw [List.filter_append, List.filter_append, hnone, hnone', List.append_nil, List.nil_append]
  exact ⟨List.filter_eq_self.mpr hfront, List.filter_eq_self.mpr hback⟩

/-- a part of a list is sorted to a part of the sorted list -/
theorem mergeSort_sublist (h : ByKey key le) {l l' : List α} (hsub : l.Sublist l') :
    (l.mergeSort le).Sublist (l'.mergeSort le) := by
  induction hsub with
  | slnil => exact List.Sublist.refl _
  | @cons _ l' a _ ih =>
    obtain ⟨front, back, hcons, htail, -⟩ := List.mergeSort_cons h.trans h.total a l'
    rw [htail] at ih
    rw [hcons]
    exact ih.middle a
  | @cons_cons l l' a _ ih =>
    -- both lists are cut where `a` comes in, and the cut can be told from the order
    obtain ⟨front, back, hcons, htail, hfront⟩ := List.mergeSort_cons h.trans h.total a l
    obtain ⟨front', back', hcons', htail', hfront'⟩ := List.mergeSort_cons h.trans h.total a l'
    obtain ⟨hf, hb⟩ := h.filter_of_sorted_append (hcons ▸ h.pairwise_mergeSort (a :: l)) hfront
    obtain ⟨hf', hb'⟩ := h.filter_of_sorted_append (hcons' ▸ h.pairwise_mergeSort (a :: l')) hfront'
    rw [htail, htail'] at ih
    have hfronts := ih.filter fun b => !le a b
    have hbacks := ih.filter (le a)
    rw [hf, hf'] at hfronts
    rw [hb, hb'] at hbacks
    rw [hcons, hcons']
    exact hfronts.append (hbacks.cons_cons a)

/-- a further element leaves all others as they are sorted -/
theorem mergeSort_insert (h : ByKey key le) (a : α) (front back : List α) :
    ∃ front' back', (front ++ a :: back).mergeSort le = front' ++ a :: back' ∧
      (front ++ back).mergeSort le = front' ++ back' := by
  have hsub : (front ++ back).Sublist (front ++ a :: back) :=
    (List.sublist_cons_self a back).append_left front
  have hlength : ((front ++ a :: back).mergeSort le).length
      = ((front ++ back).mergeSort le).length + 1 := by
    simp only [List.length_mergeSort, List.length_append, List.length_cons, Nat.add_assoc]
  obtain ⟨front', b, back', hb, hrest⟩ :=
    exists_insert_of_sublist (h.mergeSort_sublist hsub) hlength
  refine ⟨front', back', ?_, hrest⟩
  -- both sorted lists have their elements from the lists they were made of, so what was put in is
  -- `a`
  have hperm : (front' ++ b :: back').Perm (a :: (front' ++ back')) := by
    rw [← hb, ← hrest]
    exact (List.mergeSort_perm _ _).trans
      (List.perm_middle.trans ((List.mergeSort_perm (front ++ back) le).symm.cons a))
  have hcons : (b :: (front' ++ back')).Perm (a :: (front' ++ back')) :=
    List.perm_middle.symm.trans hperm
  have hsingle : [b].Perm [a] := (List.perm_append_right_iff (front' ++ back')).mp hcons
  rw [hb, List.singleton_perm_singleton.mp hsingle]

end ByKey

end Archetype
