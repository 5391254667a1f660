import Archetype.Code.Lexer

/-!
# Names of tokens

A name token is the normal form of a word of the text, and no step towards a normal form leaves
nothing of a word.

* `normalForm_ne_nil`    the normal form of a word that is not empty;
* `Lexeme.isNamed`       is it no name, or one that is not empty?
* `isNamed_of_lexeme?`   what is read from a text is so.
-/

namespace Archetype

namespace Text

/-! ## normal forms -/

/-- every entry that is read has a value -/
theorem values_ne_nil_of_mem_readEntriesFrom {r : EntryReading} {cs : List Char} {e : TableEntry}
    (h : e ∈ readEntriesFrom r cs) : e.values ≠ [] := by
  have hread : ∀ {r : EntryReading} {e : TableEntry}, r.entry? = some e → e.values ≠ [] := by
    intro r e he
    obtain ⟨n, _, rfl⟩ := Option.map_eq_some_iff.mp he
    exact fun hnil => List.cons_ne_nil _ _ (List.reverse_eq_nil_iff.mp hnil)
  fun_induction readEntriesFrom r cs with
  | case1 r => exact hread (Option.mem_toList.mp h)
  | case2 r cs ih => exact ih h
  | case3 r cs _ ih => exact ih h
  | case4 r cs _ _ ih => exact ih h
  | case5 r c cs _ _ _ _ last hlast ih =>
    rcases List.mem_cons.mp h with rfl | h
    · exact hread hlast
    · exact ih h
  | case6 r c cs _ _ _ _ _ ih => exact ih h
  | case7 r c cs _ _ _ _ ih => exact ih h

theorem decompose_ne_nil (n : Nat) : decompose n ≠ [] := by
  unfold decompose
  split
  · exact List.cons_ne_nil _ _
  split
  · dsimp only
    split <;> exact List.cons_ne_nil _ _
  split
  · rename_i e he
    split
    · have hmem : e ∈ compatibilityTable := Array.mem_of_find?_eq_some he
      exact values_ne_nil_of_mem_readEntriesFrom (List.mem_toArray.mp hmem)
    · exact List.cons_ne_nil _ _
  · exact List.cons_ne_nil _ _

theorem insertMark_ne_nil (k n : Nat) (run : List (Nat × Nat)) : insertMark k n run ≠ [] := by
  cases run with
  | nil => exact List.cons_ne_nil _ _
  | cons m run =>
    unfold insertMark
    split <;> exact List.cons_ne_nil _ _

theorem reorderFrom_ne_nil {run : List (Nat × Nat)} {ns : List Nat} (h : run ≠ [] ∨ ns ≠ []) :
    reorderFrom run ns ≠ [] := by
  induction ns generalizing run with
  | nil =>
    have hrun : run ≠ [] := h.resolve_right fun hns => hns rfl
    exact fun hnil => hrun (List.map_eq_nil_iff.mp hnil)
  | cons n ns ih =>
    unfold reorderFrom
    dsimp only
    split
    · exact List.append_ne_nil_of_right_ne_nil _ (List.cons_ne_nil _ _)
    · exact ih (Or.inl (insertMark_ne_nil _ _ _))

theorem composeFrom_ne_nil (base : Nat) (marks : List Nat) (top : Nat) (ns : List Nat) :
    composeFrom base marks top ns ≠ [] := by
  fun_induction composeFrom base marks top ns with
  | case1 => exact List.cons_ne_nil _ _
  | case2 base marks top n ns k m hm ih => exact ih
  | case3 => exact List.cons_ne_nil _ _
  | case4 base marks top n ns k _ _ ih => exact ih

theorem compose_ne_nil {ns : List Nat} (h : ns ≠ []) : compose ns ≠ [] := by
  cases ns with
  | nil => exact absurd rfl h
  | cons n ns =>
    unfold compose
    split
    · exact composeFrom_ne_nil _ _ _ _
    · exact List.cons_ne_nil _ _

theorem normalForm_ne_nil {cs : List Char} (h : cs ≠ []) : normalForm cs ≠ [] := by
  unfold normalForm
  split
  · exact h
  · have hcodes : cs.flatMap (fun c => decompose c.toNat) ≠ [] := by
      obtain ⟨c, hc⟩ := List.exists_mem_of_ne_nil cs h
      exact fun hnil => decompose_ne_nil c.toNat (List.flatMap_eq_nil_iff.mp hnil c hc)
    have hordered : reorder (cs.flatMap fun c => decompose c.toNat) ≠ [] :=
      reorderFrom_ne_nil (Or.inr hcodes)
    exact fun hnil => compose_ne_nil hordered (List.map_eq_nil_iff.mp hnil)

end Text

namespace Code

/-! ## lexemes -/

/-- is it no name, or a name that is not empty? -/
def Lexeme.isNamed : Lexeme → Bool
  | .name id _ => id != ""
  | _ => true

theorem isNamed_of_wordLexeme? {word : List Char} {l : Lexeme} (hword : word ≠ [])
    (h : wordLexeme? word = some l) : l.isNamed = true := by
  unfold wordLexeme? at h
  split at h
  · cases h
    rfl
  · dsimp only at h
    split at h
    · cases h
      refine bne_iff_ne.mpr fun hempty => Text.normalForm_ne_nil hword ?_
      exact String.ofList_eq_empty_iff.mp hempty
    · cases h

theorem isNamed_of_literal? {marks : Bool × Bool × Bool} {opened length : Nat} {pos : Position}
    {cs : List Char} {l : Lexeme} (h : literal? marks opened pos cs = some (l, length)) :
    l.isNamed = true := by
  cases cs with
  | nil => cases h
  | cons quote rest =>
    obtain ⟨_, _, heq⟩ := Option.map_eq_some_iff.mp h
    cases heq
    rfl

/-- a word that is read holds the character that it is known by -/
theorem isNamed_of_lexeme? {pos : Position} {cs : List Char} {l : Lexeme} {length : Nat}
    (h : lexeme? pos cs = some (l, length)) : l.isNamed = true := by
  cases cs with
  | nil => cases h
  | cons c rest =>
    simp only [lexeme?] at h
    split at h
    · obtain ⟨_, _, heq⟩ := Option.map_eq_some_iff.mp h
      cases heq
      rfl
    split at h
    · exact isNamed_of_literal? h
    split at h
    · rename_i hinWord
      split at h
      · exact isNamed_of_literal? h
      · obtain ⟨_, hword, heq⟩ := Option.map_eq_some_iff.mp h
        cases heq
        rw [List.takeWhile_cons_of_pos hinWord] at hword
        exact isNamed_of_wordLexeme? (List.cons_ne_nil _ _) hword
    · obtain ⟨_, _, heq⟩ := Option.map_eq_some_iff.mp h
      cases heq
      rfl

end Code

end Archetype
