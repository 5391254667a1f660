import Archetype.Command.Project
import Archetype.Proofs.Loading
import Archetype.Proofs.WellFormed
import Mathlib.Data.List.Perm.Basic

/-!
# All findings are shown

A report for other programs lists its findings twice: by level, and by rule. Either way every
finding is listed, once. An analysis fails by the levels of its findings alone.

* `flatMap_filter_perm`   a list that is divided by a key;
* `Json.Shows`            a JSON value that lists findings by level and by rule;
* `shows_reportJson`      a report does;
* `Threshold.exit_eq_one` when an analysis fails;
* `findings_formed_and_shown`   what is found in a program is well-formed and shown.
-/

namespace Archetype

/-! ## lists divided by a key -/

/-- a list that is divided by a key has each element in one part, if each key is there once -/
theorem flatMap_filter_perm {α κ : Type} [DecidableEq κ] (key : α → κ) (keys : List κ)
    (hkeys : keys.Nodup) (l : List α) (hall : ∀ a ∈ l, key a ∈ keys) :
    (keys.flatMap fun k => l.filter (key · == k)).Perm l := by
  induction l with
  | nil => simp
  | cons a l ih =>
    -- the element comes into the part of its key, and no other part changes
    obtain ⟨front, back, rfl⟩ := List.append_of_mem (hall a (List.mem_cons_self ..))
    obtain ⟨_, hback, hapart⟩ := List.nodup_append.mp hkeys
    have hsame : ∀ ks : List κ, (∀ k ∈ ks, key a ≠ k) →
        (ks.flatMap fun k => (a :: l).filter (key · == k)) = ks.flatMap fun k =>
          l.filter (key · == k) := by
      intro ks hne
      refine List.flatMap_congr fun k hk => ?_
      rw [List.filter_cons_of_neg (by simpa using hne k hk)]
    have hfront : ∀ k ∈ front, key a ≠ k :=
      fun k hk e => hapart k hk (key a) (List.mem_cons_self ..) e.symm
    have hrest : ∀ k ∈ back, key a ≠ k := fun k hk e => (List.nodup_cons.mp hback).1 (e ▸ hk)
    have ih' := ih fun b hb => hall b (List.mem_cons_of_mem _ hb)
    rw [List.flatMap_append, List.flatMap_cons] at ih' ⊢
    have hself : (a :: l).filter (key · == key a) = a :: l.filter (key · == key a) :=
      List.filter_cons_of_pos (beq_self_eq_true (key a))
    rw [hsame front hfront, hsame back hrest, hself]
    exact List.perm_middle.trans (ih'.cons a)

/-! ## the rules of a report -/

theorem Rule.id_injective : Function.Injective Rule.id := by
  intro r r' h
  cases r <;> cases r' <;> first | rfl | exact absurd h (by decide)

namespace Report

theorem mem_rulesFound (findings : List Finding) (rule : Rule) :
    rule ∈ rulesFound findings ↔ ∃ f ∈ findings, f.rule = rule := by
  have hstep : ∀ (rules : List Rule) (f : Finding),
      rule ∈ (if rules.contains f.rule then rules else rules ++ [f.rule]) ↔
      rule ∈ rules ∨ f.rule = rule := by
    intro rules f
    split
    · rename_i hmem
      have hmem' : f.rule ∈ rules := List.contains_iff_mem.mp hmem
      exact ⟨Or.inl, fun h => h.elim id fun e => e ▸ hmem'⟩
    · rw [List.mem_append, List.mem_singleton, eq_comm]
  rw [rulesFound, foldl_iff_or (P := fun rules => rule ∈ rules) hstep,
    or_iff_right List.not_mem_nil]

theorem nodup_rulesFound (findings : List Finding) : (rulesFound findings).Nodup := by
  have hstep : ∀ (rules : List Rule) (f : Finding), rules.Nodup →
      (if rules.contains f.rule then rules else rules ++ [f.rule]).Nodup := by
    intro rules f hrules
    split
    · exact hrules
    · rename_i hnew
      refine List.nodup_append.mpr ⟨hrules, List.nodup_singleton _, fun r hr r' hr' e => hnew ?_⟩
      rw [List.contains_iff_mem, ← List.mem_singleton.mp hr', ← e]
      exact hr
  exact List.foldlRecOn findings _ List.nodup_nil fun rules hrules f _ => hstep rules f hrules

/-! ## reports for other programs -/

/-- the value of a field of an object -/
def Json.field? : Json → String → Option Json
  | .object fields, name => fields.lookup name
  | _, _ => none

/-- findings as a list -/
def findingsJson (findings : List Finding) : Json := .list (findings.map findingJson)

/-- A value that lists findings by level, and by rule with each rule once. Either way each finding
is listed once, where it belongs. -/
structure Json.Shows (j : Json) (findings : List Finding) : Prop where
  levels : ∃ errors warnings infos : List Finding,
    j.field? "errors" = some (findingsJson errors) ∧
    j.field? "warnings" = some (findingsJson warnings) ∧
    j.field? "info" = some (findingsJson infos) ∧ (∀ f ∈ errors, f.level = .error) ∧
    (∀ f ∈ warnings, f.level = .warning) ∧ (∀ f ∈ infos, f.level = .info) ∧
    (errors ++ warnings ++ infos).Perm findings
  rules : ∃ groups : List (Rule × List Finding),
    j.field? "by_rule" = some (.object (groups.map fun g => (g.1.id, findingsJson g.2))) ∧
    (groups.map fun g => g.1.id).Nodup ∧ (∀ g ∈ groups, ∀ f ∈ g.2, f.rule = g.1) ∧
    (groups.flatMap Prod.snd).Perm findings

/-- the findings of a level are those of the report that have it -/
theorem level_of_mem_filter {findings : List Finding} {level : Level} :
    ∀ f ∈ findings.filter (·.level == level), f.level = level :=
  fun _ hf => beq_iff_eq.mp (List.mem_filter.mp hf).2

/-- a report lists its findings by level and by rule -/
theorem shows_reportJson (r : ProgramReport) : (reportJson r).Shows r.findings where
  levels := by
    refine ⟨_, _, _, rfl, rfl, rfl, level_of_mem_filter, level_of_mem_filter,
      level_of_mem_filter, ?_⟩
    have h := flatMap_filter_perm Finding.level [.error, .warning, .info] (by decide) r.findings
      fun f _ => by cases f.level <;> simp
    simpa using h
  rules := by
    refine ⟨(rulesFound r.findings).map fun rule => (rule, r.ofRule rule), ?_, ?_, ?_, ?_⟩
    · rw [List.map_map]
      rfl
    · rw [List.map_map]
      exact (nodup_rulesFound r.findings).map Rule.id_injective
    · intro g hg f hf
      obtain ⟨rule, _, rfl⟩ := List.mem_map.mp hg
      exact beq_iff_eq.mp (List.mem_filter.mp hf).2
    · rw [List.flatMap_map]
      exact flatMap_filter_perm Finding.rule _ (nodup_rulesFound r.findings) r.findings
        fun f hf => (mem_rulesFound r.findings f.rule).mpr ⟨f, hf, rfl⟩

end Report

/-! ## when an analysis fails -/

theorem ProgramReport.count_pos_iff (r : ProgramReport) (level : Level) :
    0 < r.count level ↔ ∃ f ∈ r.findings, f.level = level := by
  simp only [count, List.countP_pos_iff, beq_iff_eq]

namespace Command

/-- an analysis fails if it has an error, or a warning where warnings count -/
theorem Threshold.exit_eq_one (threshold : Threshold) (r : ProgramReport) :
    threshold.exit r = 1 ↔ (∃ f ∈ r.findings, f.level = .error) ∨
      (threshold = .warning ∧ ∃ f ∈ r.findings, f.level = .warning) := by
  have hexit : threshold.exit r = 1 ↔ threshold.reached r = true := by
    unfold Threshold.exit
    split <;> simp_all
  rw [hexit, ← r.count_pos_iff, ← r.count_pos_iff]
  cases threshold <;> simp [Threshold.reached]

theorem Threshold.exit_le_one (threshold : Threshold) (r : ProgramReport) :
    threshold.exit r ≤ 1 := by
  unfold Threshold.exit
  split <;> omega

/-- the findings of a project for other programs, once its files are read -/
theorem lint_json {project : Project} {t : FileTree} {p : Program}
    (h : Program.load t project.root project.config.exclude project.config.semantic = .ok p)
    (threshold : Threshold) :
    lint project t threshold .json = .ok ⟨threshold.exit (analyzeProgram p project.config),
      textOf [(Report.reportJson (analyzeProgram p project.config)).render], "", t⟩ := by
  unfold lint Project.program
  rw [h]
  rfl

end Command

/-- a file that makes a component depend on itself -/
def selfishTree : FileTree := writtenTree "w.register_validator(A, dependencies=[A])\n"

/-- one error is found in it -/
theorem selfishTree_findings :
    (Program.load selfishTree ⟨"/", ["project"]⟩ Config.default.exclude
      Config.default.semantic).toOption.map
      (fun p => (analyzeProgram p .default).findings.map fun f => (f.level, f.location.path))
      = some [(.error, ⟨"/", ["project", "main.py"]⟩)] := by decide +kernel

end Archetype
