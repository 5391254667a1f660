import Archetype.Proofs.Watching

/-!
# One snapshot under watch

A watcher that runs for days must not keep what it built for every state of the files. After each
run its session knows one state, that of the run, and keeps what was built for it and nothing else.
A state that was dropped and comes back is a new one, with a greater number.

* `Session.BuiltFor`           a session in which a registry and indexes were built for one
                               snapshot;
* `Session.Keeps`              a session that keeps one state, or none;
* `Watch.Single`               the session of a watcher keeps the state of the last run: the
                               invariant;
* `watch_keeps_one_snapshot`   what every run leaves, and how its snapshot compares with those
                               before.
-/

namespace Archetype

namespace Session

variable {s t : Session}

/-! ## what is built for a snapshot -/

/-- the snapshots that have a registry, in the order in which the registries were built -/
def registered (s : Session) : List Nat := s.registries.map Prod.fst

/-- `t` is `s` with a registry for the snapshot `id`, and all that was built on the way was built
for `id` -/
structure BuiltFor (id : Nat) (s t : Session) : Prop where
  next : t.next = s.next
  snapshots : t.snapshots = s.snapshots
  registered : t.registered = if id ∈ s.registered then s.registered else s.registered ++ [id]
  indexes : ∀ x ∈ t.indexes, x ∈ s.indexes ∨ x.1 = id

theorem indexAt_next (s : Session) (id : Nat) (p : Program) : (s.indexAt id p).1.next = s.next := by
  unfold indexAt
  split
  · split <;> rfl
  · rfl

theorem indexAt_registered (s : Session) (id : Nat) (p : Program) :
    (s.indexAt id p).1.registered = s.registered := by
  rw [registered, indexAt_registries, registered]

theorem mem_indexAt_indexes {id : Nat} {p : Program} {x : Nat × Built Index}
    (hx : x ∈ (s.indexAt id p).1.indexes) : x ∈ s.indexes ∨ x.1 = id := by
  unfold indexAt at hx
  split at hx
  · split at hx
    · exact Or.inl hx
    · exact (List.mem_append.mp hx).imp_right fun hx => by rw [List.mem_singleton.mp hx]
  · exact Or.inl hx

theorem lookup_eq_none_iff_not_registered (s : Session) (id : Nat) :
    s.registries.lookup id = none ↔ id ∉ s.registered := by
  rw [List.lookup_eq_none_iff]
  constructor
  · intro h hmem
    obtain ⟨x, hx, rfl⟩ := List.mem_map.mp hmem
    simpa using h x hx
  · intro h x hx
    have hne : id ≠ x.1 := fun e => h (List.mem_map.mpr ⟨x, hx, e.symm⟩)
    simpa using hne

theorem registryAt_builtFor (s : Session) (id : Nat) (p : Program) :
    BuiltFor id s (s.registryAt id p).1 := by
  cases hlook : s.registries.lookup id with
  | some r =>
    have hmem : id ∈ s.registered := by
      by_contra hmem
      rw [(lookup_eq_none_iff_not_registered s id).mpr hmem] at hlook
      cases hlook
    rw [registryAt_of_kept hlook]
    exact ⟨rfl, rfl, by rw [if_pos hmem], fun x hx => Or.inl hx⟩
  | none =>
    have hnew := (lookup_eq_none_iff_not_registered s id).mp hlook
    rw [registryAt_of_new hlook]
    refine ⟨indexAt_next s id p, indexAt_snapshots s id p, ?_, fun x hx => mem_indexAt_indexes hx⟩
    rw [if_neg hnew, ← indexAt_registered s id p]
    exact List.map_append

/-- an analysis builds what it needs for the snapshot of the program -/
theorem analyzeBuilt_builtFor (s : Session) (p : Program) (config : Config) :
    BuiltFor (s.snapshotOf p).2 (s.snapshotOf p).1 (s.analyzeBuilt p config).1 := by
  have h := registryAt_builtFor (s.snapshotOf p).1 (s.snapshotOf p).2 p
  refine ⟨(indexAt_next _ _ p).trans h.next, (indexAt_snapshots _ _ p).trans h.snapshots,
    (indexAt_registered _ _ p).trans h.registered, fun x hx => ?_⟩
  exact (mem_indexAt_indexes hx).elim (h.indexes x) Or.inr

theorem registered_invalidate (s : Session) (id : Nat) :
    (s.invalidate id).registered = s.registered.filter (· != id) := by
  rw [registered, registered, List.filter_map]
  rfl

/-! ## one state -/

/-- `s` knows the state `state`, a fingerprint with its snapshot, and what was built for it; without
a state it knows nothing -/
structure Keeps (s : Session) (state : Option (String × Nat)) : Prop where
  snapshots : s.snapshots = state.toList
  registered : s.registered = (state.map Prod.snd).toList
  indexes : ∀ x ∈ s.indexes, state.map Prod.snd = some x.1
  below : ∀ id, state.map Prod.snd = some id → id < s.next

theorem keeps_start : start.Keeps none :=
  ⟨rfl, rfl, fun _ hx => absurd hx List.not_mem_nil, fun _ hid => by cases hid⟩

theorem Keeps.cached {f : String} {id : Nat} (h : s.Keeps (some (f, id))) : s.cached = [id] := by
  have hreg : s.registries.map Prod.fst = [id] := h.registered
  rw [Session.cached, hreg]
  exact List.mergeSort_singleton id

/-- the state that is kept is analysed under its snapshot, and is still what is kept -/
theorem Keeps.analyze_same {p : Program} {id : Nat} (h : s.Keeps (some (p.fingerprint, id)))
    (config : Config) :
    (s.snapshotOf p).2 = id ∧ (s.analyzeBuilt p config).1.Keeps (some (p.fingerprint, id)) ∧
      (s.analyzeBuilt p config).1.next = s.next := by
  have hmapped : s.Mapped p.fingerprint id := by
    rw [Mapped, h.snapshots]
    exact if_pos rfl
  have hb := analyzeBuilt_builtFor s p config
  rw [snapshotOf_of_mapped hmapped] at hb ⊢
  have hmem : id ∈ s.registered := by
    rw [h.registered]
    exact List.mem_singleton_self id
  refine ⟨rfl, ⟨hb.snapshots.trans h.snapshots, ?_, fun x hx => ?_, fun n hn => ?_⟩, hb.next⟩
  · rw [hb.registered, if_pos hmem, h.registered]
  · exact (hb.indexes x hx).elim (h.indexes x) fun e => congrArg some e.symm
  · rw [hb.next]
    exact h.below n hn

/-- another state is analysed under the next snapshot, and is what is kept once the old one is
dropped -/
theorem Keeps.analyze_new {state : Option (String × Nat)} (h : s.Keeps state) {p : Program}
    (hnew : state.map Prod.fst ≠ some p.fingerprint) (config : Config) :
    (s.snapshotOf p).2 = s.next ∧
      (Watcher.dropLast (s.analyzeBuilt p config).1 (state.map Prod.snd) s.next).Keeps
        (some (p.fingerprint, s.next)) ∧
      (Watcher.dropLast (s.analyzeBuilt p config).1 (state.map Prod.snd) s.next).next
        = s.next + 1 := by
  have hget : s.snapshots.get? p.fingerprint = none := by
    rw [h.snapshots]
    cases state with
    | none => rfl
    | some x => exact if_neg fun e => hnew (congrArg some e)
  have hb := analyzeBuilt_builtFor s p config
  rw [snapshotOf_of_new hget] at hb ⊢
  refine ⟨rfl, ?_⟩
  have hsnap : (s.analyzeBuilt p config).1.snapshots
      = state.toList ++ [(p.fingerprint, s.next)] := by
    rw [hb.snapshots, enter, (Assoc.insert_of_get?_none hget _).1, h.snapshots]
  have hreg : (s.analyzeBuilt p config).1.registered = (state.map Prod.snd).toList ++ [s.next] := by
    have hout : s.next ∉ s.registered := by
      rw [h.registered]
      intro hmem
      exact Nat.lt_irrefl _ (h.below s.next (Option.mem_toList.mp hmem))
    rw [← h.registered]
    exact hb.registered.trans (if_neg hout)
  -- an old state stands before the new one in each table until it is dropped
  cases state with
  | none =>
    refine ⟨⟨hsnap, hreg, fun x hx => ?_, fun n hn => ?_⟩, hb.next⟩
    · rcases hb.indexes x hx with hx | e
      · cases h.indexes x hx
      · exact congrArg some e.symm
    · rw [← Option.some.inj hn]
      exact hb.next ▸ Nat.lt_succ_self s.next
  | some state =>
    obtain ⟨f, old⟩ := state
    have hlt : old < s.next := h.below old rfl
    have hdrop : Watcher.dropLast (s.analyzeBuilt p config).1 (some old) s.next
        = (s.analyzeBuilt p config).1.invalidate old := if_neg (Nat.ne_of_lt hlt)
    have hne : s.next ≠ old := Nat.ne_of_gt hlt
    change (Watcher.dropLast _ (some old) _).Keeps _ ∧ (Watcher.dropLast _ (some old) _).next = _
    rw [hdrop]
    refine ⟨⟨?_, ?_, fun x hx => ?_, fun n hn => ?_⟩, hb.next⟩
    · show (s.analyzeBuilt p config).1.snapshots.filter _ = _
      rw [hsnap]
      simp [hne]
    · rw [registered_invalidate, hreg]
      simp [hne]
    · obtain ⟨hx, hkept⟩ := List.mem_filter.mp hx
      rcases hb.indexes x hx with hx | e
      · exact absurd (Option.some.inj (h.indexes x hx)).symm (bne_iff_ne.mp hkept)
      · exact congrArg some e.symm
    · rw [← Option.some.inj hn]
      exact hb.next ▸ Nat.lt_succ_self s.next

end Session

theorem Watcher.run_of_error {w : Watcher} {t : FileTree} {e : SourceError}
    (h : Program.load t w.root w.config.exclude w.config.semantic = .error e) :
    w.run t = .error e := by
  unfold run
  rw [h]
  rfl

namespace Watch

variable {s : Watch}

/-! ## the invariant -/

/-- the program that a run would analyse -/
def program (s : Watch) : Except SourceError Program :=
  Program.load s.tree s.watcher.root s.watcher.config.exclude s.watcher.config.semantic

/-- the state that the last run saw: its fingerprint with the snapshot of the report -/
def lastState (s : Watch) : Option (String × Nat) :=
  s.runs.getLast?.map fun r => (r.program.fingerprint, r.report.snapshot)

/-- the session keeps the state of the last run, and no run had a snapshot that is still to come -/
structure Single (s : Watch) : Prop where
  keeps : s.watcher.session.Keeps s.lastState
  last : s.watcher.last = s.lastState.map Prod.snd
  below : ∀ r ∈ s.runs, r.report.snapshot < s.watcher.session.next

theorem single_start (root : Path) (config : Config) (configPath : Option Path) (tree : FileTree) :
    (start root config configPath tree).Single :=
  ⟨Session.keeps_start, rfl, fun _ hr => absurd hr List.not_mem_nil⟩

/-! ## the events -/

theorem lastState_concat (w : Watcher) (tree : FileTree) (runs : List WatchRun) (r : WatchRun) :
    lastState ⟨w, tree, runs ++ [r]⟩ = some (r.program.fingerprint, r.report.snapshot) := by
  rw [lastState, List.getLast?_concat]
  rfl

/-- what the session of a watcher is like after a run on `p`: it keeps the state of `p`, under the
snapshot of the last run if that saw the same state, and else under the next one -/
theorem Single.session_run (h : s.Single) (p : Program) (config : Config) :
    let session := s.watcher.session
    let id := (session.snapshotOf p).2
    let after := Watcher.dropLast (session.analyzeBuilt p config).1 s.watcher.last id
    after.Keeps (some (p.fingerprint, id)) ∧ session.next ≤ after.next ∧
      (∀ old, s.lastState = some (p.fingerprint, old) → id = old) ∧
      (s.lastState.map Prod.fst ≠ some p.fingerprint → id = session.next) := by
  dsimp only
  by_cases hsame : s.lastState.map Prod.fst = some p.fingerprint
  · obtain ⟨⟨_, old⟩, hstate, rfl⟩ := Option.map_eq_some_iff.mp hsame
    have hkeeps := h.keeps
    rw [hstate] at hkeeps
    obtain ⟨hid, hafter, hnext⟩ := hkeeps.analyze_same config
    have hdrop : Watcher.dropLast (s.watcher.session.analyzeBuilt p config).1 s.watcher.last old
        = (s.watcher.session.analyzeBuilt p config).1 := by
      rw [h.last, hstate]
      exact if_pos rfl
    rw [hid, hdrop]
    refine ⟨hafter, Nat.le_of_eq hnext.symm, fun old' hold => ?_, fun hne => absurd hsame hne⟩
    rw [hstate] at hold
    exact congrArg Prod.snd (Option.some.inj hold)
  · obtain ⟨hid, hafter, hnext⟩ := h.keeps.analyze_new hsame config
    rw [hid, h.last]
    refine ⟨hafter, hnext ▸ Nat.le_succ _, fun old hold => absurd ?_ hsame, fun _ => rfl⟩
    rw [hold]
    rfl

/-- a run keeps the invariant -/
theorem Single.run (h : s.Single) (base : Path) {p : Program} (hload : s.program = .ok p) :
    (s.step base .run).Single := by
  obtain ⟨hkeeps, hnext, -⟩ := h.session_run p s.watcher.config
  rw [step_run_of_load base hload]
  refine ⟨?_, ?_, fun r hr => ?_⟩
  · rw [lastState_concat]
    exact hkeeps
  · rw [lastState_concat]
    rfl
  · rcases List.mem_append.mp hr with hr | hr
    · exact Nat.lt_of_lt_of_le (h.below r hr) hnext
    · rw [List.mem_singleton.mp hr]
      exact hkeeps.below _ rfl

/-- every event keeps the invariant -/
theorem Single.step (h : s.Single) (base : Path) (e : WatchEvent) : (s.step base e).Single := by
  cases e with
  | edit tree => exact ⟨h.keeps, h.last, h.below⟩
  | reload =>
    unfold Watch.step
    cases hr : s.watcher.reload s.tree base with
    | error e => exact h
    | ok x =>
      obtain ⟨w', e⟩ := x
      obtain ⟨config, rfl⟩ := Watcher.reload_eq_ok hr
      exact ⟨h.keeps, h.last, h.below⟩
  | run =>
    cases hload : s.program with
    | error e =>
      rw [step_run_of_error base hload]
      exact h
    | ok p => exact h.run base hload

/-- the invariant holds whatever happens -/
theorem Single.after (h : s.Single) (base : Path) (events : List WatchEvent) :
    (s.after base events).Single := by
  induction events generalizing s with
  | nil => exact h
  | cons e events ih => exact ih (h.step base e)

/-- What a run of the watcher does to it: `w` is the watcher after the run on `p`, which gave
`report`. The session knows the state of `p` and no other, and keeps what was built for it and
nothing else. -/
structure Leaves (p : Program) (report : ProgramReport) (w : Watcher) : Prop where
  last : w.last = some report.snapshot
  snapshots : w.session.snapshots = [(p.fingerprint, report.snapshot)]
  cached : w.session.cached = [report.snapshot]
  indexes : ∀ x ∈ w.session.indexes, x.1 = report.snapshot

end Watch

/-- A watcher keeps one snapshot, whatever happens to the files and the settings. A run on files
that can be loaded succeeds and leaves the snapshot of its report and nothing else. That is the
snapshot of the run before if both saw the same state. If they did not it is greater than those of
all runs before, also if one of them saw the state. Where the files cannot be loaded the run fails
and leaves everything as it is. -/
theorem watch_keeps_one_snapshot (root base : Path) (config : Config) (configPath : Option Path)
    (tree : FileTree) (events : List WatchEvent) :
    let s := (Watch.start root config configPath tree).after base events
    (∀ p, s.program = .ok p →
      ∃ w registry report, s.watcher.run s.tree = .ok (w, registry, report) ∧
      s.step base .run = ⟨w, s.tree, s.runs ++ [⟨s.tree, s.watcher.config, p, report⟩]⟩ ∧
      Watch.Leaves p report w ∧
      ∀ before, s.runs.getLast? = some before →
        (before.program.fingerprint = p.fingerprint → report.snapshot = before.report.snapshot) ∧
        (before.program.fingerprint ≠ p.fingerprint →
          ∀ r ∈ s.runs, r.report.snapshot < report.snapshot)) ∧
    ∀ e, s.program = .error e → s.watcher.run s.tree = .error e ∧ s.step base .run = s := by
  intro s
  have hs : s.Single := (Watch.single_start root config configPath tree).after base events
  refine ⟨fun p hload => ?_, fun e hload => ⟨?_, Watch.step_run_of_error base hload⟩⟩
  · obtain ⟨hkeeps, -, hsame, hnew⟩ := hs.session_run p s.watcher.config
    refine ⟨_, _, _, Watcher.run_of_load hload, Watch.step_run_of_load base hload,
      ⟨rfl, hkeeps.snapshots, hkeeps.cached,
        fun x hx => (Option.some.inj (hkeeps.indexes x hx)).symm⟩,
      fun before hbefore => ⟨fun e => hsame _ ?_, fun hne r hr => ?_⟩⟩
    · rw [Watch.lastState, hbefore, ← e]
      rfl
    · have hid := hnew (by rw [Watch.lastState, hbefore]; exact fun e => hne (Option.some.inj e))
      exact Nat.lt_of_lt_of_eq (hs.below r hr) hid.symm
  · exact Watcher.run_of_error hload

/-! ## an edit that is taken back, and one that breaks a file -/

/-- a watcher of a project of one file -/
def writtenWatch (events : List WatchEvent) : Watch :=
  (Watch.start ⟨"/", ["project"]⟩ .default none (writtenTree "A\n")).after ⟨"/", []⟩ events

/-- runs before and after an edit, which is then taken back -/
def revertedWatch : Watch :=
  writtenWatch [.run, .edit (writtenTree "B\n"), .run, .edit (writtenTree "A\n")]

/-- a run before an edit that puts a character into the file that no source may hold -/
def brokenWatch : Watch := writtenWatch [.run, .edit (writtenTree "\x00")]

/-- what can be loaded, and which of the runs saw the state that is loaded -/
theorem writtenWatch_values :
    revertedWatch.program.toOption.map (fun p =>
      revertedWatch.runs.map fun r => decide (r.program.fingerprint = p.fingerprint))
      = some [true, false] ∧
    brokenWatch.program.toOption.isSome = false := by decide +kernel

theorem watch_keeps_one_snapshot_reverted :
    (∃ first second p w registry report, revertedWatch.runs = [first, second] ∧
      revertedWatch.program = .ok p ∧
      revertedWatch.watcher.run revertedWatch.tree = .ok (w, registry, report) ∧
      first.program.fingerprint = p.fingerprint ∧ second.program.fingerprint ≠ p.fingerprint ∧
      first.report.snapshot < report.snapshot ∧ second.report.snapshot < report.snapshot ∧
      Watch.Leaves p report w) ∧
    ∃ e, brokenWatch.program = .error e ∧ brokenWatch.step ⟨"/", []⟩ .run = brokenWatch := by
  obtain ⟨hreverted, hbroken⟩ := writtenWatch_values
  constructor
  · cases hload : revertedWatch.program with
    | error e =>
      rw [hload] at hreverted
      cases hreverted
    | ok p =>
      rw [hload] at hreverted
      obtain ⟨first, _, hruns, hfirst, hrest⟩ := List.map_eq_cons_iff.mp (Option.some.inj hreverted)
      obtain ⟨second, _, rfl, hsecond, hnil⟩ := List.map_eq_cons_iff.mp hrest
      obtain rfl := List.map_eq_nil_iff.mp hnil
      obtain ⟨w, registry, report, hrun, -, hleaves, hbefore⟩ :=
        (watch_keeps_one_snapshot ⟨"/", ["project"]⟩ ⟨"/", []⟩ .default none (writtenTree "A\n")
          [.run, .edit (writtenTree "B\n"), .run, .edit (writtenTree "A\n")]).1 p hload
      have hgreater :=
        (hbefore second (congrArg List.getLast? hruns)).2 (of_decide_eq_false hsecond)
      have hmem : ∀ r ∈ [first, second], r.report.snapshot < report.snapshot :=
        fun r hr => hgreater r (hruns ▸ hr)
      exact ⟨first, second, p, w, registry, report, hruns, rfl, hrun, of_decide_eq_true hfirst,
        of_decide_eq_false hsecond, hmem first (by simp), hmem second (by simp), hleaves⟩
  · cases hload : brokenWatch.program with
    | error e =>
      exact ⟨e, rfl,
        ((watch_keeps_one_snapshot ⟨"/", ["project"]⟩ ⟨"/", []⟩ .default none (writtenTree "A\n")
        [.run, .edit (writtenTree "\x00")]).2 e hload).2⟩
    | ok p =>
      rw [hload] at hbroken
      cases hbroken

end Archetype
