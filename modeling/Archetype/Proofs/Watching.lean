import Archetype.Proofs.Loading
import Archetype.Proofs.SessionState
import Archetype.Watch.Watcher

/-!
# Watching a project

A watcher runs again and again while files and settings change. Its session keeps one state, that of
the last run, and for it the registry of the first of the latest runs that saw the state. The index
is the one that the present settings ask for, the registry the one that the settings of that first
run asked for: the fingerprint of a state does not tell how names are resolved. So a report is that
of a new session, unless the files have stayed as they were while the setting was changed.

* `WatchEvent`, `Watch.step`   what happens around a watcher;
* `Streak`                     consecutive runs that saw one state;
* `Watch.Settled`              what holds of a watcher after every event: the invariant;
* `watch_reports`              what every run of a watcher reports;
* `watch_keeps_registry`       a report that a new session would not give.
-/

namespace Archetype

/-- what happens around a watcher: the files become others, the settings are read again, or the
project is analysed -/
inductive WatchEvent where
  | edit (tree : FileTree)
  | reload
  | run

/-- a run of a watcher: the files and the settings that it found, the program and its report -/
structure WatchRun where
  tree : FileTree
  config : Config
  program : Program
  report : ProgramReport

/-- a watcher with the files that it watches and its runs up to now, oldest first -/
structure Watch where
  watcher : Watcher
  tree : FileTree
  runs : List WatchRun

namespace Watch

def start (root : Path) (config : Config) (configPath : Option Path) (tree : FileTree) : Watch :=
  ⟨.start root config configPath, tree, []⟩

/-- what an event does; a run or a reload that fails leaves everything as it is -/
def step (base : Path) (s : Watch) : WatchEvent → Watch
  | .edit tree => { s with tree }
  | .reload =>
    match s.watcher.reload s.tree base with
    | .ok (watcher, _) => { s with watcher }
    | .error _ => s
  | .run =>
    match Program.load s.tree s.watcher.root s.watcher.config.exclude s.watcher.config.semantic,
      s.watcher.run s.tree with
    | .ok program, .ok (watcher, _, report) =>
      { s with watcher, runs := s.runs ++ [⟨s.tree, s.watcher.config, program, report⟩] }
    | _, _ => s

def after (base : Path) (s : Watch) (events : List WatchEvent) : Watch := events.foldl (step base) s

end Watch

/-! ## consecutive runs -/

/-- the fingerprint of the state that run number `k` saw -/
def seenAt (runs : List WatchRun) (k : Nat) : Option String := runs[k]?.map (·.program.fingerprint)

/-- the runs from number `i` up to number `k` saw one state, and the run before them saw another -/
structure Streak (runs : List WatchRun) (i k : Nat) : Prop where
  le : i ≤ k
  same : ∀ j, i ≤ j → j ≤ k → seenAt runs j = seenAt runs k
  before : ∀ j, j + 1 = i → seenAt runs j ≠ seenAt runs k

theorem seenAt_append {runs : List WatchRun} {k : Nat} (hk : k < runs.length) (r : WatchRun) :
    seenAt (runs ++ [r]) k = seenAt runs k := by
  unfold seenAt
  rw [List.getElem?_append_left hk]

theorem seenAt_concat (runs : List WatchRun) (r : WatchRun) :
    seenAt (runs ++ [r]) runs.length = some r.program.fingerprint := by
  unfold seenAt
  rw [List.getElem?_concat_length]
  rfl

theorem Streak.append {runs : List WatchRun} {i k : Nat} (h : Streak runs i k)
    (hk : k < runs.length) (r : WatchRun) : Streak (runs ++ [r]) i k := by
  refine ⟨h.le, fun j hij hjk => ?_, fun j hj => ?_⟩
  · rw [seenAt_append (by omega), seenAt_append hk]
    exact h.same j hij hjk
  · have hle := h.le
    rw [seenAt_append (by omega), seenAt_append hk]
    exact h.before j hj

/-- a run that sees the state of the last run goes on with its streak -/
theorem Streak.extend {runs : List WatchRun} {i k : Nat} (h : Streak runs i k)
    (hk : k + 1 = runs.length) {r : WatchRun} (hr : seenAt runs k = some r.program.fingerprint) :
    Streak (runs ++ [r]) i (k + 1) := by
  have hnew : seenAt (runs ++ [r]) (k + 1) = seenAt runs k := by rw [hk, seenAt_concat, hr]
  have hle := h.le
  refine ⟨by omega, fun j hij hjk => ?_, fun j hj => ?_⟩
  · rcases Nat.lt_or_eq_of_le hjk with hlt | rfl
    · rw [hnew, seenAt_append (by omega)]
      exact h.same j hij (by omega)
    · rfl
  · rw [hnew, seenAt_append (by omega)]
    exact h.before j hj

/-- a run that sees another state starts one -/
theorem Streak.fresh {runs : List WatchRun} {r : WatchRun}
    (hr : ∀ k, k + 1 = runs.length → seenAt runs k ≠ some r.program.fingerprint) :
    Streak (runs ++ [r]) runs.length runs.length := by
  refine ⟨Nat.le_refl _, fun j hij hji => ?_, fun j hj => ?_⟩
  · rw [Nat.le_antisymm hji hij]
  · rw [seenAt_concat, seenAt_append (by omega)]
    exact hr j hj

/-! ## the invariant -/

/-- a report is made from the program with the registry of the first run of its streak -/
structure Explained (runs : List WatchRun) (k : Nat) (r : WatchRun) : Prop where
  registry : ∃ i first, Streak runs i k ∧ runs[i]? = some first ∧
    r.report.registry = Registry.ofProgram first.program first.program.index?
  findings : r.report.findings
    = programFindings r.program r.report.registry r.program.index? r.config
  units : r.report.units = r.program.analyzable.length

namespace Watch

/-- the watcher of `s` keeps the state of the last run and the registry of its streak, and all
reports are explained; its session was used on the programs `seen` -/
structure Settled (seen : Program → Prop) (s : Watch) : Prop where
  sound : s.watcher.session.Sound seen
  last : s.watcher.last = none ↔ s.runs = []
  mapped : ∀ f n, s.watcher.session.Mapped f n ↔
    s.watcher.last = some n ∧ ∃ k, k + 1 = s.runs.length ∧ seenAt s.runs k = some f
  kept : ∀ n k, s.watcher.last = some n → k + 1 = s.runs.length → ∃ i first r, Streak s.runs i k ∧
    s.runs[i]? = some first ∧ s.watcher.session.registries.lookup n = some r ∧
      r.value = Registry.ofProgram first.program first.program.index?
  explained : ∀ k r, s.runs[k]? = some r → Explained s.runs k r

theorem settled_start (seen : Program → Prop) (root : Path) (config : Config)
    (configPath : Option Path) (tree : FileTree) :
    Settled seen (start root config configPath tree) where
  sound := Session.sound_start seen
  last := by simp [start, Watcher.start]
  mapped := by
    intro f n
    constructor
    · intro h
      cases h
    · rintro ⟨h, _⟩
      cases h
  kept := by
    intro n k h
    cases h
  explained := by
    intro k r h
    cases h

end Watch

theorem Explained.append {runs : List WatchRun} {k : Nat} {r : WatchRun} (h : Explained runs k r)
    (hk : k < runs.length) (r' : WatchRun) : Explained (runs ++ [r']) k r := by
  refine ⟨?_, h.findings, h.units⟩
  obtain ⟨i, first, hstreak, hi, hr⟩ := h.registry
  refine ⟨i, first, hstreak.append hk r', ?_, hr⟩
  rw [List.getElem?_append_left (Nat.lt_of_le_of_lt hstreak.le hk)]
  exact hi

/-! ## the events -/

theorem Watcher.run_of_load {w : Watcher} {t : FileTree} {p : Program}
    (h : Program.load t w.root w.config.exclude w.config.semantic = .ok p) :
    w.run t = .ok ({ w with
      session := dropLast (w.session.analyzeBuilt p w.config).1 w.last
        (w.session.analyzeBuilt p w.config).2.2.snapshot
      last := some (w.session.analyzeBuilt p w.config).2.2.snapshot },
      (w.session.analyzeBuilt p w.config).2.1, (w.session.analyzeBuilt p w.config).2.2) := by
  unfold run
  rw [h]
  rfl

/-- reading the settings again changes nothing but the settings -/
theorem Watcher.reload_eq_ok {w w' : Watcher} {t : FileTree} {base : Path} {e : Option ConfigError}
    (h : w.reload t base = .ok (w', e)) : ∃ config, w' = { w with config } := by
  simp only [reload, bind, Except.bind] at h
  -- the two ways to find the settings go on alike
  split at h
  all_goals
    split at h
    · cases h
    · split at h <;> cases h
      · exact ⟨_, rfl⟩
      · exact ⟨w.config, rfl⟩

/-! ## what is kept after a run -/

namespace Watcher

variable {t : Session} {seen : Program → Prop}

theorem dropLast_sound (h : t.Sound seen) (last : Option Nat) (id : Nat) :
    (dropLast t last id).Sound seen := by
  unfold dropLast
  split
  · exact h
  · split
    · exact h
    · exact h.invalidate _

theorem mapped_dropLast (h : t.snapshots.keys.Nodup) (last : Option Nat) (id : Nat) (f : String)
    (n : Nat) :
    (dropLast t last id).Mapped f n ↔ t.Mapped f n ∧ (last = some n → n = id) := by
  unfold dropLast
  split
  · simp
  · rename_i old
    split
    · rename_i hold
      refine ⟨fun hm => ⟨hm, fun e => ?_⟩, And.left⟩
      rw [← Option.some.inj e, hold]
    · rename_i hold
      rw [Session.mapped_invalidate h]
      refine and_congr_right fun _ => ⟨fun hne e => absurd (Option.some.inj e).symm hne, ?_⟩
      rintro himp rfl
      exact hold (himp rfl)

theorem lookup_dropLast (t : Session) (last : Option Nat) (id : Nat) :
    (dropLast t last id).registries.lookup id = t.registries.lookup id := by
  unfold dropLast
  split
  · rfl
  · split
    · rfl
    · rename_i hold
      rw [Session.lookup_invalidate, if_neg fun e => hold e.symm]

end Watcher

namespace Watch

variable {seen : Program → Prop} {s : Watch}

theorem step_run_of_load (base : Path) {p : Program}
    (h : Program.load s.tree s.watcher.root s.watcher.config.exclude s.watcher.config.semantic
      = .ok p) :
    s.step base .run =
      let built := s.watcher.session.analyzeBuilt p s.watcher.config
      ⟨{ s.watcher with
          session := Watcher.dropLast built.1 s.watcher.last built.2.2.snapshot
          last := some built.2.2.snapshot },
        s.tree, s.runs ++ [⟨s.tree, s.watcher.config, p, built.2.2⟩]⟩ := by
  unfold step
  rw [Watcher.run_of_load h, h]

theorem step_run_of_error (base : Path) {e : SourceError}
    (h : Program.load s.tree s.watcher.root s.watcher.config.exclude s.watcher.config.semantic
      = .error e) :
    s.step base .run = s := by
  unfold step
  rw [h]

section
variable (hf : Program.Faithful seen) (h : s.Settled seen) {p : Program} (hp : seen p)
include hf h hp

/-- a run leaves a session that knows the state of its program and no other -/
theorem Settled.mapped_run (config : Config) (f : String) (n : Nat) :
    (Watcher.dropLast (s.watcher.session.analyzeBuilt p config).1 s.watcher.last
      (s.watcher.session.snapshotOf p).2).Mapped f n ↔
      (s.watcher.session.snapshotOf p).2 = n ∧ p.fingerprint = f := by
  obtain ⟨hkept, _⟩ := Session.analyzeBuilt_kept hf h.sound hp config
  have hsame : (s.watcher.session.analyzeBuilt p config).1.Mapped f n ↔
      (s.watcher.session.snapshotOf p).1.Mapped f n := by
    unfold Session.Mapped
    rw [Session.analyzeBuilt_snapshots]
  rw [Watcher.mapped_dropLast hkept.sound.keys, hsame]
  cases hget : s.watcher.session.snapshots.get? p.fingerprint with
  | some id =>
    rw [Session.snapshotOf_of_mapped hget]
    obtain ⟨hlast, k, hk, hseen⟩ := (h.mapped _ id).mp hget
    constructor
    · rintro ⟨hm, _⟩
      obtain ⟨hlast', k', hk', hseen'⟩ := (h.mapped f n).mp hm
      obtain rfl : k' = k := by omega
      rw [hlast] at hlast'
      rw [hseen] at hseen'
      exact ⟨Option.some.inj hlast', Option.some.inj hseen'⟩
    · rintro ⟨rfl, rfl⟩
      exact ⟨hget, fun _ => rfl⟩
  | none =>
    rw [Session.snapshotOf_of_new hget, Session.mapped_enter]
    split
    · rename_i e
      refine ⟨fun hm => ⟨hm.1, e⟩, fun hm => ⟨hm.1, fun _ => hm.1.symm⟩⟩
    · rename_i hne
      refine ⟨fun hm => ?_, fun hm => absurd hm.2 hne⟩
      -- the state of the last run had an older number, and that is dropped
      have hold := h.sound.below f n hm.1
      have hnew := hm.2 ((h.mapped f n).mp hm.1).1
      omega

/-- a run is based on the registry of the first run of its streak -/
theorem Settled.registry_run (config : Config) (r : WatchRun) (hr : r.program = p) :
    ∃ i first, Streak (s.runs ++ [r]) i s.runs.length ∧ (s.runs ++ [r])[i]? = some first ∧
      (s.watcher.session.analyzeBuilt p config).2.1.value
        = Registry.ofProgram first.program first.program.index? := by
  cases hget : s.watcher.session.snapshots.get? p.fingerprint with
  | some id =>
    obtain ⟨hlast, k, hk, hseen⟩ := (h.mapped _ id).mp hget
    obtain ⟨i, first, reg, hstreak, hi, hlook, hv⟩ := h.kept id k hlast hk
    refine ⟨i, first, ?_, ?_, ?_⟩
    · rw [← hk]
      exact hstreak.extend hk (by rw [hseen, hr])
    · have hle := hstreak.le
      rw [List.getElem?_append_left (by omega)]
      exact hi
    · rw [Session.analyzeBuilt_of_kept hf h.sound hp config hget hlook]
      exact hv
  | none =>
    refine ⟨s.runs.length, r, Streak.fresh ?_, List.getElem?_concat_length, ?_⟩
    · intro k hk hseen
      rw [hr] at hseen
      obtain ⟨n, hn⟩ : ∃ n, s.watcher.last = some n := by
        cases hlast : s.watcher.last with
        | some n => exact ⟨n, rfl⟩
        | none =>
          rw [h.last.mp hlast] at hk
          cases hk
      have hm := (h.mapped p.fingerprint n).mpr ⟨hn, k, hk, hseen⟩
      rw [Session.Mapped, hget] at hm
      cases hm
    · rw [Session.analyzeBuilt_of_new hf h.sound hp config hget, hr]

/-- a run keeps the invariant -/
theorem Settled.run (base : Path)
    (hload : Program.load s.tree s.watcher.root s.watcher.config.exclude s.watcher.config.semantic
      = .ok p) :
    (s.step base .run).Settled seen := by
  rw [step_run_of_load base hload]
  obtain ⟨hkept, hlook, hreport⟩ := Session.analyzeBuilt_kept hf h.sound hp s.watcher.config
  obtain ⟨i, first, hstreak, hi, hv⟩ := h.registry_run hf hp s.watcher.config
    ⟨s.tree, s.watcher.config, p, (s.watcher.session.analyzeBuilt p s.watcher.config).2.2⟩ rfl
  have hid : (s.watcher.session.analyzeBuilt p s.watcher.config).2.2.snapshot
      = (s.watcher.session.snapshotOf p).2 := by
    rw [hreport]
  dsimp only
  refine ⟨Watcher.dropLast_sound hkept.sound _ _, by simp, ?_, ?_, ?_⟩
  · intro f n
    rw [hid, h.mapped_run hf hp]
    simp [seenAt]
  · intro n k hn hk
    obtain rfl : k = s.runs.length := by simpa using hk
    obtain rfl := Option.some.inj hn
    refine ⟨i, first, _, hstreak, hi, ?_, hv⟩
    rw [Watcher.lookup_dropLast, hid]
    exact hlook
  · intro k r hr
    rcases Nat.lt_trichotomy k s.runs.length with hk | rfl | hk
    · rw [List.getElem?_append_left hk] at hr
      exact (h.explained k r hr).append hk _
    · rw [List.getElem?_concat_length] at hr
      obtain rfl := Option.some.inj hr
      refine ⟨⟨i, first, hstreak, hi, ?_⟩, ?_, ?_⟩
      · rw [← hv, hreport]
      · rw [hreport]
      · rw [hreport]
    · rw [List.getElem?_eq_none (by simp; omega)] at hr
      cases hr

end

/-- every event keeps the invariant -/
theorem Settled.step (hf : Program.Faithful seen) (base : Path) (h : s.Settled seen)
    (e : WatchEvent) (hseen : ∀ r ∈ (s.step base e).runs, seen r.program) :
    (s.step base e).Settled seen := by
  cases e with
  | edit tree => exact ⟨h.sound, h.last, h.mapped, h.kept, h.explained⟩
  | reload =>
    unfold Watch.step
    cases hr : s.watcher.reload s.tree base with
    | error e => exact h
    | ok x =>
      obtain ⟨w', e⟩ := x
      obtain ⟨config, rfl⟩ := Watcher.reload_eq_ok hr
      exact ⟨h.sound, h.last, h.mapped, h.kept, h.explained⟩
  | run =>
    cases hload : Program.load s.tree s.watcher.root s.watcher.config.exclude
      s.watcher.config.semantic with
    | error e =>
      rw [step_run_of_error base hload]
      exact h
    | ok p =>
      have hp : seen p := by
        rw [step_run_of_load base hload] at hseen
        exact hseen _ (List.mem_append_right _ (List.mem_singleton.mpr rfl))
      exact h.run hf hp base hload

/-- no event takes a run back -/
theorem runs_step_subset (base : Path) (e : WatchEvent) {r : WatchRun} (h : r ∈ s.runs) :
    r ∈ (s.step base e).runs := by
  cases e with
  | edit tree => exact h
  | reload =>
    dsimp only [Watch.step]
    split <;> exact h
  | run =>
    dsimp only [Watch.step]
    split
    · exact List.mem_append_left _ h
    · exact h

theorem runs_after_subset (base : Path) (events : List WatchEvent) {s : Watch} {r : WatchRun}
    (h : r ∈ s.runs) :
    r ∈ (s.after base events).runs := by
  induction events generalizing s with
  | nil => exact h
  | cons e events ih => exact ih (runs_step_subset base e h)

/-- the invariant holds whatever happens -/
theorem Settled.after (hf : Program.Faithful seen) (base : Path) (events : List WatchEvent)
    {s : Watch} (h : s.Settled seen) (hseen : ∀ r ∈ (s.after base events).runs, seen r.program) :
    (s.after base events).Settled seen := by
  induction events generalizing s with
  | nil => exact h
  | cons e events ih =>
    refine ih (h.step hf base e fun r hr => ?_) hseen
    exact hseen r (runs_after_subset base events hr)

/-- the files are a proper tree, and so were those of all runs, which loaded their programs from
them -/
structure Grounded (root : Path) (s : Watch) : Prop where
  below : s.watcher.root = root
  tree : s.tree.Proper
  runs : ∀ r ∈ s.runs, r.tree.Proper ∧
    Program.load r.tree root r.config.exclude r.config.semantic = .ok r.program

theorem Grounded.step {root : Path} (base : Path) (h : s.Grounded root) (e : WatchEvent)
    (he : ∀ tree, e = .edit tree → tree.Proper) : (s.step base e).Grounded root := by
  cases e with
  | edit tree => exact ⟨h.below, he tree rfl, h.runs⟩
  | reload =>
    dsimp only [Watch.step]
    cases hr : s.watcher.reload s.tree base with
    | error e => exact h
    | ok x =>
      obtain ⟨w', e⟩ := x
      obtain ⟨config, rfl⟩ := Watcher.reload_eq_ok hr
      exact ⟨h.below, h.tree, h.runs⟩
  | run =>
    cases hload : Program.load s.tree s.watcher.root s.watcher.config.exclude
      s.watcher.config.semantic with
    | error e =>
      rw [step_run_of_error base hload]
      exact h
    | ok p =>
      rw [step_run_of_load base hload]
      refine ⟨h.below, h.tree, fun r hr => ?_⟩
      rcases List.mem_append.mp hr with hr | hr
      · exact h.runs r hr
      · obtain rfl := List.mem_singleton.mp hr
        rw [h.below] at hload
        exact ⟨h.tree, hload⟩

theorem Grounded.after {root : Path} (base : Path) (events : List WatchEvent) {s : Watch}
    (h : s.Grounded root) (he : ∀ tree, .edit tree ∈ events → tree.Proper) :
    (s.after base events).Grounded root := by
  induction events generalizing s with
  | nil => exact h
  | cons e events ih =>
    refine ih (h.step base e ?_) fun tree ht => he tree (List.mem_cons_of_mem _ ht)
    rintro tree rfl
    exact he tree (List.mem_cons_self ..)

end Watch

/-! ## the reports -/

/-- the runs of a new watcher while things happen -/
def watchRuns (root base : Path) (config : Config) (configPath : Option Path) (tree : FileTree)
    (events : List WatchEvent) : List WatchRun :=
  ((Watch.start root config configPath tree).after base events).runs

/-- What every run of a watcher reports, whatever happens to the files and the settings. It finds
the program as the files and the settings are then, and counts its units. Its registry is the one of
a new session that resolves names as the settings of the first run of the streak say, and its
findings follow from that registry. So it reports what a new session would, as long as the way names
are resolved has not changed since the files did. -/
theorem watch_reports (root base : Path) (config : Config) (configPath : Option Path)
    (tree : FileTree) (events : List WatchEvent) (htree : tree.Proper)
    (hedits : ∀ t, .edit t ∈ events → t.Proper)
    (hfree : Program.CollisionFree fun p =>
      ∃ r ∈ watchRuns root base config configPath tree events, r.program = p)
    (k : Nat) (r : WatchRun)
    (hr : (watchRuns root base config configPath tree events)[k]? = some r) :
    Program.load r.tree root r.config.exclude r.config.semantic = .ok r.program ∧
    ∃ i first, Streak (watchRuns root base config configPath tree events) i k ∧
      (watchRuns root base config configPath tree events)[i]? = some first ∧
      r.report.units = (analyzeProgram r.program r.config).units ∧
      r.report.registry =
        (analyzeProgram { r.program with semantic := first.config.semantic } r.config).registry ∧
      r.report.findings = programFindings r.program r.report.registry r.program.index? r.config ∧
      (first.config.semantic = r.config.semantic →
        r.report.registry = (analyzeProgram r.program r.config).registry ∧
        r.report.findings = (analyzeProgram r.program r.config).findings) := by
  have hground : ((Watch.start root config configPath tree).after base events).Grounded root := by
    refine Watch.Grounded.after base events ⟨rfl, htree,
      fun r hr => absurd hr List.not_mem_nil⟩ hedits
  have hf : Program.Faithful fun p => ∃ r ∈ watchRuns root base config configPath tree events,
      r.program = p := by
    refine Program.Comparable.faithful (Program.load_comparable root ?_) hfree
    rintro _ ⟨r, hr, rfl⟩
    obtain ⟨hproper, hload⟩ := hground.runs r hr
    exact ⟨r.tree, hproper, _, _, hload⟩
  have hsettled :=
    (Watch.settled_start (fun p => ∃ r ∈ watchRuns root base config configPath tree events,
      r.program = p) root config configPath tree).after hf base events fun r hr => ⟨r, hr, rfl⟩
  have hmem := List.mem_of_getElem? hr
  obtain ⟨_, hload⟩ := hground.runs r hmem
  obtain ⟨⟨i, first, hstreak, hi, hreg⟩, hfind, hunits⟩ := hsettled.explained k r hr
  have hmem' := List.mem_of_getElem? hi
  obtain ⟨_, hload'⟩ := hground.runs first hmem'
  -- the two programs differ at most in how their names are resolved
  have hsame : first.program = { r.program with semantic := first.config.semantic } := by
    have hfp : first.program.fingerprint = r.program.fingerprint := by
      have h := hstreak.same i (Nat.le_refl _) hstreak.le
      rw [seenAt, seenAt, hi] at h
      rw [show ((Watch.start root config configPath tree).after base events).runs[k]?
        = some r from hr] at h
      exact Option.some.inj h
    obtain ⟨hroot, hunits⟩ := hf _ _ ⟨first, hmem', rfl⟩ ⟨r, hmem, rfl⟩ hfp
    exact Program.eq_of_parts hroot hunits (Program.load_eq_ok hload').2.1
  rw [hsame] at hreg
  refine ⟨hload, i, first, hstreak, hi, ?_, ?_, hfind, fun hsem => ?_⟩
  · rw [analyzeProgram_eq]
    exact hunits
  · rw [analyzeProgram_eq]
    exact hreg
  · have hself : ({ r.program with semantic := first.config.semantic } : Program) = r.program :=
      Program.eq_of_parts rfl rfl (hsem.trans (Program.load_eq_ok hload).2.1.symm)
    rw [hself] at hreg
    rw [hreg] at hfind
    rw [analyzeProgram_eq]
    exact ⟨hreg, hfind⟩

/-! ## a setting that changes while the files stay -/

/-- a file that declares constraints of a component by another name for it -/
def aliasTree : FileTree :=
  FileTree.empty.put ["project", "main.py"]
    "class C:\n    pass\n\n\nD = C\nw.register_validator(D, dependencies=[E])\n".toUTF8

/-- the same file, with settings that do not resolve names -/
def lexicalTree : FileTree := aliasTree.put ["project", "ecslint.toml"] "semantic = false\n".toUTF8

/-- a run before and a run after the settings were written and read -/
def aliasRuns : List WatchRun :=
  watchRuns ⟨"/", ["project"]⟩ ⟨"/", []⟩ .default none aliasTree
    [.run, .edit lexicalTree, .reload, .run]

theorem aliasTree_proper : aliasTree.Proper where
  places := by decide +kernel
  names := by
    unfold Path.IsName
    decide +kernel

theorem lexicalTree_proper : lexicalTree.Proper where
  places := by decide +kernel
  names := by
    unfold Path.IsName
    decide +kernel

/-- what the runs see and keep: the text that is digested, the setting, and the components that the
registry knows, beside those that the registry of a new session knows -/
theorem aliasRuns_values :
    aliasRuns.map (fun r => (r.program.fingerprintText, r.config.semantic, r.report.registry.known,
      (analyzeProgram r.program r.config).registry.known)) =
    [("main.py\x00class C:\n    pass\n\n\nD = C\nw.register_validator(D, dependencies=[E])\n\x00",
      true, ["C", "E"], ["C", "E"]),
      ("main.py\x00class C:\n    pass\n\n\nD = C\nw.register_validator(D, dependencies=[E])\n\x00",
        false, ["C", "E"], ["D", "E"])] := by decide +kernel

theorem aliasRuns_eq : ∃ first r, aliasRuns = [first, r] ∧
    first.program.fingerprintText = r.program.fingerprintText ∧ first.config.semantic = true ∧
    r.config.semantic = false ∧ r.report.registry.known = ["C", "E"] ∧
    (analyzeProgram r.program r.config).registry.known = ["D", "E"] := by
  obtain ⟨first, _, e, hfirst, h⟩ := List.map_eq_cons_iff.mp aliasRuns_values
  obtain ⟨r, _, rfl, hr, h⟩ := List.map_eq_cons_iff.mp h
  obtain rfl := List.map_eq_nil_iff.mp h
  simp only [Prod.mk.injEq] at hfirst hr
  exact ⟨first, r, e, hfirst.1.trans hr.1.symm, hfirst.2.1, hr.2.1, hr.2.2.1, hr.2.2.2⟩

/-- the second run still uses the registry of the first -/
theorem watch_reports_alias : ∃ r, aliasRuns[1]? = some r ∧ r.config.semantic = false ∧
    r.report.registry = (analyzeProgram { r.program with semantic := true } r.config).registry := by
  obtain ⟨first, r, hruns, htext, htrue, hfalse, -⟩ := aliasRuns_eq
  have hfree : Program.CollisionFree fun p => ∃ r ∈ aliasRuns, r.program = p := by
    have hall : ∀ x ∈ aliasRuns, x.program.message = r.program.message := by
      rw [hruns]
      intro x hx
      rcases List.mem_cons.mp hx with rfl | hx
      · rw [Program.message, htext, Program.message]
      · rw [List.mem_singleton.mp hx]
    rintro _ _ ⟨x, hx, rfl⟩ ⟨y, hy, rfl⟩ _
    rw [hall x hx, hall y hy]
  have hedits : ∀ t, .edit t ∈ [WatchEvent.run, .edit lexicalTree, .reload, .run] → t.Proper := by
    intro t ht
    obtain rfl : t = lexicalTree := by simpa using ht
    exact lexicalTree_proper
  have hr : aliasRuns[1]? = some r := by rw [hruns]; rfl
  obtain ⟨-, i, x, hstreak, hi, -, hreg, -⟩ :=
    watch_reports ⟨"/", ["project"]⟩ ⟨"/", []⟩ .default none aliasTree
      [.run, .edit lexicalTree, .reload, .run] aliasTree_proper hedits hfree 1 r hr
  change Streak aliasRuns i 1 at hstreak
  change aliasRuns[i]? = some x at hi
  have hzero : i = 0 := by
    have hle := hstreak.le
    have hne : i ≠ 1 :=
      fun e => hstreak.before 0 (by omega) (by simp [seenAt, hruns, Program.fingerprint, htext])
    omega
  rw [hzero, hruns] at hi
  obtain rfl : first = x := Option.some.inj hi
  rw [htrue] at hreg
  exact ⟨r, hr, hfalse, hreg⟩

/-- A report that a new session would not give: after names are no longer resolved, the second run
still has the registry in which they are. -/
theorem watch_keeps_registry : ∃ r, aliasRuns[1]? = some r ∧
    r.report.registry ≠ (analyzeProgram r.program r.config).registry := by
  obtain ⟨first, r, hruns, -, -, -, hkept, hfresh⟩ := aliasRuns_eq
  refine ⟨r, by rw [hruns]; rfl, fun h => ?_⟩
  rw [h, hfresh] at hkept
  exact absurd hkept (by decide)

end Archetype
