import Archetype.Proofs.Loading
import Archetype.Proofs.Reachability
import Archetype.Proofs.Recorded
import Archetype.Proofs.SessionState
import Archetype.Watch.Debounce
import Mathlib.Data.Nat.Find

/-!
# Settled changes are given out once

A burst of events on a file must lead to one report of it, after the burst, and no event may be
lost. What a handler gives out, and when, is told here from the events alone: a file waits from its
last event on until it is given out, and it is given out by the first flush that comes a whole
window after that event.

* `FileEvent.Concerns`            the files that an event is about;
* `HandlerRun`                    the calls on a handler, in order;
* `HandlerRun.Waits`              a file has had an event since it was last given out;
* `HandlerRun.mem_pending_iff`    the files that are pending are those that wait: the invariant;
* `HandlerRun.FlushedAt`          what a flush does;
* `settled_changes_emitted_once`  what is given out in every run, and that sources are never
                                  overlooked.

Times can be of any type with a difference and an order that can be decided, so all of this holds of
exact times and of the rounded ones of a clock alike. The clock may even go back.
-/

namespace Archetype

/-! ## what an event is about -/

/-- the event is about the file: something happened to it, or it is what another file was moved to,
and changes of it matter -/
structure FileEvent.Concerns (root : Path) (e : FileEvent) (file : String) : Prop where
  ofFile : e.isDirectory = false
  part : file = e.source ∨ file = e.destination
  relevant : isRelevant root file = true

/-- an event without a destination is about no further file -/
theorem isRelevant_empty (root : Path) : isRelevant root "" = false := by
  have hsuffix : watchedSuffixes.contains (Text.lower (Path.ofString "").suffix) = false := by
    decide +kernel
  unfold isRelevant
  dsimp only
  rw [hsuffix, Bool.and_false]

namespace Pending

variable {τ : Type}

theorem mem_touched (root : Path) (e : FileEvent) (file : String) :
    file ∈ touched root e ↔ e.Concerns root file := by
  unfold touched
  constructor
  · intro h
    split at h
    · exact absurd h List.not_mem_nil
    · rename_i hdir
      obtain ⟨hpart, hkept⟩ := List.mem_filter.mp h
      exact ⟨by simpa using hdir, by simpa using hpart, (Bool.and_eq_true_iff.mp hkept).2⟩
  · rintro ⟨hdir, hpart, hrelevant⟩
    have hnamed : file ≠ "" := by
      rintro rfl
      rw [isRelevant_empty] at hrelevant
      cases hrelevant
    rw [if_neg (by simp [hdir])]
    exact List.mem_filter.mpr ⟨by simpa using hpart, by simp [hnamed, hrelevant]⟩

/-- the files of an event have its time, and the others keep theirs -/
theorem get?_note (pending : Pending τ) (root : Path) (now : τ) (e : FileEvent) (file : String) :
    (pending.note root now e).get? file
      = if file ∈ touched root e then some now else pending.get? file := by
  unfold note
  induction touched root e generalizing pending with
  | nil => rfl
  | cons first files ih =>
    rw [List.foldl_cons, ih, Assoc.get?_insert]
    by_cases hfirst : first = file
    · subst hfirst
      simp
    · simp [hfirst, Ne.symm hfirst]

theorem nodup_note {pending : Pending τ} (h : pending.keys.Nodup) (root : Path) (now : τ)
    (e : FileEvent) :
    (pending.note root now e).keys.Nodup := by
  refine List.foldlRecOn (motive := fun m : Pending τ => m.keys.Nodup) (touched root e) _ h
    fun m hm file _ => ?_
  rw [Assoc.keys_insert]
  exact Names.nodup_add hm file

/-! ## what has settled -/

variable [Sub τ] [LE τ] [DecidableLE τ]

/-- the files that have settled, as they were written, oldest first -/
def due (pending : Pending τ) (window now : τ) : List String :=
  Assoc.keys (pending.filter fun e => isSettled window now e.2)

theorem mem_due {pending : Pending τ} {window now : τ} {file : String} :
    file ∈ pending.due window now ↔ ∃ t, (file, t) ∈ pending ∧ window ≤ now - t := by
  simp [due, Assoc.keys, isSettled]

theorem nodup_due {pending : Pending τ} (h : pending.keys.Nodup) (window now : τ) :
    (pending.due window now).Nodup := h.sublist (List.filter_sublist.map _)

theorem nodup_flush {pending : Pending τ} (h : pending.keys.Nodup) (window now : τ) :
    (pending.flush window now).2.keys.Nodup := h.sublist (List.filter_sublist.map _)

/-- what a flush gives out are the files that have settled, in order -/
theorem flush_fst (pending : Pending τ) (window now : τ) :
    (pending.flush window now).1
      = ((pending.due window now).map Path.ofString).mergeSort Path.le := by
  rw [due, Assoc.keys, List.map_map]
  rfl

/-- what a flush keeps are the other files, with their times -/
theorem mem_flush_snd {pending : Pending τ} (h : pending.keys.Nodup) (window now : τ)
    (file : String) (t : τ) :
    (file, t) ∈ (pending.flush window now).2 ↔
      (file, t) ∈ pending ∧ file ∉ pending.due window now := by
  refine List.mem_filter.trans (and_congr_right fun hmem => ?_)
  have hself : file ∈ pending.due window now ↔ window ≤ now - t := by
    refine mem_due.trans ⟨fun ⟨t', hmem', hle⟩ => ?_, fun hle => ⟨t, hmem, hle⟩⟩
    rw [← Assoc.get?_eq_some_iff_mem h] at hmem hmem'
    rw [Option.some.inj (hmem.symm.trans hmem')]
    exact hle
  rw [hself, isSettled, Bool.not_eq_true', decide_eq_false_iff_not]

end Pending

theorem ChangeHandler.told_flush {τ : Type} [Sub τ] [LE τ] [DecidableLE τ] (h : ChangeHandler τ)
    (window now : τ) :
    (h.flush window now).2.told =
      if h.listening && !(h.flush window now).1.isEmpty then h.told ++ [(h.flush window now).1]
        else h.told := rfl

/-! ## runs -/

/-- a call on a handler -/
inductive HandlerCall (τ : Type) where
  | event (now : τ) (e : FileEvent)
  | flush (now : τ)

/-- a new handler, and the calls on it in their order -/
structure HandlerRun (τ : Type) where
  root : Path
  listening : Bool
  /-- how long nothing must have happened to a file -/
  window : τ
  calls : List (HandlerCall τ)

namespace HandlerRun

section
variable {τ : Type}

/-- call number `i` is an event on a file at time `t` -/
def EventAt (r : HandlerRun τ) (i : Nat) (file : String) (t : τ) : Prop :=
  ∃ e : FileEvent, r.calls[i]? = some (.event t e) ∧ e.Concerns r.root file

/-- call number `i` is the last event on a file before call number `k` -/
structure LastEvent (r : HandlerRun τ) (k : Nat) (file : String) (i : Nat) (t : τ) : Prop where
  lt : i < k
  event : r.EventAt i file t
  last : ∀ j t', i < j → j < k → ¬ r.EventAt j file t'

theorem EventAt.time_eq {r : HandlerRun τ} {i : Nat} {file : String} {t t' : τ}
    (h : r.EventAt i file t) (h' : r.EventAt i file t') : t = t' := by
  obtain ⟨e, he, -⟩ := h
  obtain ⟨e', he', -⟩ := h'
  rw [he] at he'
  cases he'
  rfl

theorem LastEvent.le_of_eventAt {r : HandlerRun τ} {k i l : Nat} {file : String} {t t' : τ}
    (h : r.LastEvent k file l t') (he : r.EventAt i file t) (hi : i < k) : i ≤ l :=
  Nat.le_of_not_lt fun hl => h.last i t hl hi he

end

variable {τ : Type} [Sub τ] [LE τ] [DecidableLE τ] (r : HandlerRun τ)

/-- what a call does to a handler -/
def perform (window : τ) (h : ChangeHandler τ) : HandlerCall τ → ChangeHandler τ
  | .event now e => h.note now e
  | .flush now => (h.flush window now).2

/-- the handler before call number `k` -/
def handlerAt (k : Nat) : ChangeHandler τ :=
  (r.calls.take k).foldl (perform r.window) (.start r.root r.listening)

/-- the files that call number `k` gives out, as they were written -/
def emittedAt (k : Nat) : List String :=
  match r.calls[k]? with
  | some (.flush now) => (r.handlerAt k).pending.due r.window now
  | _ => []

/-- Before call number `k` a file waits: call number `i`, at time `t`, was its last event, and it
was not given out since. -/
structure Waits (k : Nat) (file : String) (i : Nat) (t : τ) : Prop where
  last : r.LastEvent k file i t
  kept : ∀ j, i < j → j < k → file ∉ r.emittedAt j

/-- call number `j` is the first after call number `i` that gives out a file -/
structure EmittedNext (i : Nat) (file : String) (j : Nat) : Prop where
  lt : i < j
  emitted : file ∈ r.emittedAt j
  first : ∀ l, i < l → l < j → file ∉ r.emittedAt l

theorem EmittedNext.unique {r : HandlerRun τ} {i j j' : Nat} {file : String}
    (h : r.EmittedNext i file j) (h' : r.EmittedNext i file j') : j = j' := by
  rcases Nat.lt_trichotomy j j' with hlt | e | hlt
  · exact absurd h.emitted (h'.first j h.lt hlt)
  · exact e
  · exact absurd h'.emitted (h.first j' h'.lt hlt)

/-! ## one call -/

section
variable {r} {k : Nat}

theorem handlerAt_succ {c : HandlerCall τ} (h : r.calls[k]? = some c) :
    r.handlerAt (k + 1) = perform r.window (r.handlerAt k) c := by
  simp [handlerAt, List.take_add_one, h]

theorem handlerAt_succ_of_none (h : r.calls[k]? = none) : r.handlerAt (k + 1) = r.handlerAt k := by
  simp [handlerAt, List.take_add_one, h]

theorem emittedAt_of_flush {now : τ} (h : r.calls[k]? = some (.flush now)) :
    r.emittedAt k = (r.handlerAt k).pending.due r.window now := by
  unfold emittedAt
  rw [h]

theorem emittedAt_of_event {now : τ} {e : FileEvent} (h : r.calls[k]? = some (.event now e)) :
    r.emittedAt k = [] := by
  unfold emittedAt
  rw [h]

theorem emittedAt_of_none (h : r.calls[k]? = none) : r.emittedAt k = [] := by
  unfold emittedAt
  rw [h]

end

/-- what a run keeps of its handler: the root, whether there is a listener, and that no file is
pending twice -/
theorem handlerAt_kept (k : Nat) :
    (r.handlerAt k).root = r.root ∧ (r.handlerAt k).listening = r.listening ∧
    (r.handlerAt k).pending.keys.Nodup := by
  induction k with
  | zero => exact ⟨rfl, rfl, List.nodup_nil⟩
  | succ k ih =>
    obtain ⟨hroot, hlistening, hnodup⟩ := ih
    cases hc : r.calls[k]? with
    | none =>
      rw [handlerAt_succ_of_none hc]
      exact ⟨hroot, hlistening, hnodup⟩
    | some c =>
      rw [handlerAt_succ hc]
      cases c with
      | event now e => exact ⟨hroot, hlistening, Pending.nodup_note hnodup _ now e⟩
      | flush now => exact ⟨hroot, hlistening, Pending.nodup_flush hnodup _ now⟩

section
variable {r} {k : Nat} {file : String}

/-- a file that has an event is pending with its time -/
theorem get?_succ_of_eventAt {now : τ} (h : r.EventAt k file now) :
    (r.handlerAt (k + 1)).pending.get? file = some now := by
  obtain ⟨e, hc, he⟩ := h
  rw [handlerAt_succ hc]
  rw [← (r.handlerAt_kept k).1] at he
  exact (Pending.get?_note ..).trans (if_pos ((Pending.mem_touched _ e file).mpr he))

/-- a file that has none is pending as before, if it is not given out -/
theorem get?_succ (h : ∀ t, ¬ r.EventAt k file t) (t : τ) :
    (r.handlerAt (k + 1)).pending.get? file = some t ↔
    (r.handlerAt k).pending.get? file = some t ∧ file ∉ r.emittedAt k := by
  cases hc : r.calls[k]? with
  | none => simp [handlerAt_succ_of_none hc, emittedAt_of_none hc]
  | some c =>
    rw [handlerAt_succ hc]
    obtain ⟨hroot, -, hnodup⟩ := r.handlerAt_kept k
    cases c with
    | event now e =>
      have hout : file ∉ Pending.touched (r.handlerAt k).root e := by
        rw [Pending.mem_touched, hroot]
        exact fun he => h now ⟨e, hc, he⟩
      have hsame :=
        (Pending.get?_note (r.handlerAt k).pending (r.handlerAt k).root now e file).trans
          (if_neg hout)
      rw [emittedAt_of_event hc]
      simp [perform, ChangeHandler.note, hsame]
    | flush now =>
      rw [emittedAt_of_flush hc, Assoc.get?_eq_some_iff_mem hnodup]
      refine (Assoc.get?_eq_some_iff_mem (Pending.nodup_flush hnodup r.window now) file t).trans ?_
      exact Pending.mem_flush_snd hnodup r.window now file t

theorem waits_succ_of_eventAt {now : τ} (h : r.EventAt k file now) (i : Nat) (t : τ) :
    r.Waits (k + 1) file i t ↔ i = k ∧ t = now := by
  constructor
  · intro hw
    have hle := hw.last.le_of_eventAt h (Nat.lt_succ_self k)
    have hlt := hw.last.lt
    obtain rfl : i = k := by omega
    exact ⟨rfl, hw.last.event.time_eq h⟩
  · rintro ⟨rfl, rfl⟩
    exact ⟨⟨Nat.lt_succ_self i, h, fun j _ hij hj => by omega⟩, fun j hij hj => by omega⟩

theorem waits_succ (h : ∀ t, ¬ r.EventAt k file t) (i : Nat) (t : τ) :
    r.Waits (k + 1) file i t ↔ r.Waits k file i t ∧ file ∉ r.emittedAt k := by
  constructor
  · intro hw
    have hne : i ≠ k := by
      rintro rfl
      exact h t hw.last.event
    have hlt := hw.last.lt
    refine ⟨⟨⟨by omega, hw.last.event, fun j t' hij hj => hw.last.last j t' hij (by omega)⟩,
      fun j hij hj => hw.kept j hij (by omega)⟩, hw.kept k (by omega) (Nat.lt_succ_self k)⟩
  · rintro ⟨hw, hk⟩
    have hlt := hw.last.lt
    refine ⟨⟨by omega, hw.last.event, fun j t' hij hj => ?_⟩, fun j hij hj => ?_⟩
    · rcases Nat.lt_succ_iff_lt_or_eq.mp hj with hj | rfl
      · exact hw.last.last j t' hij hj
      · exact h t'
    · rcases Nat.lt_succ_iff_lt_or_eq.mp hj with hj | rfl
      · exact hw.kept j hij hj
      · exact hk

end

/-! ## the whole run -/

/-- the files that are pending are those that wait -/
theorem get?_pending_iff (k : Nat) (file : String) (t : τ) :
    (r.handlerAt k).pending.get? file = some t ↔ ∃ i, r.Waits k file i t := by
  induction k generalizing t with
  | zero =>
    constructor
    · intro h
      cases h
    · rintro ⟨i, hw⟩
      exact absurd hw.last.lt (Nat.not_lt_zero i)
  | succ k ih =>
    -- for one file a call is an event, or it can only give the file out
    by_cases hevent : ∃ now, r.EventAt k file now
    · obtain ⟨now, hevent⟩ := hevent
      simp [get?_succ_of_eventAt hevent, waits_succ_of_eventAt hevent, eq_comm]
    · have hnone : ∀ now, ¬ r.EventAt k file now := fun now h => hevent ⟨now, h⟩
      rw [get?_succ hnone, ih]
      simp [waits_succ hnone]

theorem mem_pending_iff (k : Nat) (file : String) (t : τ) :
    (file, t) ∈ (r.handlerAt k).pending ↔ ∃ i, r.Waits k file i t := by
  rw [← Assoc.get?_eq_some_iff_mem (r.handlerAt_kept k).2.2, get?_pending_iff]

/-- What a flush at time `now` does that is call number `k` and returns `changed`. -/
structure FlushedAt (k : Nat) (now : τ) (changed : List Path) : Prop where
  /-- a file is given out if it waits and its last event was long enough ago, -/
  settled : ∀ file, file ∈ r.emittedAt k ↔ ∃ i t, r.Waits k file i t ∧ r.window ≤ now - t
  /-- once as it was written, -/
  once : (r.emittedAt k).Nodup
  returned : changed.Perm ((r.emittedAt k).map Path.ofString)
  sorted : changed.Pairwise fun p q => p.le q = true
  /-- and a listener is told all that is given out, if there is anything -/
  told : r.listening = true → changed ≠ [] →
    (r.handlerAt (k + 1)).told = (r.handlerAt k).told ++ [changed]
  silent : r.listening = false ∨ changed = [] → (r.handlerAt (k + 1)).told = (r.handlerAt k).told
  pending : ∀ file t, (file, t) ∈ (r.handlerAt (k + 1)).pending ↔
    (file, t) ∈ (r.handlerAt k).pending ∧ file ∉ r.emittedAt k

theorem flushedAt {k : Nat} {now : τ} (hc : r.calls[k]? = some (.flush now)) :
    r.FlushedAt k now ((r.handlerAt k).flush r.window now).1 := by
  obtain ⟨-, hlistening, hnodup⟩ := r.handlerAt_kept k
  have hemitted := emittedAt_of_flush hc
  have hreturned : ((r.handlerAt k).flush r.window now).1
      = ((r.emittedAt k).map Path.ofString).mergeSort Path.le := by
    rw [hemitted]
    exact Pending.flush_fst ..
  refine ⟨fun file => ?_, ?_, ?_, ?_, fun hl hne => ?_, fun hquiet => ?_, fun file t => ?_⟩
  · simp only [hemitted, Pending.mem_due, mem_pending_iff]
    constructor
    · rintro ⟨t, ⟨i, hwaits⟩, hle⟩
      exact ⟨i, t, hwaits, hle⟩
    · rintro ⟨i, t, hwaits, hle⟩
      exact ⟨t, ⟨i, hwaits⟩, hle⟩
  · rw [hemitted]
    exact Pending.nodup_due hnodup _ now
  · rw [hreturned]
    exact List.mergeSort_perm _ _
  · rw [hreturned]
    exact List.pairwise_mergeSort Path.le_trans Path.le_total _
  · have htold : ((r.handlerAt k).listening && !((r.handlerAt k).flush r.window now).1.isEmpty)
        = true := by
      simp [hlistening, hl, hne]
    rw [handlerAt_succ hc, perform, ChangeHandler.told_flush, if_pos htold]
  · have htold : ¬ ((r.handlerAt k).listening && !((r.handlerAt k).flush r.window now).1.isEmpty)
        = true := by
      rcases hquiet with hquiet | hquiet <;> simp [hlistening, hquiet]
    rw [handlerAt_succ hc, perform, ChangeHandler.told_flush, if_neg htold]
  · rw [handlerAt_succ hc, hemitted]
    exact Pending.mem_flush_snd hnodup r.window now file t

/-- an event is followed by a flush that gives out its file, at the latest when the file has
settled -/
theorem exists_emittedNext {i m l : Nat} {file : String} {t t' now : τ} (he : r.EventAt i file t)
    (him : i < m) (hm : r.calls[m]? = some (.flush now)) (hlast : r.LastEvent m file l t')
    (hsettled : r.window ≤ now - t') :
    ∃ j ≤ m, r.EmittedNext i file j := by
  have hil : i ≤ l := hlast.le_of_eventAt he him
  have hsome : ∃ j, i < j ∧ j ≤ m ∧ file ∈ r.emittedAt j := by
    by_contra hnone
    have hkept : ∀ j, l < j → j < m → file ∉ r.emittedAt j := fun j hlj hjm hj =>
      hnone ⟨j, by omega, by omega, hj⟩
    exact hnone ⟨m, him, Nat.le_refl m,
      ((r.flushedAt hm).settled file).mpr ⟨l, t', ⟨hlast, hkept⟩, hsettled⟩⟩
  -- the first of them is the one that was asked for
  obtain ⟨hij, hjm, hj⟩ := Nat.find_spec hsome
  refine ⟨Nat.find hsome, hjm, hij, hj, fun l hil hlt hl => ?_⟩
  exact Nat.find_min hsome hlt ⟨hil, by omega, hl⟩

end HandlerRun

/-! ## sources -/

/-- changes of a source that is taken matter -/
theorem isRelevant_of_mem_sourceFiles {t : FileTree} (ht : t.Proper) {root : Path}
    {patterns : List String} {file : Path × ByteArray} (h : file ∈ sourceFiles t root patterns) :
    isRelevant root file.1.text = true := by
  obtain ⟨e, he, hpath⟩ := mem_sourceFiles_path (List.mem_map_of_mem h)
  have hproper : file.1.Proper := by
    rw [hpath]
    exact ⟨Or.inr (Or.inl rfl), ht.names e he⟩
  obtain ⟨hsuffix, hplace⟩ :=
    Bool.and_eq_true_iff.mp (List.mem_filter.mp (List.mem_mergeSort.mp h)).2
  have hforeign : passesForeign (file.1.relativeTo root).parts = false := by
    rw [Bool.not_eq_true', isExcluded, Bool.or_eq_false_iff] at hplace
    exact hplace.1
  have hwatched : watchedSuffixes.contains (Text.lower file.1.suffix) = true := by
    have hmem : file.1.suffix ∈ sourceSuffixes := List.contains_iff_mem.mp hsuffix
    rcases List.mem_cons.mp hmem with e | hmem
    · rw [e]
      decide +kernel
    · rw [List.mem_singleton.mp hmem]
      decide +kernel
  unfold isRelevant
  rw [Path.ofString_text hproper]
  dsimp only
  rw [hforeign, hwatched]
  rfl

/-- Settled changes are given out once, in every run of a handler. What is pending are the files
that had an event since they were last given out, with the time of the last one. A flush gives out
those of them that have settled, in order and each once as it was written, tells the listener if
there are any, and keeps the others. So each event is followed by one flush that gives out its file
next, at the latest by one that comes when the file has settled. And every source below the root is
a file whose changes matter. -/
theorem settled_changes_emitted_once {τ : Type} [Sub τ] [LE τ] [DecidableLE τ] (r : HandlerRun τ) :
    (∀ k, (r.handlerAt k).pending.keys.Nodup ∧
      ∀ file t, (file, t) ∈ (r.handlerAt k).pending ↔ ∃ i, r.Waits k file i t) ∧
    (∀ k now, r.calls[k]? = some (.flush now) →
      r.FlushedAt k now ((r.handlerAt k).flush r.window now).1) ∧
    (∀ i file t, r.EventAt i file t → ∀ m now l t', i < m → r.calls[m]? = some (.flush now) →
      r.LastEvent m file l t' → r.window ≤ now - t' → ∃! j, j ≤ m ∧ r.EmittedNext i file j) ∧
    ∀ (t : FileTree) (patterns : List String), t.Proper → ∀ file ∈ sourceFiles t r.root patterns,
      isRelevant r.root file.1.text = true := by
  refine ⟨fun k => ⟨(r.handlerAt_kept k).2.2, r.mem_pending_iff k⟩,
    fun k now => r.flushedAt, ?_, ?_⟩
  · intro i file t he m now l t' him hm hlast hsettled
    obtain ⟨j, hjm, hj⟩ := r.exists_emittedNext he him hm hlast hsettled
    exact ⟨j, ⟨hjm, hj⟩, fun j' hj' => hj'.2.unique hj⟩
  · exact fun t patterns ht file h => isRelevant_of_mem_sourceFiles ht h

/-! ## a file that is saved twice -/

/-- a file is written, and written again before it has settled; then nothing happens to it -/
def savedTwice : HandlerRun Rat where
  root := ⟨"/", ["project"]⟩
  listening := true
  window := 1 / 2
  calls := [.event 0 ⟨false, "/project/main.py", ""⟩, .flush (1 / 4),
    .event (2 / 5) ⟨false, "/project/main.py", ""⟩, .flush (3 / 4), .flush 1]

theorem concerns_main :
    FileEvent.Concerns savedTwice.root ⟨false, "/project/main.py", ""⟩ "/project/main.py" :=
  ⟨rfl, Or.inl rfl, by decide +kernel⟩

theorem settled_changes_emitted_once_savedTwice :
    savedTwice.EventAt 0 "/project/main.py" 0 ∧
    savedTwice.LastEvent 4 "/project/main.py" 2 (2 / 5) ∧
    (∃! j, j ≤ 4 ∧ savedTwice.EmittedNext 0 "/project/main.py" j) ∧
    savedTwice.FlushedAt 4 1 ((savedTwice.handlerAt 4).flush (1 / 2) 1).1 ∧
    ∃ file ∈ sourceFiles (writtenTree "A\n") savedTwice.root [],
      isRelevant savedTwice.root file.1.text = true := by
  obtain ⟨-, hflush, hnext, hsource⟩ := settled_changes_emitted_once savedTwice
  have hfirst : savedTwice.EventAt 0 "/project/main.py" 0 := ⟨_, rfl, concerns_main⟩
  have hlast : savedTwice.LastEvent 4 "/project/main.py" 2 (2 / 5) := by
    refine ⟨by decide, ⟨_, rfl, concerns_main⟩, fun j t hj hj' => ?_⟩
    obtain rfl : j = 3 := by omega
    rintro ⟨e, he, -⟩
    cases he
  have hlong : savedTwice.window ≤ 1 - 2 / 5 := by decide +kernel
  refine ⟨hfirst, hlast, hnext 0 _ 0 hfirst 4 1 2 _ (by decide) rfl hlast hlong, hflush 4 1 rfl, ?_⟩
  have hlength : (sourceFiles (writtenTree "A\n") savedTwice.root []).length = 1 := by
    decide +kernel
  obtain ⟨file, hfile⟩ := List.length_eq_one_iff.mp hlength
  have hmem : file ∈ sourceFiles (writtenTree "A\n") savedTwice.root [] :=
    hfile ▸ List.mem_singleton_self file
  exact ⟨file, hmem, hsource (writtenTree "A\n") [] (writtenTree_proper "A\n") file hmem⟩

end Archetype
