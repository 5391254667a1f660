import Archetype.Session
import Archetype.Proofs.Fingerprint

/-!
# The state of a session

A session keeps three tables that must agree: the snapshots of the states it has met, and the
registries and indexes built for them. Here is what each operation does to all three at once.

* `Session.Mapped`     a state has a snapshot;
* `Session.Sound`      what holds of a session that was used on some programs only: snapshots are
                       below the counter, no two states share one, and all that is kept was built
                       from a program of the state;
* `Session.Extends`    one session comes after another: what was kept is still there unless it was
                       dropped, and what is new has a new number;
* `analyzeProgram_eq`  the report of a new session.
-/

namespace Archetype

/-! ## tables -/

theorem Assoc.get?_eq_some_iff_mem {β : Type} {m : Assoc β} (h : m.keys.Nodup) (key : String)
    (value : β) :
    m.get? key = some value ↔ (key, value) ∈ m := by
  induction m with
  | nil => simp [Assoc.get?_nil]
  | cons e m ih =>
    obtain ⟨k, v⟩ := e
    obtain ⟨hk, hm⟩ := List.nodup_cons.mp h
    rw [Assoc.get?_cons, List.mem_cons]
    by_cases he : k = key
    · subst he
      have hnot : (k, value) ∉ m := fun hmem => hk (List.mem_map.mpr ⟨_, hmem, rfl⟩)
      simp [hnot, eq_comm]
    · have hne : (key, value) ≠ (k, v) := fun e => he (congrArg Prod.fst e).symm
      simp [he, hne, ih hm]

theorem Assoc.insert_of_get?_none {β : Type} {m : Assoc β} {key : String} (h : m.get? key = none)
    (value : β) :
    m.insert key value = m ++ [(key, value)] ∧ key ∉ m.keys := by
  induction m with
  | nil => exact ⟨rfl, List.not_mem_nil⟩
  | cons e m ih =>
    obtain ⟨k, v⟩ := e
    rw [Assoc.get?_cons] at h
    split at h
    · cases h
    · rename_i hk
      obtain ⟨h1, h2⟩ := ih h
      refine ⟨by simp [Assoc.insert, hk, h1], ?_⟩
      exact List.not_mem_cons_of_ne_of_not_mem (fun e => hk e.symm) h2

theorem lookup_cons_eq_ite {β : Type} (k : Nat) (v : β) (l : List (Nat × β)) (m : Nat) :
    ((k, v) :: l).lookup m = if m = k then some v else l.lookup m := by
  rw [List.lookup_cons]
  by_cases h : m = k
  · subst h
    simp
  · rw [if_neg h, beq_eq_false_iff_ne.mpr h]

theorem lookup_filter_ne {β : Type} (l : List (Nat × β)) (n m : Nat) :
    (l.filter (·.1 != n)).lookup m = if m = n then none else l.lookup m := by
  induction l with
  | nil => simp
  | cons e l ih =>
    obtain ⟨k, v⟩ := e
    by_cases hk : k = n
    · have hdrop : ((k, v) :: l).filter (·.1 != n) = l.filter (·.1 != n) := by simp [hk]
      rw [hdrop, ih, lookup_cons_eq_ite, hk]
      split <;> rfl
    · have hkeep : ((k, v) :: l).filter (·.1 != n) = (k, v) :: l.filter (·.1 != n) := by simp [hk]
      rw [hkeep, lookup_cons_eq_ite, ih, lookup_cons_eq_ite]
      by_cases hm : m = k
      · subst hm
        simp [hk]
      · simp [hm]

theorem lookup_append_singleton {β : Type} {l : List (Nat × β)} {n : Nat}
    (h : l.lookup n = none) (v : β) (m : Nat) :
    (l ++ [(n, v)]).lookup m = if m = n then some v else l.lookup m := by
  rw [List.lookup_append, lookup_cons_eq_ite]
  by_cases hm : m = n
  · subst hm
    simp [h]
  · simp [hm]

/-! ## programs -/

namespace Program

/-- the index by which the names of a program are resolved, if they are -/
def index? (p : Program) : Option Index := if p.semantic then some (Index.ofProgram p) else none

theorem Faithful.index_eq {seen : Program → Prop} (h : Faithful seen) {p q : Program} (hp : seen p)
    (hq : seen q) (e : p.fingerprint = q.fingerprint) : Index.ofProgram p = Index.ofProgram q := by
  obtain ⟨hroot, hunits⟩ := h p q hp hq e
  obtain ⟨root, units, _⟩ := p
  obtain ⟨_, _, _⟩ := q
  obtain rfl : root = _ := hroot
  obtain rfl : units = _ := hunits
  rfl

end Program

namespace Session

variable {s t : Session}

/-- the state with a fingerprint has a snapshot -/
def Mapped (s : Session) (fingerprint : String) (id : Nat) : Prop :=
  s.snapshots.get? fingerprint = some id

/-! ## the elementary changes -/

/-- gives the state with a fingerprint the next snapshot -/
def enter (s : Session) (fingerprint : String) : Session :=
  { s with next := s.next + 1, snapshots := s.snapshots.insert fingerprint s.next }

/-- keeps an index for a snapshot -/
def keepIndex (s : Session) (id : Nat) (index : Index) : Session :=
  { s with built := s.built + 1, indexes := s.indexes ++ [(id, ⟨s.built, index⟩)] }

/-- keeps a registry for a snapshot -/
def keepRegistry (s : Session) (id : Nat) (registry : Registry) : Session :=
  { s with built := s.built + 1, registries := s.registries ++ [(id, ⟨s.built, registry⟩)] }

theorem snapshotOf_of_mapped {p : Program} {id : Nat} (h : s.Mapped p.fingerprint id) :
    s.snapshotOf p = (s, id) := by
  have h' : s.snapshots.get? p.fingerprint = some id := h
  dsimp only [snapshotOf]
  rw [h']

theorem snapshotOf_of_new {p : Program} (h : s.snapshots.get? p.fingerprint = none) :
    s.snapshotOf p = (s.enter p.fingerprint, s.next) := by
  dsimp only [snapshotOf]
  rw [h]
  rfl

theorem indexAt_of_lexical {p : Program} (h : p.semantic = false) (id : Nat) :
    s.indexAt id p = (s, none) := by
  unfold indexAt
  simp [h]

theorem indexAt_of_kept {p : Program} (h : p.semantic = true) {id : Nat} {index : Built Index}
    (hi : s.indexes.lookup id = some index) : s.indexAt id p = (s, some index) := by
  unfold indexAt
  rw [if_pos h, hi]

theorem indexAt_of_new {p : Program} (h : p.semantic = true) {id : Nat}
    (hi : s.indexes.lookup id = none) :
    s.indexAt id p = (s.keepIndex id (Index.ofProgram p), some ⟨s.built, Index.ofProgram p⟩) := by
  unfold indexAt
  rw [if_pos h, hi]
  rfl

theorem indexAt_registries (s : Session) (id : Nat) (p : Program) :
    (s.indexAt id p).1.registries = s.registries := by
  unfold indexAt
  split
  · split <;> rfl
  · rfl

theorem indexAt_snapshots (s : Session) (id : Nat) (p : Program) :
    (s.indexAt id p).1.snapshots = s.snapshots := by
  unfold indexAt
  split
  · split <;> rfl
  · rfl

theorem registryAt_of_kept {p : Program} {id : Nat} {r : Built Registry}
    (h : s.registries.lookup id = some r) :
    s.registryAt id p = (s, r) := by
  unfold registryAt
  rw [h]

theorem registryAt_of_new {p : Program} {id : Nat} (h : s.registries.lookup id = none) :
    s.registryAt id p =
      let registry := Registry.ofProgram p ((s.indexAt id p).2.map (·.value))
      ((s.indexAt id p).1.keepRegistry id registry, ⟨(s.indexAt id p).1.built, registry⟩) := by
  unfold registryAt
  rw [h]
  rfl

/-! ## what they do to the tables -/

theorem mapped_enter (s : Session) (f g : String) (n : Nat) :
    (s.enter f).Mapped g n ↔ if f = g then s.next = n else s.Mapped g n := by
  have h := Assoc.get?_insert s.snapshots f s.next g
  show (s.snapshots.insert f s.next).get? g = some n ↔ _
  rw [h]
  split
  · exact Option.some_inj
  · rfl

theorem mapped_invalidate (h : s.snapshots.keys.Nodup) (id : Nat) (f : String) (n : Nat) :
    (s.invalidate id).Mapped f n ↔ s.Mapped f n ∧ n ≠ id := by
  have hkeys : (Assoc.keys (s.snapshots.filter (·.2 != id))).Nodup :=
    h.sublist (List.filter_sublist.map _)
  refine (Assoc.get?_eq_some_iff_mem hkeys f n).trans ?_
  refine List.mem_filter.trans ?_
  rw [← Assoc.get?_eq_some_iff_mem h]
  simp [Mapped]

theorem lookup_keepIndex {id : Nat} (hnew : s.indexes.lookup id = none) (index : Index) (n : Nat) :
    (s.keepIndex id index).indexes.lookup n
      = if n = id then some ⟨s.built, index⟩ else s.indexes.lookup n :=
  lookup_append_singleton hnew _ n

theorem lookup_keepRegistry {id : Nat} (hnew : s.registries.lookup id = none) (registry : Registry)
    (n : Nat) :
    (s.keepRegistry id registry).registries.lookup n
      = if n = id then some ⟨s.built, registry⟩ else s.registries.lookup n :=
  lookup_append_singleton hnew _ n

theorem lookup_invalidate (s : Session) (id n : Nat) :
    (s.invalidate id).registries.lookup n = if n = id then none else s.registries.lookup n :=
  lookup_filter_ne _ id n

/-! ## one session after another -/

/-- `t` comes after `s`, and on the way only the snapshots in `dropped` were dropped. -/
structure Extends (dropped : Nat → Prop) (s t : Session) : Prop where
  next : s.next ≤ t.next
  built : s.built ≤ t.built
  mapped : ∀ f n, s.Mapped f n → ¬ dropped n → t.Mapped f n
  /-- a snapshot of before is not given to another state -/
  mappedOld : ∀ f n, t.Mapped f n → n < s.next → s.Mapped f n
  registry : ∀ n r, s.registries.lookup n = some r → ¬ dropped n → t.registries.lookup n = some r
  /-- a registry of before was kept for the same snapshot -/
  registryOld : ∀ n r, t.registries.lookup n = some r → r.serial < s.built →
    s.registries.lookup n = some r

theorem Extends.refl (dropped : Nat → Prop) (s : Session) : Extends dropped s s :=
  ⟨Nat.le_refl _, Nat.le_refl _, fun _ _ h _ => h, fun _ _ h _ => h, fun _ _ h _ => h,
    fun _ _ h _ => h⟩

theorem Extends.trans {dropped : Nat → Prop} {u : Session} (h : Extends dropped s t)
    (h' : Extends dropped t u) :
    Extends dropped s u where
  next := Nat.le_trans h.next h'.next
  built := Nat.le_trans h.built h'.built
  mapped := fun f n hm hd => h'.mapped f n (h.mapped f n hm hd) hd
  mappedOld :=
    fun f n hm hn => h.mappedOld f n (h'.mappedOld f n hm (Nat.lt_of_lt_of_le hn h.next)) hn
  registry := fun n r hr hd => h'.registry n r (h.registry n r hr hd) hd
  registryOld := fun n r hr hb =>
    h.registryOld n r (h'.registryOld n r hr (Nat.lt_of_lt_of_le hb h.built)) hb

theorem Extends.mono {dropped dropped' : Nat → Prop} (h : Extends dropped s t)
    (hd : ∀ n, dropped n → dropped' n) :
    Extends dropped' s t :=
  ⟨h.next, h.built, fun f n hm hn => h.mapped f n hm fun x => hn (hd n x), h.mappedOld,
    fun n r hr hn => h.registry n r hr fun x => hn (hd n x), h.registryOld⟩

/-- nothing is dropped -/
def nothing : Nat → Prop := fun _ => False

theorem extends_enter {f : String} (hf : s.snapshots.get? f = none) :
    Extends nothing s (s.enter f) := by
  refine ⟨Nat.le_succ _, Nat.le_refl _, ?_, ?_, fun _ _ h _ => h, fun _ _ h _ => h⟩
  · intro g n hg _
    have hne : f ≠ g := by
      rintro rfl
      rw [Mapped, hf] at hg
      cases hg
    rw [mapped_enter, if_neg hne]
    exact hg
  · intro g n hg hn
    rw [mapped_enter] at hg
    split at hg
    · omega
    · exact hg

theorem extends_keepIndex (s : Session) (id : Nat) (index : Index) :
    Extends nothing s (s.keepIndex id index) :=
  ⟨Nat.le_refl _, Nat.le_succ _, fun _ _ h _ => h, fun _ _ h _ => h, fun _ _ h _ => h,
    fun _ _ h _ => h⟩

theorem extends_keepRegistry {id : Nat} (hnew : s.registries.lookup id = none)
    (registry : Registry) :
    Extends nothing s (s.keepRegistry id registry) := by
  refine ⟨Nat.le_refl _, Nat.le_succ _, fun _ _ h _ => h, fun _ _ h _ => h, ?_, ?_⟩
  · intro n r hr _
    have hne : n ≠ id := by
      rintro rfl
      rw [hnew] at hr
      cases hr
    rw [lookup_keepRegistry hnew, if_neg hne]
    exact hr
  · intro n r hr hb
    rw [lookup_keepRegistry hnew] at hr
    split at hr
    · cases hr
      exact absurd hb (Nat.lt_irrefl _)
    · exact hr

theorem extends_invalidate (h : s.snapshots.keys.Nodup) (id : Nat) :
    Extends (· = id) s (s.invalidate id) := by
  refine ⟨Nat.le_refl _, Nat.le_refl _, ?_, ?_, ?_, ?_⟩
  · intro f n hf hne
    exact (mapped_invalidate h id f n).mpr ⟨hf, hne⟩
  · intro f n hf _
    exact ((mapped_invalidate h id f n).mp hf).1
  · intro n r hr hne
    rw [lookup_invalidate, if_neg hne]
    exact hr
  · intro n r hr _
    rw [lookup_invalidate] at hr
    split at hr
    · cases hr
    · exact hr

/-! ## what holds of a session -/

/-- What holds of a session that was used on the programs `seen` only. -/
structure Sound (seen : Program → Prop) (s : Session) : Prop where
  keys : s.snapshots.keys.Nodup
  /-- no two states share a snapshot -/
  apart : ∀ f g n, s.Mapped f n → s.Mapped g n → f = g
  below : ∀ f n, s.Mapped f n → n < s.next
  /-- a registry that is kept was built from a program of the state -/
  registry : ∀ n r, s.registries.lookup n = some r → r.serial < s.built ∧
    ∃ q, seen q ∧ s.Mapped q.fingerprint n ∧ r.value = Registry.ofProgram q q.index?
  /-- so was an index -/
  index : ∀ n i, s.indexes.lookup n = some i →
    ∃ q, seen q ∧ s.Mapped q.fingerprint n ∧ i.value = Index.ofProgram q

variable {seen : Program → Prop}

theorem sound_start (seen : Program → Prop) : Sound seen start where
  keys := List.nodup_nil
  apart := by
    intro f g n h
    cases h
  below := by
    intro f n h
    cases h
  registry := by
    intro n r h
    cases h
  index := by
    intro n i h
    cases h

theorem Sound.enter (h : Sound seen s) {f : String} (hf : s.snapshots.get? f = none) :
    Sound seen (s.enter f) := by
  have hstay : ∀ g n, s.Mapped g n → (s.enter f).Mapped g n :=
    fun g n hg => (extends_enter hf).mapped g n hg id
  refine ⟨?_, ?_, ?_, ?_, ?_⟩
  · obtain ⟨e, hnot⟩ := Assoc.insert_of_get?_none hf s.next
    show (Assoc.keys (s.snapshots.insert f s.next)).Nodup
    rw [e, Assoc.keys, List.map_append]
    refine List.Nodup.append h.keys (List.nodup_singleton _) ?_
    intro x hx hx'
    obtain rfl := List.mem_singleton.mp hx'
    exact hnot hx
  · intro g g' n hg hg'
    rw [mapped_enter] at hg hg'
    split at hg <;> split at hg'
    · simp_all
    · exact absurd (h.below g' n hg') (by omega)
    · exact absurd (h.below g n hg) (by omega)
    · exact h.apart g g' n hg hg'
  · intro g n hg
    show n < s.next + 1
    rw [mapped_enter] at hg
    split at hg
    · omega
    · exact Nat.lt_succ_of_lt (h.below g n hg)
  · intro n r hr
    obtain ⟨hser, q, hq, hm, hv⟩ := h.registry n r hr
    exact ⟨hser, q, hq, hstay _ _ hm, hv⟩
  · intro n i hi
    obtain ⟨q, hq, hm, hv⟩ := h.index n i hi
    exact ⟨q, hq, hstay _ _ hm, hv⟩

theorem Sound.keepIndex (h : Sound seen s) {p : Program} (hp : seen p) {id : Nat}
    (hm : s.Mapped p.fingerprint id) (hnew : s.indexes.lookup id = none) :
    Sound seen (s.keepIndex id (Index.ofProgram p)) := by
  refine ⟨h.keys, h.apart, h.below, ?_, ?_⟩
  · intro n r hr
    obtain ⟨hser, hq⟩ := h.registry n r hr
    exact ⟨Nat.lt_succ_of_lt hser, hq⟩
  · intro n i hi
    rw [lookup_keepIndex hnew] at hi
    split at hi
    · rename_i e
      cases hi
      exact ⟨p, hp, e ▸ hm, rfl⟩
    · exact h.index n i hi

theorem Sound.keepRegistry (h : Sound seen s) {p : Program} (hp : seen p) {id : Nat}
    (hm : s.Mapped p.fingerprint id) (hnew : s.registries.lookup id = none) :
    Sound seen (s.keepRegistry id (Registry.ofProgram p p.index?)) := by
  refine ⟨h.keys, h.apart, h.below, ?_, h.index⟩
  intro n r hr
  rw [lookup_keepRegistry hnew] at hr
  split at hr
  · rename_i e
    cases hr
    exact ⟨Nat.lt_succ_self _, p, hp, e ▸ hm, rfl⟩
  · obtain ⟨hser, hq⟩ := h.registry n r hr
    exact ⟨Nat.lt_succ_of_lt hser, hq⟩

theorem Sound.invalidate (h : Sound seen s) (id : Nat) : Sound seen (s.invalidate id) := by
  have hmap := mapped_invalidate h.keys id
  refine ⟨h.keys.sublist (List.filter_sublist.map _), ?_, ?_, ?_, ?_⟩
  · intro f g n hf hg
    exact h.apart f g n ((hmap f n).mp hf).1 ((hmap g n).mp hg).1
  · intro f n hf
    exact h.below f n ((hmap f n).mp hf).1
  · intro n r hr
    rw [lookup_invalidate] at hr
    split at hr
    · cases hr
    · rename_i hne
      obtain ⟨hser, q, hq, hm, hv⟩ := h.registry n r hr
      exact ⟨hser, q, hq, (hmap _ n).mpr ⟨hm, hne⟩, hv⟩
  · intro n i hi
    have hi' : (s.indexes.filter (·.1 != id)).lookup n = some i := hi
    rw [lookup_filter_ne] at hi'
    split at hi'
    · cases hi'
    · rename_i hne
      obtain ⟨q, hq, hm, hv⟩ := h.index n i hi'
      exact ⟨q, hq, (hmap _ n).mpr ⟨hm, hne⟩, hv⟩

/-! ## the operations -/

/-- what an operation leaves behind: a sound session that has lost nothing -/
structure Kept (seen : Program → Prop) (s t : Session) : Prop where
  sound : Sound seen t
  later : Extends nothing s t

theorem Kept.trans {u : Session} (h : Kept seen s t) (h' : Kept seen t u) : Kept seen s u :=
  ⟨h'.sound, h.later.trans h'.later⟩

theorem Kept.mapped (h : Kept seen s t) {f : String} {n : Nat} (hm : s.Mapped f n) : t.Mapped f n :=
  h.later.mapped f n hm id

section
variable (hf : Program.Faithful seen) (h : Sound seen s) {p : Program} (hp : seen p)
include h

theorem snapshotOf_kept (p : Program) :
    Kept seen s (s.snapshotOf p).1 ∧
    (s.snapshotOf p).1.Mapped p.fingerprint (s.snapshotOf p).2 := by
  cases hget : s.snapshots.get? p.fingerprint with
  | some id =>
    rw [snapshotOf_of_mapped hget]
    exact ⟨⟨h, Extends.refl _ s⟩, hget⟩
  | none =>
    rw [snapshotOf_of_new hget]
    refine ⟨⟨h.enter hget, extends_enter hget⟩, ?_⟩
    rw [mapped_enter, if_pos rfl]

include hf hp

/-- the index for the snapshot of a program is the one that it would be given in a new session -/
theorem indexAt_kept {id : Nat} (hm : s.Mapped p.fingerprint id) :
    Kept seen s (s.indexAt id p).1 ∧ (s.indexAt id p).2.map (·.value) = p.index? := by
  cases hsem : p.semantic with
  | false =>
    rw [indexAt_of_lexical hsem]
    exact ⟨⟨h, Extends.refl _ s⟩, by simp [Program.index?, hsem]⟩
  | true =>
    cases hlook : s.indexes.lookup id with
    | some i =>
      rw [indexAt_of_kept hsem hlook]
      obtain ⟨q, hq, hqm, hv⟩ := h.index id i hlook
      have hval : i.value = Index.ofProgram p :=
        hv.trans (hf.index_eq hq hp (h.apart _ _ id hqm hm))
      exact ⟨⟨h, Extends.refl _ s⟩, by simp [Program.index?, hsem, hval]⟩
    | none =>
      rw [indexAt_of_new hsem hlook]
      exact ⟨⟨h.keepIndex hp hm hlook, extends_keepIndex s id _⟩, by simp [Program.index?, hsem]⟩

theorem registryAt_kept {id : Nat} (hm : s.Mapped p.fingerprint id) :
    Kept seen s (s.registryAt id p).1 ∧ (s.registryAt id p).1.registries.lookup id
      = some (s.registryAt id p).2 := by
  cases hlook : s.registries.lookup id with
  | some r =>
    rw [registryAt_of_kept hlook]
    exact ⟨⟨h, Extends.refl _ s⟩, hlook⟩
  | none =>
    obtain ⟨hk, hi⟩ := indexAt_kept hf h hp hm
    have hnone : (s.indexAt id p).1.registries.lookup id = none := by rw [indexAt_registries, hlook]
    rw [registryAt_of_new hlook, hi]
    refine ⟨hk.trans ⟨hk.sound.keepRegistry hp (hk.mapped hm) hnone, extends_keepRegistry hnone _⟩,
      ?_⟩
    exact (lookup_keepRegistry hnone _ id).trans (if_pos rfl)

theorem registryAt_value_of_new {id : Nat} (hm : s.Mapped p.fingerprint id)
    (hlook : s.registries.lookup id = none) :
    (s.registryAt id p).2.value = Registry.ofProgram p p.index? := by
  rw [registryAt_of_new hlook, (indexAt_kept hf h hp hm).2]

/-- a report is based on the registry that is kept for its snapshot, and on the index of the
program -/
theorem analyzeBuilt_kept (config : Config) :
    Kept seen s (s.analyzeBuilt p config).1 ∧
      (s.analyzeBuilt p config).1.registries.lookup (s.snapshotOf p).2
        = some (s.analyzeBuilt p config).2.1 ∧
      (s.analyzeBuilt p config).2.2 = ⟨(s.snapshotOf p).2, (s.analyzeBuilt p config).2.1.value,
        programFindings p (s.analyzeBuilt p config).2.1.value p.index? config,
        p.analyzable.length⟩ := by
  obtain ⟨h1, hm1⟩ := snapshotOf_kept h p
  obtain ⟨h2, hr⟩ := registryAt_kept hf h1.sound hp hm1
  obtain ⟨h3, hi⟩ := indexAt_kept hf h2.sound hp (h2.mapped hm1)
  refine ⟨(h1.trans h2).trans h3, h3.later.registry _ _ hr id, ?_⟩
  dsimp only [analyzeBuilt]
  rw [hi]

/-- on a state that is known it is based on what was kept -/
theorem analyzeBuilt_of_kept (config : Config) {id : Nat} (hm : s.Mapped p.fingerprint id)
    {r : Built Registry} (hr : s.registries.lookup id = some r) :
    (s.analyzeBuilt p config).2.1 = r := by
  obtain ⟨hk, hlook, _⟩ := analyzeBuilt_kept hf h hp config
  rw [snapshotOf_of_mapped hm, hk.later.registry id r hr fun x => x] at hlook
  exact (Option.some.inj hlook).symm

/-- on a new state it is based on the registry of the program -/
theorem analyzeBuilt_of_new (config : Config) (hnew : s.snapshots.get? p.fingerprint = none) :
    (s.analyzeBuilt p config).2.1.value = Registry.ofProgram p p.index? := by
  obtain ⟨h1, hm1⟩ := snapshotOf_kept h p
  have hnone : (s.snapshotOf p).1.registries.lookup (s.snapshotOf p).2 = none := by
    rw [snapshotOf_of_new hnew]
    cases hlook : s.registries.lookup s.next with
    | none => exact hlook
    | some r =>
      obtain ⟨_, q, _, hm, _⟩ := h.registry s.next r hlook
      exact absurd (h.below _ _ hm) (Nat.lt_irrefl _)
  exact registryAt_value_of_new hf h1.sound hp hm1 hnone

end

theorem analyzeBuilt_snapshots (s : Session) (p : Program) (config : Config) :
    (s.analyzeBuilt p config).1.snapshots = (s.snapshotOf p).1.snapshots := by
  dsimp only [analyzeBuilt]
  rw [indexAt_snapshots]
  cases hlook : (s.snapshotOf p).1.registries.lookup (s.snapshotOf p).2 with
  | some r => rw [registryAt_of_kept hlook]
  | none =>
    rw [registryAt_of_new hlook]
    exact indexAt_snapshots _ _ p

end Session

/-- a new session reports what is found with a registry and an index that are built for the
program -/
theorem analyzeProgram_eq (p : Program) (config : Config) :
    analyzeProgram p config = ⟨1, Registry.ofProgram p p.index?,
      programFindings p (Registry.ofProgram p p.index?) p.index? config, p.analyzable.length⟩ := by
  have hf : Program.Faithful (· = p) := by
    rintro _ _ rfl rfl _
    exact ⟨rfl, rfl⟩
  have hstart := Session.sound_start (· = p)
  have hnew : Session.start.snapshots.get? p.fingerprint = none := rfl
  have hreport := (Session.analyzeBuilt_kept hf hstart rfl config).2.2
  rw [Session.analyzeBuilt_of_new hf hstart rfl config hnew,
    Session.snapshotOf_of_new hnew] at hreport
  exact hreport

end Archetype
