import Archetype.Proofs.SessionState

/-!
# Runs of a session

A session is called again and again, on programs that change between the calls. Whatever the calls
are, snapshots are never reused, the tables of the session agree, and a registry that is handed out
is the one that would be built for the program at that moment.

* `Call`                 a call on a session;
* `stateAt`              the session before a call of a run;
* `servedAt`, `givenAt`  the snapshot under which a call is served, and the registry that it gives;
* `sound_stateAt`, `extends_stateAt`  the run lemmas;
* `coherent_run`         what the calls of a run give.
-/

namespace Archetype

/-- a call on a session -/
inductive Call where
  | snapshot (p : Program)
  | index (p : Program)
  | registry (p : Program)
  | analyze (p : Program) (config : Config)
  | invalidate (id : Nat)

/-- the program that a call is about -/
def Call.program? : Call → Option Program
  | snapshot p | index p | registry p | analyze p _ => some p
  | invalidate _ => none

/-- the programs that some calls are about -/
def UsedOn (calls : List Call) (p : Program) : Prop := ∃ c ∈ calls, c.program? = some p

namespace Session

/-- the session after a call -/
def perform (s : Session) : Call → Session
  | .snapshot p => (s.snapshotOf p).1
  | .index p => (s.indexOf p).1
  | .registry p => (s.registryOf p).1
  | .analyze p config => (s.analyze p config).1
  | .invalidate id => s.invalidate id

/-- the fingerprint of the state and the snapshot under which a call is served; a program whose
names are not resolved is not asked for its index -/
def served (s : Session) : Call → Option (String × Nat)
  | .snapshot p | .registry p => some (p.fingerprint, (s.snapshotOf p).2)
  | .index p => if p.semantic then some (p.fingerprint, (s.snapshotOf p).2) else none
  | .analyze p config => some (p.fingerprint, (s.analyze p config).2.snapshot)
  | .invalidate _ => none

/-- the program of a call and the registry that the call gives, or bases its report on -/
def given (s : Session) : Call → Option (Program × Built Registry)
  | .registry p => some (p, (s.registryOf p).2)
  | .analyze p config => some (p, (s.analyzeBuilt p config).2.1)
  | _ => none

variable {s t : Session} {seen : Program → Prop}

theorem Mapped.unique {f : String} {m n : Nat} (h : s.Mapped f m) (h' : s.Mapped f n) : m = n :=
  Option.some_inj.mp (h.symm.trans h')

/-! ## one call -/

/-- a call drops the snapshot that it invalidates and nothing else -/
def dropped (c : Call) (n : Nat) : Prop := c = .invalidate n

theorem Kept.extends (h : Kept seen s t) (d : Nat → Prop) : Extends d s t :=
  h.later.mono fun _ => False.elim

section
variable (hf : Program.Faithful seen) (h : Sound seen s)
include hf h

theorem perform_kept (c : Call) (hp : ∀ p, c.program? = some p → seen p) :
    Sound seen (s.perform c) ∧ Extends (dropped c) s (s.perform c) := by
  suffices hkept : (∃ id, c = .invalidate id) ∨ Kept seen s (s.perform c) by
    rcases hkept with ⟨id, rfl⟩ | hkept
    · refine ⟨h.invalidate id, (extends_invalidate h.keys id).mono ?_⟩
      rintro _ rfl
      rfl
    · exact ⟨hkept.sound, hkept.extends _⟩
  cases c with
  | snapshot p => exact Or.inr (snapshotOf_kept h p).1
  | index p =>
    right
    dsimp only [perform, indexOf]
    split
    · obtain ⟨h1, hm1⟩ := snapshotOf_kept h p
      exact h1.trans (indexAt_kept hf h1.sound (hp p rfl) hm1).1
    · exact ⟨h, Extends.refl _ s⟩
  | registry p =>
    obtain ⟨h1, hm1⟩ := snapshotOf_kept h p
    exact Or.inr (h1.trans (registryAt_kept hf h1.sound (hp p rfl) hm1).1)
  | analyze p config => exact Or.inr (analyzeBuilt_kept hf h (hp p rfl) config).1
  | invalidate id => exact Or.inl ⟨id, rfl⟩

/-- the state that a call is about has the snapshot under which it is served, a new one if it had
none -/
theorem served_mapped {c : Call} (hp : ∀ p, c.program? = some p → seen p) {f : String} {n : Nat}
    (hs : s.served c = some (f, n)) :
    (s.perform c).Mapped f n ∧ (s.snapshots.get? f = none → n = s.next) := by
  suffices hkey : ∃ p, Kept seen (s.snapshotOf p).1 (s.perform c) ∧
      (p.fingerprint, (s.snapshotOf p).2) = (f, n) by
    obtain ⟨p, hkept, e⟩ := hkey
    obtain ⟨rfl, rfl⟩ := Prod.mk.inj e
    refine ⟨hkept.mapped (snapshotOf_kept h p).2, fun hnone => ?_⟩
    rw [snapshotOf_of_new hnone]
  cases c with
  | snapshot p => exact ⟨p, ⟨(snapshotOf_kept h p).1.sound, Extends.refl _ _⟩, Option.some.inj hs⟩
  | index p =>
    dsimp only [served] at hs
    split at hs
    · rename_i hsem
      obtain ⟨h1, hm1⟩ := snapshotOf_kept h p
      refine ⟨p, ?_, Option.some.inj hs⟩
      dsimp only [perform, indexOf]
      rw [if_pos hsem]
      exact (indexAt_kept hf h1.sound (hp p rfl) hm1).1
    · cases hs
  | registry p =>
    obtain ⟨h1, hm1⟩ := snapshotOf_kept h p
    exact ⟨p, (registryAt_kept hf h1.sound (hp p rfl) hm1).1, Option.some.inj hs⟩
  | analyze p config =>
    obtain ⟨h1, hm1⟩ := snapshotOf_kept h p
    obtain ⟨h2, _⟩ := registryAt_kept hf h1.sound (hp p rfl) hm1
    obtain ⟨h3, _⟩ := indexAt_kept hf h2.sound (hp p rfl) (h2.mapped hm1)
    exact ⟨p, h2.trans h3, Option.some.inj hs⟩
  | invalidate id => cases hs

/-- the registry that a call gives is kept for the snapshot under which the call is served -/
theorem given_kept {c : Call} (hp : ∀ p, c.program? = some p → seen p) {p : Program}
    {r : Built Registry} (hg : s.given c = some (p, r)) :
    c.program? = some p ∧
    ∃ n, s.served c = some (p.fingerprint, n) ∧ (s.perform c).registries.lookup n = some r := by
  cases c with
  | snapshot p => cases hg
  | index p => cases hg
  | registry p =>
    obtain ⟨rfl, rfl⟩ := Prod.mk.inj (Option.some.inj hg)
    obtain ⟨h1, hm1⟩ := snapshotOf_kept h p
    exact ⟨rfl, _, rfl, (registryAt_kept hf h1.sound (hp p rfl) hm1).2⟩
  | analyze p config =>
    obtain ⟨rfl, rfl⟩ := Prod.mk.inj (Option.some.inj hg)
    exact ⟨rfl, _, rfl, (analyzeBuilt_kept hf h (hp p rfl) config).2.1⟩
  | invalidate id => cases hg

end

end Session

/-! ## runs -/

/-- the session before call number `i` of a run -/
def stateAt (calls : List Call) (i : Nat) : Session :=
  (calls.take i).foldl Session.perform Session.start

/-- the fingerprint and the snapshot under which call number `i` is served -/
def servedAt (calls : List Call) (i : Nat) : Option (String × Nat) :=
  calls[i]?.bind (stateAt calls i).served

/-- the program of call number `i` and the registry that the call gives -/
def givenAt (calls : List Call) (i : Nat) : Option (Program × Built Registry) :=
  calls[i]?.bind (stateAt calls i).given

/-- a snapshot is invalidated by a call from number `i` on and before number `j` -/
def DroppedIn (calls : List Call) (i j n : Nat) : Prop :=
  ∃ k, i ≤ k ∧ k < j ∧ calls[k]? = some (.invalidate n)

theorem DroppedIn.first {calls : List Call} {i j n : Nat} (h : DroppedIn calls i j n) :
    ∃ k, i ≤ k ∧ k < j ∧ calls[k]? = some (.invalidate n) ∧ ¬ DroppedIn calls i k n := by
  induction j using Nat.strongRecOn with
  | ind j ih =>
    obtain ⟨k, hik, hkj, hk⟩ := h
    by_cases hd : DroppedIn calls i k n
    · obtain ⟨l, hil, hlk, hl⟩ := ih k hkj hd
      exact ⟨l, hil, Nat.lt_trans hlk hkj, hl⟩
    · exact ⟨k, hik, hkj, hk, hd⟩

theorem stateAt_succ {calls : List Call} {i : Nat} {c : Call} (h : calls[i]? = some c) :
    stateAt calls (i + 1) = (stateAt calls i).perform c := by
  simp [stateAt, List.take_add_one, h]

theorem stateAt_succ_of_none {calls : List Call} {i : Nat} (h : calls[i]? = none) :
    stateAt calls (i + 1) = stateAt calls i := by
  simp [stateAt, List.take_add_one, h]

theorem usedOn_of_getElem? {calls : List Call} {i : Nat} {c : Call} (h : calls[i]? = some c)
    (p : Program) (hp : c.program? = some p) : UsedOn calls p :=
  ⟨c, List.mem_of_getElem? h, hp⟩

section
variable {calls : List Call} (hf : Program.Faithful (UsedOn calls))
include hf

/-- the session is sound before every call -/
theorem sound_stateAt (i : Nat) : Session.Sound (UsedOn calls) (stateAt calls i) := by
  induction i with
  | zero => exact Session.sound_start _
  | succ i ih =>
    cases hc : calls[i]? with
    | none =>
      rw [stateAt_succ_of_none hc]
      exact ih
    | some c =>
      rw [stateAt_succ hc]
      exact (Session.perform_kept hf ih c (usedOn_of_getElem? hc)).1

/-- between two calls the session loses what is invalidated between them -/
theorem extends_stateAt {i j : Nat} (hij : i ≤ j) :
    Session.Extends (DroppedIn calls i j) (stateAt calls i) (stateAt calls j) := by
  induction hij with
  | refl => exact Session.Extends.refl _ _
  | @step j hij ih =>
    have ih' : Session.Extends (DroppedIn calls i (j + 1)) (stateAt calls i) (stateAt calls j) := by
      refine ih.mono ?_
      rintro n ⟨k, hik, hkj, hk⟩
      exact ⟨k, hik, Nat.lt_succ_of_lt hkj, hk⟩
    cases hc : calls[j]? with
    | none =>
      rw [stateAt_succ_of_none hc]
      exact ih'
    | some c =>
      rw [stateAt_succ hc]
      refine ih'.trans
        ((Session.perform_kept hf (sound_stateAt hf j) c (usedOn_of_getElem? hc)).2.mono ?_)
      rintro n rfl
      exact ⟨j, hij, Nat.lt_succ_self j, hc⟩

/-- after a call is served the state has the snapshot, a new one if it had none -/
theorem mapped_of_servedAt {i : Nat} {f : String} {n : Nat} (h : servedAt calls i = some (f, n)) :
    (stateAt calls (i + 1)).Mapped f n ∧
    ((stateAt calls i).snapshots.get? f = none → n = (stateAt calls i).next) := by
  obtain ⟨c, hc, hs⟩ := Option.bind_eq_some_iff.mp h
  rw [stateAt_succ hc]
  exact Session.served_mapped hf (sound_stateAt hf i) (usedOn_of_getElem? hc) hs

/-- after a call has given a registry it is kept for the snapshot under which the call was served -/
theorem kept_of_givenAt {i : Nat} {p : Program} {r : Built Registry}
    (h : givenAt calls i = some (p, r)) :
    UsedOn calls p ∧ ∃ n, servedAt calls i = some (p.fingerprint, n) ∧
      (stateAt calls (i + 1)).registries.lookup n = some r := by
  obtain ⟨c, hc, hg⟩ := Option.bind_eq_some_iff.mp h
  obtain ⟨hp, n, hs, hr⟩ := Session.given_kept hf (sound_stateAt hf i) (usedOn_of_getElem? hc) hg
  refine ⟨usedOn_of_getElem? hc p hp, n, ?_, ?_⟩
  · rw [servedAt, hc]
    exact hs
  · rw [stateAt_succ hc]
    exact hr

theorem next_of_servedAt {i j : Nat} (hij : i < j) {f : String} {n : Nat}
    (h : servedAt calls i = some (f, n)) :
    n < (stateAt calls j).next :=
  Nat.lt_of_lt_of_le ((sound_stateAt hf (i + 1)).below f n (mapped_of_servedAt hf h).1)
    (extends_stateAt hf hij).next

/-- a state that has a snapshot later on, one that was handed out before, has had it then already -/
theorem mapped_of_servedAt_later {i k j : Nat} (hik : i < k) (hkj : k ≤ j) {f g : String} {n : Nat}
    (hi : servedAt calls i = some (f, n)) (hj : servedAt calls j = some (g, n)) :
    (stateAt calls k).Mapped g n :=
  (extends_stateAt hf (Nat.le_succ_of_le hkj)).mappedOld g n (mapped_of_servedAt hf hj).1
    (next_of_servedAt hf hik hi)

/-- different states never have the same snapshot, also not one after the other -/
theorem servedAt_inj {i j : Nat} {f g : String} {n : Nat} (hi : servedAt calls i = some (f, n))
    (hj : servedAt calls j = some (g, n)) : f = g := by
  have hlt : ∀ i j f g, i < j → servedAt calls i = some (f, n) → servedAt calls j = some (g, n) →
      f = g := by
    intro i j f g hij hi hj
    exact (sound_stateAt hf (i + 1)).apart f g n (mapped_of_servedAt hf hi).1
      (mapped_of_servedAt_later hf (Nat.lt_succ_self i) hij hi hj)
  rcases Nat.lt_trichotomy i j with h | rfl | h
  · exact hlt i j f g h hi hj
  · rw [hi] at hj
    exact (Prod.mk.inj (Option.some.inj hj)).1
  · exact (hlt j i g f h hj hi).symm

/-- a snapshot that was handed out and invalidated is not handed out again -/
theorem not_servedAt_of_dropped {i j : Nat} {f g : String} {m n : Nat}
    (hi : servedAt calls i = some (f, m)) (hd : DroppedIn calls (i + 1) j m)
    (hj : servedAt calls j = some (g, n)) : n ≠ m := by
  rintro rfl
  obtain ⟨k, hik, hkj, hk⟩ := hd
  have hm : (stateAt calls (k + 1)).Mapped g n := mapped_of_servedAt_later hf (by omega) hkj hi hj
  rw [stateAt_succ hk] at hm
  exact ((Session.mapped_invalidate (sound_stateAt hf k).keys n g n).mp hm).2 rfl

/-- as long as its snapshot is not invalidated, a state keeps its registry -/
theorem givenAt_eq_of_not_dropped {i j : Nat} (hij : i < j) {p q : Program} {r r' : Built Registry}
    {n : Nat} (hi : givenAt calls i = some (p, r)) (hj : givenAt calls j = some (q, r'))
    (hpq : p.fingerprint = q.fingerprint) (hs : servedAt calls i = some (p.fingerprint, n))
    (hd : ¬ DroppedIn calls (i + 1) j n) : r' = r := by
  obtain ⟨_, n₁, hs₁, hr⟩ := kept_of_givenAt hf hi
  obtain ⟨_, n₂, hs₂, hr'⟩ := kept_of_givenAt hf hj
  obtain rfl : n = n₁ := (Prod.mk.inj (Option.some.inj (hs.symm.trans hs₁))).2
  have hd' : ¬ DroppedIn calls (i + 1) (j + 1) n := by
    rintro ⟨k, hik, hkj, hk⟩
    rcases Nat.lt_succ_iff_lt_or_eq.mp hkj with h | rfl
    · exact hd ⟨k, hik, h, hk⟩
    · simp [givenAt, hk, Session.given] at hj
  have hext := extends_stateAt hf (Nat.le_succ_of_le hij)
  have hm := hext.mapped _ n (mapped_of_servedAt hf hs).1 hd'
  have hm' := (mapped_of_servedAt hf hs₂).1
  rw [← hpq] at hm'
  obtain rfl := hm.unique hm'
  exact Option.some.inj (hr'.symm.trans (hext.registry n r hr hd'))

/-- once its snapshot has been invalidated, a state gets a registry that is built after that -/
theorem givenAt_new_of_dropped {i j : Nat} {p q : Program} {r r' : Built Registry} {n : Nat}
    (hi : givenAt calls i = some (p, r)) (hj : givenAt calls j = some (q, r'))
    (hpq : p.fingerprint = q.fingerprint) (hs : servedAt calls i = some (p.fingerprint, n))
    (hd : DroppedIn calls (i + 1) j n) :
    ∃ k, i < k ∧ k < j ∧ calls[k]? = some (.invalidate n) ∧
      r.serial < (stateAt calls k).built ∧ (stateAt calls k).built ≤ r'.serial := by
  -- the first such call is the one that took the registry away
  obtain ⟨k, hik, hkj, hk, hmin⟩ := hd.first
  obtain ⟨_, n₁, hs₁, hr⟩ := kept_of_givenAt hf hi
  obtain ⟨_, n₂, hs₂, hr'⟩ := kept_of_givenAt hf hj
  obtain rfl : n = n₁ := (Prod.mk.inj (Option.some.inj (hs.symm.trans hs₁))).2
  have hfirst := extends_stateAt hf hik
  refine ⟨k, hik, hkj, hk, ?_, ?_⟩
  · exact Nat.lt_of_lt_of_le ((sound_stateAt hf (i + 1)).registry n r hr).1 hfirst.built
  · by_contra hlt
    have hrest := extends_stateAt hf (show k + 1 ≤ j + 1 by omega)
    have hbuilt : (stateAt calls (k + 1)).built = (stateAt calls k).built := by
      rw [stateAt_succ hk]
      rfl
    -- else the registry was there right after that call, for a snapshot that the state had then
    have hold := hrest.registryOld n₂ r' hr' (by omega)
    obtain ⟨_, q', _, hq', _⟩ := (sound_stateAt hf (k + 1)).registry n₂ r' hold
    have hm₂ :=
      hrest.mappedOld _ n₂ (mapped_of_servedAt hf hs₂).1 ((sound_stateAt hf (k + 1)).below _ n₂ hq')
    rw [stateAt_succ hk] at hm₂
    obtain ⟨hm₂, hne⟩ := (Session.mapped_invalidate (sound_stateAt hf k).keys n _ n₂).mp hm₂
    have hm := hfirst.mapped _ n (mapped_of_servedAt hf hs).1 hmin
    rw [hpq] at hm
    exact hne (hm₂.unique hm)

end

/-- What the calls of a run give, on programs that differ in their sources only and whose digests do
not collide. New snapshots are above all that were handed out before, and an invalidated one does
not come back. Different states never share a snapshot, and what is kept is kept for the snapshot of
a state. A registry is the one that would be built for the program, it stays the same until its
snapshot is invalidated, and then another is built. -/
theorem coherent_run (calls : List Call) (before : Path → Path → Prop)
    (hcomparable : Program.Comparable (UsedOn calls) before)
    (hsemantic : ∀ p q, UsedOn calls p → UsedOn calls q → p.semantic = q.semantic)
    (hfree : Program.CollisionFree (UsedOn calls)) :
    (∀ i j f g m n, i < j → servedAt calls i = some (f, m) → servedAt calls j = some (g, n) →
      ((stateAt calls j).snapshots.get? g = none → m < n) ∧ (DroppedIn calls (i + 1) j m → n ≠ m)) ∧
    (∀ i j f g n, servedAt calls i = some (f, n) → servedAt calls j = some (g, n) → f = g) ∧
    (∀ i f g n, (stateAt calls i).Mapped f n → (stateAt calls i).Mapped g n → f = g) ∧
    (∀ i n, ((stateAt calls i).registries.lookup n).isSome ∨
      ((stateAt calls i).indexes.lookup n).isSome →
      ∃ f, (stateAt calls i).Mapped f n) ∧
    (∀ i p r, givenAt calls i = some (p, r) →
      r.value = Registry.ofProgram p p.index? ∧
      ∃ n, servedAt calls i = some (p.fingerprint, n) ∧
        ∀ j q r', i < j → givenAt calls j = some (q, r') → q.fingerprint = p.fingerprint →
          (¬ DroppedIn calls (i + 1) j n → r' = r) ∧
          (DroppedIn calls (i + 1) j n → ∃ k, i < k ∧ k < j ∧ calls[k]? = some (.invalidate n) ∧
            r.serial < (stateAt calls k).built ∧ (stateAt calls k).built ≤ r'.serial)) := by
  have hf := hcomparable.faithful hfree
  refine ⟨?_, ?_, ?_, ?_, ?_⟩
  · intro i j f g m n hij hi hj
    refine ⟨fun hnew => ?_, fun hd => not_servedAt_of_dropped hf hi hd hj⟩
    rw [(mapped_of_servedAt hf hj).2 hnew]
    exact next_of_servedAt hf hij hi
  · intro i j f g n
    exact servedAt_inj hf
  · intro i
    exact (sound_stateAt hf i).apart
  · rintro i n (h | h)
    · obtain ⟨r, hr⟩ := Option.isSome_iff_exists.mp h
      obtain ⟨_, q, _, hm, _⟩ := (sound_stateAt hf i).registry n r hr
      exact ⟨_, hm⟩
    · obtain ⟨x, hx⟩ := Option.isSome_iff_exists.mp h
      obtain ⟨q, _, hm, _⟩ := (sound_stateAt hf i).index n x hx
      exact ⟨_, hm⟩
  · intro i p r hi
    obtain ⟨hp, n, hs, hr⟩ := kept_of_givenAt hf hi
    refine ⟨?_, n, hs, fun j q r' hij hj hqp => ⟨?_, ?_⟩⟩
    · obtain ⟨_, q, hq, hm, hv⟩ := (sound_stateAt hf (i + 1)).registry n r hr
      have hfp := (sound_stateAt hf (i + 1)).apart _ _ n hm (mapped_of_servedAt hf hs).1
      obtain ⟨hroot, hunits⟩ := hf q p hq hp hfp
      obtain rfl := Program.eq_of_parts hroot hunits (hsemantic q p hq hp)
      exact hv
    · exact givenAt_eq_of_not_dropped hf hij hi hj hqp.symm hs
    · exact givenAt_new_of_dropped hf hi hj hqp.symm hs

/-! ## a run on one file that is edited -/

/-- calls on a file before and after an edit, with its first snapshot invalidated on the way -/
def editedCalls : List Call :=
  let old := oneFile "w.register_validator(A, dependencies=[B])\n"
  let new := oneFile "w.register_validator(A, dependencies=[C])\n"
  [.registry old, .analyze old .default, .invalidate 1, .registry old, .index new, .registry new]

theorem usedOn_editedCalls {p : Program} (h : UsedOn editedCalls p) :
    p = oneFile "w.register_validator(A, dependencies=[B])\n" ∨
      p = oneFile "w.register_validator(A, dependencies=[C])\n" := by
  obtain ⟨c, hc, hp⟩ := h
  simp only [editedCalls, List.mem_cons, List.not_mem_nil, or_false] at hc
  rcases hc with rfl | rfl | rfl | rfl | rfl | rfl <;> simp_all [Call.program?]

theorem coherent_run_edited :
    ∃ r r', givenAt editedCalls 1
      = some (oneFile "w.register_validator(A, dependencies=[B])\n", r) ∧
      givenAt editedCalls 3 = some (oneFile "w.register_validator(A, dependencies=[B])\n", r') ∧
      r.value = Registry.ofProgram (oneFile "w.register_validator(A, dependencies=[B])\n")
        (some (Index.ofProgram (oneFile "w.register_validator(A, dependencies=[B])\n"))) ∧
      r.serial < r'.serial := by
  have hne : (oneFile "w.register_validator(A, dependencies=[B])\n").fingerprint
      ≠ (oneFile "w.register_validator(A, dependencies=[C])\n").fingerprint := by decide +kernel
  obtain ⟨-, -, -, -, h⟩ := coherent_run editedCalls (· = ·)
    (oneFile_comparable.mono fun p hp => (usedOn_editedCalls hp).elim (⟨_, ·⟩) (⟨_, ·⟩))
    (by
      intro p q hp hq
      rcases usedOn_editedCalls hp with rfl |
        rfl <;> rcases usedOn_editedCalls hq with rfl | rfl <;>
        simp only [oneFile_semantic])
    (by
      intro p q hp hq e
      rcases usedOn_editedCalls hp with rfl | rfl <;> rcases usedOn_editedCalls hq with rfl | rfl
      · rfl
      · exact absurd e hne
      · exact absurd e.symm hne
      · rfl)
  have hserved : (servedAt editedCalls 1).map Prod.snd = some 1 := by decide +kernel
  obtain ⟨hv, n, hs, hlater⟩ := h 1 _ _ rfl
  rw [Program.index?, oneFile_semantic] at hv
  rw [hs] at hserved
  obtain rfl : n = 1 := Option.some.inj hserved
  obtain ⟨k, _, _, _, hlt, hle⟩ :=
    (hlater 3 _ _ (by decide) rfl rfl).2 ⟨2, by decide, by decide, rfl⟩
  exact ⟨_, _, rfl, rfl, hv, Nat.lt_of_lt_of_le hlt hle⟩

end Archetype
