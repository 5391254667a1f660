import Archetype.Proofs.OwnImports

/-!
# Names that come by star imports

A module that does not bind a name looks for it in the modules of which it takes all names, from
left to right, and these do the same in turn. So a chain of such modules can lead to a class.
Whether the class is found depends on what is asked before the next module of the chain: an earlier
module may have the name as well, or may have no answer at all. If it takes the names of a module of
the chain in its turn, the search meets itself, and the whole lookup is refused, though the class
stands at the end of the chain.

* `StarChain`               modules of which each takes all names of the next, up to one that has
                            the class;
* `Answers`                 what the rules give within a depth;
* `Leads`                   what a search along a chain comes to;
* `answers_iff_leads`       the rules and the search along the chain;
* `star_chain_resolution`   what resolution gives, in terms of the chain;
* `circularFiles`           two modules that take all names of each other.
-/

namespace Archetype

/-! ## answers within a depth -/

/-- the answer to `t` is `r`, and no more than `n` lookups stand inside each other -/
def Answers (index : Index) (n : Nat) (t : Task) (r : Option Meaning) : Prop :=
  ∃ d ≤ n, Evaluates index t d r

section
variable {index : Index} {n : Nat} {m x : String}

theorem answers_zero_name (r : Option Meaning) : ¬ Answers index 0 (.name m x) r := by
  rintro ⟨d, hd, h⟩
  have hpos := h.name_pos
  omega

theorem answers_stars_nil : Answers index n (.stars [] x) none := ⟨0, Nat.zero_le n, .exhausted⟩

/-- the first module is asked, and then the others if it has no such name -/
theorem answers_stars_cons (ms : List String) (r : Option Meaning) :
    Answers index n (.stars (m :: ms) x) r ↔
    (∃ s, r = some s ∧ Answers index n (.name m x) (some s)) ∨
      (Answers index n (.name m x) none ∧ Answers index n (.stars ms x) r) := by
  constructor
  · rintro ⟨d, hd, h⟩
    cases h with
    | found h => exact Or.inl ⟨_, rfl, d, hd, h⟩
    | next h h' =>
      exact Or.inr ⟨⟨_, (Nat.le_max_left ..).trans hd, h⟩, _, (Nat.le_max_right ..).trans hd, h'⟩
  · rintro (⟨s, rfl, d, hd, h⟩ | ⟨⟨d, hd, h⟩, d', hd', h'⟩)
    · exact ⟨d, hd, .found h⟩
    · exact ⟨max d d', Nat.max_le.mpr ⟨hd, hd'⟩, .next h h'⟩

theorem answers_stars_append (ms ms' : List String) (r : Option Meaning) :
    Answers index n (.stars (ms ++ ms') x) r ↔
      (∃ s, r = some s ∧ Answers index n (.stars ms x) (some s)) ∨
        (Answers index n (.stars ms x) none ∧ Answers index n (.stars ms' x) r) := by
  induction ms with
  | nil =>
    rw [List.nil_append]
    constructor
    · exact fun h => Or.inr ⟨answers_stars_nil, h⟩
    · rintro (⟨s, _, d, _, h⟩ | h)
      · cases h
      · exact h.2
  | cons k ms ih =>
    rw [List.cons_append, answers_stars_cons, ih]
    simp only [answers_stars_cons, Option.some.injEq, exists_eq_left']
    constructor
    · rintro (⟨s, rfl, h⟩ | ⟨hk, ⟨s, rfl, h⟩ | ⟨hms, h⟩⟩)
      · exact Or.inl ⟨s, rfl, Or.inl h⟩
      · exact Or.inl ⟨s, rfl, Or.inr ⟨hk, h⟩⟩
      · exact Or.inr ⟨Or.inr ⟨hk, hms⟩, h⟩
    · rintro (⟨s, rfl, h | ⟨hk, h⟩⟩ | ⟨⟨s, hs, _⟩ | ⟨hk, hms⟩, h⟩)
      · exact Or.inl ⟨s, rfl, h⟩
      · exact Or.inr ⟨hk, Or.inl ⟨s, rfl, h⟩⟩
      · cases hs
      · exact Or.inr ⟨hk, Or.inr ⟨hms, h⟩⟩

/-- a name that a module leaves free is looked for in the modules of which it takes all names, and
then among its submodules -/
theorem answers_name_free {entry : IndexEntry} (hm : index.get? m = some entry)
    (hx : entry.scope.bindings.get? x = none) (r : Option Meaning) :
    Answers index (n + 1) (.name m x) r ↔
    (∃ s, r = some s ∧ Answers index n (.stars entry.scope.stars x) (some s)) ∨
      (Answers index n (.stars entry.scope.stars x) none ∧ r = index.submodule? m x) := by
  constructor
  · rintro ⟨d, hd, h⟩
    cases h with
    | outside hm' => rw [hm] at hm'; cases hm'
    | class_ hm' hx' | other hm' hx' | module hm' hx' | imported hm' hx' | foreign hm' hx'
    | renamed hm' hx' =>
      cases hm.symm.trans hm'
      rw [hx] at hx'
      cases hx'
    | starred hm' hx' h =>
      cases hm.symm.trans hm'
      exact Or.inl ⟨_, rfl, _, Nat.le_of_succ_le_succ hd, h⟩
    | unbound hm' hx' h =>
      cases hm.symm.trans hm'
      exact Or.inr ⟨⟨_, Nat.le_of_succ_le_succ hd, h⟩, rfl⟩
  · rintro (⟨s, rfl, d, hd, h⟩ | ⟨⟨d, hd, h⟩, rfl⟩)
    · exact ⟨d + 1, Nat.succ_le_succ hd, .starred hm hx h⟩
    · exact ⟨d + 1, Nat.succ_le_succ hd, .unbound hm hx h⟩

theorem answers_expr_name (pos : Code.Position) (r : Option Meaning) :
    Answers index n (.expr m (.name pos x)) r ↔ Answers index n (.name m x) r := by
  constructor
  · rintro ⟨d, hd, h⟩
    cases h with
    | spelled h => exact ⟨d, hd, h⟩
    | noName h => cases h
  · rintro ⟨d, hd, h⟩
    exact ⟨d, hd, .spelled h⟩

/-- resolution gives what the rules give within the depth -/
theorem resolve_eq_ok_iff (e : Code.Expr) (s : Option Symbol) : index.resolve m e = .ok s ↔
    ∃ r, Answers index 64 (.expr m e) r ∧ r.bind Meaning.symbol? = s := by
  constructor
  · intro h
    obtain ⟨d, r, hev⟩ := evaluates_of_resolve h
    rcases Nat.lt_or_ge 64 d with hdeep | hdepth
    · obtain ⟨y, k, herr⟩ := (resolve_of_evaluates hev).2 hdeep
      rw [herr] at h
      cases h
    · rw [(resolve_of_evaluates hev).1 hdepth] at h
      exact ⟨r, ⟨d, hdepth, hev⟩, Except.ok.inj h⟩
  · rintro ⟨r, ⟨d, hd, h⟩, rfl⟩
    exact (resolve_of_evaluates h).1 hd

end

/-! ## chains -/

/-- Each module of the list takes all names of the next one and leaves `x` free; the last binds it
to a class. -/
inductive StarChain (p : Program) (x : String) : List String → Prop
  | last {m c : String} {u : SourceUnit} :
    p.get? m = some u → u.Binds x (.class_ c) → StarChain p x [m]
  | link {m m' : String} {ms : List String} {u : SourceUnit} : p.get? m = some u →
      (Scope.ofUnit u).bindings.get? x = none → m' ∈ (Scope.ofUnit u).stars →
      StarChain p x (m' :: ms) →
      StarChain p x (m :: m' :: ms)

/-- the modules that `m` asks for a name before it asks `m'` -/
def Program.askedBefore (p : Program) (m m' : String) : List String :=
  match p.get? m with
  | none => []
  | some u => (Scope.ofUnit u).stars.takeWhile (· != m')

/-- `Leads p x n chain r`: the search for `x` along the chain comes to `r`, where `n` lookups can
stand inside each other. Of each module of the chain, the modules that it asks before the next one
have an answer, or else they have none and the search goes on from the next. -/
def Leads (p : Program) (x : String) : Nat → List String → Meaning → Prop
  | n + 1, m :: m' :: ms, r =>
    Answers (.ofProgram p) n (.stars (p.askedBefore m m') x) (some r) ∨
      (Answers (.ofProgram p) n (.stars (p.askedBefore m m') x) none ∧ Leads p x n (m' :: ms) r)
  | _ + 1, [m], r =>
    ∃ u c, p.get? m = some u ∧ u.Binds x (.class_ c) ∧
      r = .declaration ⟨c, m, u.path, true, u.isStub⟩
  | _, _, _ => False

section
variable {p : Program} {x m m' : String} {ms : List String}

theorem leads_zero (chain : List String) (r : Meaning) : ¬ Leads p x 0 chain r := by
  intro h
  unfold Leads at h
  exact h

/-- what a module asks, up to the next module of a chain and from there on -/
theorem exists_stars_eq {u : SourceUnit} (hu : p.get? m = some u)
    (hm' : m' ∈ (Scope.ofUnit u).stars) :
    ∃ after, (Scope.ofUnit u).stars = p.askedBefore m m' ++ m' :: after := by
  have hbefore : p.askedBefore m m' = (Scope.ofUnit u).stars.takeWhile (· != m') := by
    unfold Program.askedBefore
    rw [hu]
  obtain ⟨front, after, hsplit, hfront⟩ := List.eq_append_cons_of_mem hm'
  refine ⟨after, ?_⟩
  rw [hbefore, hsplit, takeWhile_ne_append_cons hfront]

/-- a name that is found at the end of a chain never comes to nothing -/
theorem StarChain.not_none (h : StarChain p x (m :: ms)) (n : Nat) :
    ¬ Answers (.ofProgram p) n (.name m x) none := by
  generalize hchain : m :: ms = chain at h
  induction h generalizing m ms n with
  | last hu hx =>
    obtain ⟨rfl, rfl⟩ := List.cons.inj hchain
    rintro ⟨d, _, hev⟩
    cases (hev.unique (.class_ (Program.index_get? hu) hx)).2
  | link hu hfree hm' _ ih =>
    obtain ⟨rfl, rfl⟩ := List.cons.inj hchain
    obtain ⟨after, hstars⟩ := exists_stars_eq hu hm'
    cases n with
    | zero => exact answers_zero_name none
    | succ n =>
      rw [answers_name_free (Program.index_get? hu) hfree]
      rintro (⟨s, hs, _⟩ | ⟨hnone, _⟩)
      · cases hs
      · rw [hstars, answers_stars_append, answers_stars_cons] at hnone
        rcases hnone with ⟨s, hs, _⟩ | ⟨_, ⟨s, hs, _⟩ | ⟨hnext, _⟩⟩
        · cases hs
        · cases hs
        · exact ih n rfl hnext

/-- The rules give what the search along the chain comes to. The induction is on the chain; the
depth goes down with it. -/
theorem StarChain.answers_iff_leads (h : StarChain p x (m :: ms)) (n : Nat) (r : Meaning) :
    Answers (.ofProgram p) n (.name m x) (some r) ↔ Leads p x n (m :: ms) r := by
  generalize hchain : m :: ms = chain at h
  induction h generalizing m ms n with
  | @last _ c u hu hx =>
    obtain ⟨rfl, rfl⟩ := List.cons.inj hchain
    have hclass := Evaluates.class_ (Program.index_get? hu) hx
    cases n with
    | zero => exact iff_of_false (answers_zero_name _) (leads_zero _ r)
    | succ n =>
      rw [Leads]
      constructor
      · rintro ⟨d, _, hev⟩
        exact ⟨u, c, hu, hx, Option.some.inj (hev.unique hclass).2⟩
      · rintro ⟨u', c', hu', hx', rfl⟩
        exact ⟨1, by omega, .class_ (Program.index_get? hu') hx'⟩
  | link hu hfree hm' hrest ih =>
    obtain ⟨rfl, rfl⟩ := List.cons.inj hchain
    obtain ⟨after, hstars⟩ := exists_stars_eq hu hm'
    cases n with
    | zero => exact iff_of_false (answers_zero_name _) (leads_zero _ r)
    | succ n =>
      have hnext := hrest.not_none n
      rw [Leads, ← ih n rfl, answers_name_free (Program.index_get? hu) hfree]
      simp only [hstars, answers_stars_append, answers_stars_cons, Option.some.injEq,
        exists_eq_left', hnext, false_and, and_false, or_false, reduceCtorEq, exists_false]

/-- if nothing that is asked before the modules of the chain has the name, the search comes to its
end -/
theorem StarChain.leads_of_silent (h : StarChain p x (m :: ms)) (n : Nat) (hn : ms.length ≤ n)
    (hsilent : ∀ front a b rest, m :: ms = front ++ a :: b :: rest →
      Answers (.ofProgram p) (n - front.length) (.stars (p.askedBefore a b) x) none) :
    ∃ s, Leads p x (n + 1) (m :: ms) (.declaration s) ∧ s.isClass = true ∧
    (m :: ms).getLast? = some s.module := by
  generalize hchain : m :: ms = chain at h
  induction h generalizing m ms n with
  | @last _ c u hu hx =>
    obtain ⟨rfl, rfl⟩ := List.cons.inj hchain
    refine ⟨⟨c, m, u.path, true, u.isStub⟩, ?_, rfl, rfl⟩
    rw [Leads]
    exact ⟨u, c, hu, hx, rfl⟩
  | @link a b rest u hu hfree hm' hrest ih =>
    obtain ⟨rfl, rfl⟩ := List.cons.inj hchain
    rw [List.length_cons] at hn
    obtain ⟨k, rfl⟩ : ∃ k, n = k + 1 := ⟨n - 1, by omega⟩
    obtain ⟨s, hleads, hclass, hend⟩ := ih k (by omega) (fun front a' b' rest' heq => by
      have hlink := hsilent (m :: front) a' b' rest' (by rw [heq, List.cons_append])
      rwa [List.length_cons, Nat.add_sub_add_right] at hlink) rfl
    refine ⟨s, ?_, hclass, ?_⟩
    · rw [Leads]
      exact Or.inr ⟨hsilent [] m b rest rfl, hleads⟩
    · rw [List.getLast?_cons_cons]
      exact hend

end

/-! ## resolution -/

/-- A name at the head of a chain of star imports. Resolution gives a declaration, or a module and
so nothing, just if the search along the chain comes to one, and is refused just if it comes to
nothing: what is asked before a module of the chain then meets itself or is too deep. If nothing
that is asked before has the name, within the depth that is left, and the chain has less than 64
links, the class at its end is found. -/
theorem star_chain_resolution (p : Program) {x m : String} {ms : List String}
    (h : StarChain p x (m :: ms)) (pos : Code.Position) :
    (∀ s, (Index.ofProgram p).resolve m (.name pos x) = .ok (some s) ↔
      Leads p x 64 (m :: ms) (.declaration s)) ∧
    ((Index.ofProgram p).resolve m (.name pos x) = .ok none ↔
      ∃ k, Leads p x 64 (m :: ms) (.module k)) ∧
    ((∃ err, (Index.ofProgram p).resolve m (.name pos x) = .error err) ↔
      ∀ r, ¬ Leads p x 64 (m :: ms) r) ∧
    (ms.length < 64 →
      (∀ front a b rest, m :: ms = front ++ a :: b :: rest →
        Answers (.ofProgram p) (63 - front.length) (.stars (p.askedBefore a b) x) none) →
      ∃ s, (Index.ofProgram p).resolve m (.name pos x) = .ok (some s) ∧ s.isClass = true ∧
        (m :: ms).getLast? = some s.module) := by
  have hok : ∀ s, (Index.ofProgram p).resolve m (.name pos x) = .ok s ↔
      ∃ r, Leads p x 64 (m :: ms) r ∧ r.symbol? = s := by
    intro s
    rw [resolve_eq_ok_iff]
    constructor
    · rintro ⟨r, hr, rfl⟩
      rw [answers_expr_name] at hr
      cases r with
      | none => exact absurd hr (h.not_none 64)
      | some r => exact ⟨r, (h.answers_iff_leads 64 r).mp hr, rfl⟩
    · rintro ⟨r, hr, rfl⟩
      exact ⟨some r, (answers_expr_name pos _).mpr ((h.answers_iff_leads 64 r).mpr hr), rfl⟩
  have hfound : ∀ s, (Index.ofProgram p).resolve m (.name pos x) = .ok (some s) ↔
      Leads p x 64 (m :: ms) (.declaration s) := by
    intro s
    rw [hok]
    constructor
    · rintro ⟨r, hr, hs⟩
      cases r with
      | declaration s' =>
        cases hs
        exact hr
      | module k => cases hs
    · exact fun hr => ⟨_, hr, rfl⟩
  refine ⟨hfound, ?_, ?_, fun hlen hsilent => ?_⟩
  · rw [hok]
    constructor
    · rintro ⟨r, hr, hs⟩
      cases r with
      | declaration s' => cases hs
      | module k => exact ⟨k, hr⟩
    · rintro ⟨k, hr⟩
      exact ⟨_, hr, rfl⟩
  · constructor
    · rintro ⟨err, herr⟩ r hr
      rw [(hok _).mpr ⟨r, hr, rfl⟩] at herr
      cases herr
    · intro hnone
      cases hres : (Index.ofProgram p).resolve m (.name pos x) with
      | error err => exact ⟨err, rfl⟩
      | ok s =>
        obtain ⟨r, hr, _⟩ := (hok s).mp hres
        exact absurd hr (hnone r)
  · obtain ⟨s, hleads, hclass, hend⟩ := h.leads_of_silent 63 (by omega) hsilent
    exact ⟨s, (hfound s).mpr hleads, hclass, hend⟩

/-! ## modules that take all names of each other -/

/-- Two modules that ask each other first: the search meets itself, whatever else they would ask. -/
theorem Index.resolve_circular {index : Index} {a b x : String} {entry entry' : IndexEntry}
    {ms ms' : List String} (hne : a ≠ b) (ha : index.get? a = some entry)
    (hb : index.get? b = some entry') (hxa : entry.scope.bindings.get? x = none)
    (hxb : entry'.scope.bindings.get? x = none) (hstars : entry.scope.stars = b :: ms)
    (hstars' : entry'.scope.stars = a :: ms') (pos : Code.Position) :
    index.resolve a (.name pos x) = .error (.cycle x a) := by
  have hfresh : (b, x) ∉ [(a, x)] := by
    simp [hne.symm]
  have hagain : ∀ n, index.resolveName n [(b, x), (a, x)] a x = .error (.cycle x a) := by
    intro n
    cases n <;> simp [resolveName]
  have hback : ∀ n, index.resolveName (n + 1) [(a, x)] b x = .error (.cycle x a) := by
    intro n
    rw [resolveName, if_neg hfresh]
    simp only [step, hb, hxb, hstars', firstFound, hagain]
  have hlookup : ∀ n, index.resolveName (n + 2) [] a x = .error (.cycle x a) := by
    intro n
    rw [resolveName, if_neg List.not_mem_nil]
    simp only [step, ha, hxa, hstars, firstFound, hback]
  simp only [resolve, resolveExprWith, show index.resolveName maxDepth [] a x = _ from hlookup 62]

/-- does the unit of the module leave the name free and take all names of these modules? -/
def Program.checkStars (p : Program) (m x : String) (stars : List String) : Bool :=
  (p.get? m).any fun u =>
    ((Scope.ofUnit u).bindings.get? x).isNone && (Scope.ofUnit u).stars == stars

theorem Program.exists_stars {p : Program} {m x : String} {stars : List String}
    (h : p.checkStars m x stars = true) :
    ∃ u, p.get? m = some u ∧ (Scope.ofUnit u).bindings.get? x = none ∧
    (Scope.ofUnit u).stars = stars := by
  obtain ⟨u, hu, hcheck⟩ := (Option.any_eq_true _ _).mp h
  rw [Bool.and_eq_true, Option.isNone_iff_eq_none, beq_iff_eq] at hcheck
  exact ⟨u, hu, hcheck⟩

/-- a module with the given text, one that takes all its names, and one with a class -/
def circularFiles (file : String) : Program :=
  ⟨Program.memoryRoot,
    (Program.unitsOf Program.memoryRoot
      [(Program.memoryRoot.join (.ofString "a.py"), file),
        (Program.memoryRoot.join (.ofString "b.py"), "from a import *\n"),
        (Program.memoryRoot.join (.ofString "c.py"), "class C:\n    pass\n")]).toOption.getD [],
    true⟩

/-- the module that has the class is asked first -/
def classFirst : Program := circularFiles "from c import *\nfrom b import *\n"

/-- the module that asks back is asked first -/
def circleFirst : Program := circularFiles "from b import *\nfrom c import *\n"

theorem star_chain_resolution_classFirst :
    StarChain classFirst "C" ["a", "c"] ∧
      ∃ s, (Index.ofProgram classFirst).resolve "a" (.name default "C") = .ok (some s) ∧
        s.isClass = true ∧ s.module = "c" := by
  have hcheck : classFirst.checkStars "a" "C" ["c", "b"] = true ∧
      classFirst.checkBinds "c" "C" (.class_ "C") = true := by
    decide +kernel
  obtain ⟨u, hu, hfree, hstars⟩ := Program.exists_stars hcheck.1
  obtain ⟨v, hv, hclass⟩ := Program.exists_binds hcheck.2
  have hchain : StarChain classFirst "C" ["a", "c"] :=
    .link hu hfree (by rw [hstars]; exact List.mem_cons_self ..) (.last hv hclass)
  have hbefore : classFirst.askedBefore "a" "c" = [] := by
    unfold Program.askedBefore
    rw [hu]
    show (Scope.ofUnit u).stars.takeWhile (· != "c") = []
    rw [hstars]
    rfl
  obtain ⟨_, _, _, hsilent⟩ := star_chain_resolution classFirst hchain default
  obtain ⟨s, hs, hisClass, hend⟩ := hsilent (by decide) (by
    intro front a b rest heq
    cases front with
    | nil =>
      obtain ⟨rfl, hrest⟩ := List.cons.inj heq
      obtain ⟨rfl, _⟩ := List.cons.inj hrest
      rw [hbefore]
      exact answers_stars_nil
    | cons k front =>
      have hlen := congrArg List.length heq
      simp only [List.length_cons, List.length_append, List.length_nil] at hlen
      omega)
  exact ⟨hchain, s, hs, hisClass, (Option.some.inj hend).symm⟩

/-- The class stands at the end of a chain of one star import, and is not found: a module that is
asked before asks back. -/
theorem star_reexport_refused :
    StarChain circleFirst "C" ["a", "c"] ∧ ["a", "c"].Nodup ∧
      (Index.ofProgram circleFirst).resolve "a" (.name default "C") = .error (.cycle "C" "a") := by
  have hcheck : circleFirst.checkStars "a" "C" ["b", "c"] = true ∧
      circleFirst.checkStars "b" "C" ["a"] = true ∧
      circleFirst.checkBinds "c" "C" (.class_ "C") = true := by
    decide +kernel
  obtain ⟨u, hu, hfree, hstars⟩ := Program.exists_stars hcheck.1
  obtain ⟨u', hu', hfree', hstars'⟩ := Program.exists_stars hcheck.2.1
  obtain ⟨v, hv, hclass⟩ := Program.exists_binds hcheck.2.2
  refine ⟨.link hu hfree (by rw [hstars]; decide) (.last hv hclass), by decide, ?_⟩
  exact Index.resolve_circular (by decide) (Program.index_get? hu) (Program.index_get? hu') hfree
    hfree' hstars hstars'
    default

end Archetype
