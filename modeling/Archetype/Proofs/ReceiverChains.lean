import Archetype.Proofs.Extraction
import Archetype.Proofs.FluentStatements

/-!
# Declarations made in chains

In `w.register_validator(A).register_validator(B)` the call for `A` is made first, but both calls
start at the same place. The search by levels meets the outer call first, and sorting by places
leaves it there, so the declarations of a chain are listed from its last call to its first.

* `chain_sublist_callsOf`     the search meets the calls of a chain from the outermost on;
* `ListsInTurn`               what the calls declare is listed in their order;
* `outermost_call_first`      the order in which the declarations of a chain are listed;
* `inner_call_listed_second`  a chain of two calls.
-/

namespace Archetype

open Code (Expr CallSite Node Position Stmt callNodes callsOf hasShortFormats parseModule?)

/-! ## chains among the calls of a module -/

theorem flatten_sublist_of_child {n m : Node} (h : m ∈ n.children) :
    (n.call?.toList ++ m.levels.flatten).Sublist n.levels.flatten := by
  rw [Node.levels_eq n, List.flatten_cons]
  exact (List.Sublist.refl _).append (Code.flatten_sublist_mergeAll (List.mem_map_of_mem h))

/-- the search meets an expression's own call before those of its receiver -/
theorem chain_sublist_levels (e : Expr) : e.chain.Sublist e.levels.flatten := by
  fun_induction Expr.chain e with
  | case1 pos func args keywords ih =>
    have hfunc : Node.expr func ∈ (Node.expr (.call pos func args keywords)).children :=
      List.mem_cons_self
    exact (ih.cons_cons _).trans (flatten_sublist_of_child hfunc)
  | case2 pos value attr ih =>
    have hvalue : Node.expr value ∈ (Node.expr (.member pos value attr)).children :=
      List.mem_cons_self
    exact ih.trans (flatten_sublist_of_child hvalue)
  | case3 pos value index ih =>
    have hvalue : Node.expr value ∈ (Node.expr (.subscript pos value index)).children :=
      List.mem_cons_self
    exact ih.trans (flatten_sublist_of_child hvalue)
  | case4 => exact List.nil_sublist _

theorem chain_sublist_callsOf {body : List Stmt} {c : CallSite} (h : c ∈ callNodes body) :
    c.expr.chain.Sublist (callsOf body) :=
  (chain_sublist_levels c.expr).trans (Code.sublist_callsOf h)

/-- if no call of a module starts behind a call of its chain, the places of a chain never go back -/
theorem pairwise_chain {body : List Stmt}
    (hbody : ∀ c ∈ callNodes body, ∀ d ∈ c.func.chain, c.pos.le d.pos = true) {e : Expr}
    (he : ∀ c ∈ e.chain, c ∈ callNodes body) :
    e.chain.Pairwise fun c d => c.pos.le d.pos = true := by
  fun_induction Expr.chain e with
  | case1 pos func args keywords ih =>
    obtain ⟨hown, hfunc⟩ := List.forall_mem_cons.mp he
    exact List.pairwise_cons.mpr ⟨hbody _ hown, ih hfunc⟩
  | case2 pos value attr ih => exact ih he
  | case3 pos value index ih => exact ih he
  | case4 => exact List.Pairwise.nil

/-! ## the order of declarations -/

/-- a call together with its shape -/
def withShape? (c : CallSite) : Option (CallSite × Shape) := (classify? c).map fun s => (c, s)

theorem filterMap_withShape? {β : Type} (read : CallSite → Shape → Option β)
    (calls : List CallSite) :
    (calls.filterMap withShape?).filterMap (fun p => read p.1 p.2)
      = calls.filterMap (declaredBy read) := by
  rw [List.filterMap_filterMap]
  refine List.filterMap_congr fun c _ => ?_
  unfold withShape? declaredBy
  cases classify? c <;> rfl

theorem pairwise_withShape? {calls : List CallSite}
    (h : calls.Pairwise fun c d => c.pos.le d.pos = true) :
    (calls.filterMap withShape?).Pairwise fun p q => p.1.pos.le q.1.pos = true := by
  refine List.Pairwise.filterMap withShape? (fun c d hle p hp q hq => ?_) h
  obtain ⟨_, _, rfl⟩ := Option.map_eq_some_iff.mp hp
  obtain ⟨_, _, rfl⟩ := Option.map_eq_some_iff.mp hq
  exact hle

/-- calls that are met in an order that agrees with their places are read in that order -/
theorem declared_sublist {β : Type} (read : CallSite → Shape → Option β) {body : List Stmt}
    {calls : List CallSite} (hsub : calls.Sublist (callsOf body))
    (hplaces : calls.Pairwise fun c d => c.pos.le d.pos = true) :
    (calls.filterMap (declaredBy read)).Sublist
      ((orderedCalls body).filterMap (declaredBy read)) := by
  have hshaped : (calls.filterMap withShape?).Sublist (Declarations.orderedShapes body) :=
    List.sublist_mergeSort (fun a b c => Position.le_trans a.1.pos b.1.pos c.1.pos)
      (fun a b => Position.le_total a.1.pos b.1.pos) (pairwise_withShape? hplaces)
        (hsub.filterMap withShape?)
  rw [← filterMap_orderedShapes, ← filterMap_withShape?]
  exact hshaped.filterMap _

/-- if all calls are met in the order of their places, they are read as they are met -/
theorem declared_eq_of_pairwise {β : Type} (read : CallSite → Shape → Option β) {body : List Stmt}
    (hplaces : (callsOf body).Pairwise fun c d => c.pos.le d.pos = true) :
    (orderedCalls body).filterMap (declaredBy read)
      = (callsOf body).filterMap (declaredBy read) := by
  have hshapes : Declarations.orderedShapes body = (callsOf body).filterMap withShape? :=
    List.mergeSort_of_pairwise (pairwise_withShape? hplaces)
  rw [← filterMap_orderedShapes, hshapes, filterMap_withShape?]

/-- in a row that is in order, what may not stand behind another thing stands before it -/
theorem pair_sublist_of_not_rel {α : Type} {rel : α → α → Prop} {l : List α} {a b : α}
    (hl : l.Pairwise rel) (hrefl : rel a a) (ha : a ∈ l) (hb : b ∈ l) (hab : ¬ rel a b) :
    [b, a].Sublist l := by
  induction l with
  | nil => cases ha
  | cons x l ih =>
    obtain ⟨hx, hl⟩ := List.pairwise_cons.mp hl
    rcases List.mem_cons.mp ha with rfl | hal
    · rcases List.mem_cons.mp hb with rfl | hbl
      · exact absurd hrefl hab
      · exact absurd (hx b hbl) hab
    · rcases List.mem_cons.mp hb with rfl | hbl
      · exact (List.singleton_sublist.mpr hal).cons_cons _
      · exact (ih hl hal hbl).cons x

/-- of two calls the one that starts first is read first -/
theorem declared_pair_sublist {β : Type} (read : CallSite → Shape → Option β) {body : List Stmt}
    {c d : CallSite} (hc : c ∈ callNodes body) (hd : d ∈ callNodes body)
    (hplaces : c.pos.le d.pos = false) :
    ([d, c].filterMap (declaredBy read)).Sublist
      ((orderedCalls body).filterMap (declaredBy read)) := by
  have hordered : ∀ {x : CallSite} {b : β}, x ∈ callNodes body → declaredBy read x = some b →
      x ∈ orderedCalls body := by
    intro x b hx hdeclared
    obtain ⟨s, hs, _⟩ := Option.bind_eq_some_iff.mp hdeclared
    refine (orderedCalls_perm body).mem_iff.mpr (List.mem_filter.mpr ⟨hx, ?_⟩)
    rw [hs, Option.isSome_some]
  cases hfirst : declaredBy read d with
  | none =>
    cases hsecond : declaredBy read c with
    | none => simp [hfirst, hsecond]
    | some v =>
      have hmem := List.mem_filterMap.mpr ⟨c, hordered hc hsecond, hsecond⟩
      simpa [hfirst, hsecond] using hmem
  | some w =>
    cases hsecond : declaredBy read c with
    | none =>
      have hmem := List.mem_filterMap.mpr ⟨d, hordered hd hfirst, hfirst⟩
      simpa [hfirst, hsecond] using hmem
    | some v =>
      have hnot : ¬ c.pos.le d.pos = true := by rw [hplaces]; exact nofun
      exact (pair_sublist_of_not_rel (orderedCalls_pairwise body) (Position.le_refl c.pos)
        (hordered hc hsecond)
        (hordered hd hfirst) hnot).filterMap _

/-- what the calls declare is listed in their order, in each of the three lists -/
structure ListsInTurn (r : Resolver) (u : SourceUnit) (calls : List CallSite) : Prop where
  validators : (calls.filterMap (declaredBy r.validatorIn?)).Sublist
    (Declarations.ofUnit u r).validators
  templates : (calls.filterMap (declaredBy r.templateIn?)).Sublist
    (Declarations.ofUnit u r).templates
  queries : (calls.filterMap (declaredBy r.queryIn?)).Sublist (Declarations.ofUnit u r).queries

theorem listsInTurn_of_forall {r : Resolver} {u : SourceUnit} {calls : List CallSite}
    (h : ∀ {β : Type} (read : CallSite → Shape → Option β),
      (calls.filterMap (declaredBy read)).Sublist
        ((orderedCalls u.body).filterMap (declaredBy read))) :
    ListsInTurn r u calls where
  validators := by rw [validators_ofUnit]; exact h _
  templates := by rw [templates_ofUnit]; exact h _
  queries := by rw [queries_ofUnit]; exact h _

/-- The calls of a chain are listed from the outermost, which is written and made last, to the
innermost, for chains of any length in any text whose format literals stand on one line. In any
tree, the outer of two calls of a chain is listed first just where it does not start behind the
inner one. -/
theorem outermost_call_first (r : Resolver) {u : SourceUnit} {c : CallSite}
    (hc : c ∈ callNodes u.body) :
    (∀ cs, hasShortFormats cs = true → parseModule? cs = some u.body →
      ListsInTurn r u (c :: c.func.chain)) ∧
    ∀ inner ∈ c.func.chain,
      (c.pos.le inner.pos = true → ListsInTurn r u [c, inner]) ∧
      (c.pos.le inner.pos = false → ListsInTurn r u [inner, c]) := by
  have hchain : (c :: c.func.chain).Sublist (callsOf u.body) := chain_sublist_callsOf hc
  have hcalls : ∀ d ∈ c :: c.func.chain, d ∈ callNodes u.body :=
    fun d hd => (Code.callsOf_perm u.body).mem_iff.mp (hchain.subset hd)
  constructor
  · intro cs hshort hparse
    have hfluent : ∀ c ∈ callNodes u.body, ∀ d ∈ c.func.chain, c.pos.le d.pos = true :=
      fun c hc d hd => Code.le_pos_of_mem_chain hshort hparse hc hd
    have hplaces : (c.expr.chain).Pairwise fun c d => c.pos.le d.pos = true :=
      pairwise_chain hfluent hcalls
    exact listsInTurn_of_forall fun read => declared_sublist read hchain hplaces
  · intro inner hinner
    have hpair : [c, inner].Sublist (callsOf u.body) :=
      ((List.singleton_sublist.mpr hinner).cons_cons c).trans hchain
    constructor
    · intro hle
      exact listsInTurn_of_forall fun read =>
        declared_sublist read hpair (List.pairwise_pair.mpr hle)
    · intro hlt
      have hmem := hcalls inner (List.mem_cons_of_mem _ hinner)
      exact listsInTurn_of_forall fun read => declared_pair_sublist read hc hmem hlt

/-! ## two chains -/

/-- the component that a call says something of, spelled as it is -/
def subjectOf (c : CallSite) : Option String :=
  (declaredBy (Resolver.validatorIn? ⟨"main", none⟩) c).map fun v => v.subject.name

/-- the calls of a module in the order of the search: each with its place, and with its chain -/
def chainSummary (body : List Stmt) :
    List ((Position × Option String) × List (Position × Option String)) :=
  (callsOf body).map fun c => ((c.pos, subjectOf c), c.func.chain.map fun d => (d.pos, subjectOf d))

/-- the unit of a module -/
def mainUnit (body : List Stmt) : SourceUnit := ⟨Program.memoryRoot, "main", "", body⟩

/-- the first call that the search meets, with what the summary tells of it -/
theorem exists_call_of_chainSummary {cs : List Char} {place : Position} {subject : Option String}
    {chain : List (Position × Option String)}
    {more : List ((Position × Option String) × List (Position × Option String))}
    (h : (parseModule? cs).map chainSummary = some (((place, subject), chain) :: more)) :
    ∃ body, parseModule? cs = some body ∧ chainSummary body = ((place, subject), chain) :: more ∧
      ∃ c ∈ callNodes body, c.pos = place ∧ subjectOf c = subject ∧
        (c.func.chain.map fun d => (d.pos, subjectOf d)) = chain := by
  obtain ⟨body, hparse, hbody⟩ := Option.map_eq_some_iff.mp h
  obtain ⟨c, rest, hcalls, hc, _⟩ := List.map_eq_cons_iff.mp hbody
  have hmem : c ∈ callNodes body := by
    refine (Code.callsOf_perm body).mem_iff.mp ?_
    rw [hcalls]
    exact List.mem_cons_self
  cases hc
  exact ⟨body, hparse, hbody, c, hmem, rfl, rfl, rfl⟩

/-- a call for `C` around one for `B` around one for `A` -/
def threeCalls : String :=
  "(w.register_validator(A)\n  .register_validator(B)[0]\n  .register_validator(C))\n"

theorem chainSummary_threeCalls :
    hasShortFormats threeCalls.toList = true ∧ (parseModule? threeCalls.toList).map chainSummary
      = some [((⟨1, 1⟩, some "C"), [(⟨1, 1⟩, some "B"), (⟨1, 1⟩, some "A")]),
        ((⟨1, 1⟩, some "B"), [(⟨1, 1⟩, some "A")]), ((⟨1, 1⟩, some "A"), [])] := by
  decide +kernel

/-- a call for `B` around one for `A` whose receiver is a literal of two lines, in the field of a
format literal: the literal counts its column from the bracket, and stands before the call around
it -/
def fieldCalls : String :=
  "x = f'''\x7b(\"\"\"a\nb\"\"\".register_validator(A)).register_validator(B)\x7d'''\n"

theorem chainSummary_fieldCalls :
    (parseModule? fieldCalls.toList).map chainSummary
      = some [((⟨1, 9⟩, some "B"), [(⟨1, 2⟩, some "A")]), ((⟨1, 2⟩, some "A"), [])] := by
  decide +kernel

/-- three calls are listed from the last on, two in a field of a format literal of two lines are
not -/
theorem outermost_call_first_threeCalls :
    (∃ body, parseModule? threeCalls.toList = some body ∧ hasShortFormats threeCalls.toList = true ∧
      ∃ c ∈ callNodes body, (c :: c.func.chain).map subjectOf = [some "C", some "B", some "A"] ∧
        ListsInTurn ⟨"main", none⟩ (mainUnit body) (c :: c.func.chain)) ∧
    ∃ body, parseModule? fieldCalls.toList = some body ∧
      ∃ c ∈ callNodes body, ∃ inner ∈ c.func.chain, subjectOf c = some "B" ∧
      subjectOf inner = some "A" ∧
        ListsInTurn ⟨"main", none⟩ (mainUnit body) [inner, c] := by
  constructor
  · obtain ⟨hshort, hsummary⟩ := chainSummary_threeCalls
    obtain ⟨body, hparse, _, c, hc, _, hsubject, hchain⟩ := exists_call_of_chainSummary hsummary
    have hsubjects : c.func.chain.map subjectOf = [some "B", some "A"] := by
      have hsnd := congrArg (List.map Prod.snd) hchain
      rwa [List.map_map] at hsnd
    refine ⟨body, hparse, hshort, c, hc, ?_, ?_⟩
    · rw [List.map_cons, hsubject, hsubjects]
    · exact (outermost_call_first (u := mainUnit body) ⟨"main", none⟩ hc).1 _ hshort hparse
  · obtain ⟨body, hparse, _, c, hc, hpos, hsubject, hchain⟩ :=
      exists_call_of_chainSummary chainSummary_fieldCalls
    obtain ⟨inner, hinner, hpair⟩ := List.mem_map.mp (hchain ▸ List.mem_cons_self)
    obtain ⟨hplace, hname⟩ := Prod.mk.inj hpair
    refine ⟨body, hparse, c, hc, inner, hinner, hsubject, hname, ?_⟩
    refine ((outermost_call_first (u := mainUnit body) ⟨"main", none⟩ hc).2 inner hinner).2 ?_
    rw [hpos, hplace]
    rfl

/-- a call for `B` behind one for `A` -/
def twoCalls : String := "w.register_validator(A).register_validator(B)\n"

theorem chainSummary_twoCalls :
    (parseModule? twoCalls.toList).map chainSummary
      = some [((⟨1, 0⟩, some "B"), [(⟨1, 0⟩, some "A")]), ((⟨1, 0⟩, some "A"), [])] := by
  decide +kernel

/-- in a chain of two calls, what the first call declares is listed second -/
theorem inner_call_listed_second :
    ∃ body, parseModule? twoCalls.toList = some body ∧
      ∃ outer ∈ callNodes body, ∃ inner ∈ outer.func.chain, subjectOf outer = some "B" ∧
      subjectOf inner = some "A" ∧
        (Declarations.ofUnit (mainUnit body) ⟨"main", none⟩).validators.map
          (fun v => v.subject.name) = ["B", "A"] := by
  obtain ⟨body, hparse, hbody, outer, houter, _, hsubject, hchain⟩ :=
    exists_call_of_chainSummary chainSummary_twoCalls
  obtain ⟨inner, hinner, hpair⟩ := List.mem_map.mp (hchain ▸ List.mem_cons_self)
  refine ⟨body, hparse, outer, houter, inner, hinner, hsubject, (Prod.mk.inj hpair).2, ?_⟩
  have hplaces : (callsOf body).Pairwise fun c d => c.pos.le d.pos = true := by
    have hfst : (callsOf body).map CallSite.pos = [⟨1, 0⟩, ⟨1, 0⟩] := by
      have hmap := congrArg (List.map fun entry => entry.1.1) hbody
      rwa [chainSummary, List.map_map] at hmap
    rw [← List.pairwise_map (f := CallSite.pos) (R := fun p q => p.le q = true), hfst]
    decide
  have hnames : (callsOf body).filterMap subjectOf = ["B", "A"] := by
    have hmap := congrArg (List.filterMap fun entry => entry.1.2) hbody
    rwa [chainSummary, List.filterMap_map] at hmap
  rw [validators_ofUnit, mainUnit, declared_eq_of_pairwise _ hplaces, List.map_filterMap]
  exact hnames

end Archetype
