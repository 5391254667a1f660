import Archetype.Proofs.FluentStatements
import Archetype.Proofs.Loading
import Archetype.Proofs.SessionState
import Archetype.Proofs.StraightLine

/-!
# Ways to compose

The same components can be listed in a template, attached in one chain, or attached one by one to an
entity that has a name. All three are checked alike: the same problems are reported of the same
components, in the same order.

* `Problem.triple?`, `reportedTriples`   what a report says, without its place and without what is
                                         composed;
* `ListedCode`, `ChainedCode`, `StepwiseCode`   the three ways;
* `triples_replay`        what a replay reports depends only on the names;
* `templates_listed`      the template that is found in the code;
* `problems_listed`, `problems_chained`, `problems_stepwise`   each way is checked by a replay;
* `Program.isSpelled_of_load`   no identifier of a program that was loaded is empty;
* `compositions_agree`    the three ways report the same.
-/

namespace Archetype

open Code

/-! ## what is reported -/

/-- the kind of a problem of a composition, the component, and what it lacks or conflicts with -/
def Problem.triple? : Problem → Option (Kind × String × String)
  | .missingDependency _ component dependency => some (.missingDependency, component, dependency)
  | .conflictingComponent _ component conflict => some (.conflictingComponent, component, conflict)
  | _ => none

/-- the triples of the findings that are made of placed problems -/
def reportedTriples (severity : Rule → Severity) (path : Path) (found : List Placed) :
    List (Kind × String × String) :=
  (found.filterMap (Placed.finding? severity path)).filterMap (·.problem.triple?)

section
variable (severity : Rule → Severity) (path : Path) (g : ConstraintGraph)

theorem reportedTriples_append (found found' : List Placed) :
    reportedTriples severity path (found ++ found')
      = reportedTriples severity path found ++ reportedTriples severity path found' := by
  unfold reportedTriples
  rw [List.filterMap_append, List.filterMap_append]

/-- the triple of a finding is that of its problem -/
theorem triple?_finding? (p : Placed) : ((p.finding? severity path).bind (·.problem.triple?))
    = (severity p.problem.rule).level?.bind fun _ => p.problem.triple? := by
  unfold Placed.finding?
  cases (severity p.problem.rule).level? <;> rfl

/-- what is composed, and where, does not show in the triples -/
theorem triples_attachProblems (composite composite' : Composite) (present : Names)
    (component : String) (pos pos' : Position) :
    reportedTriples severity path
      ((attachProblems g composite present component).map (⟨·, some pos⟩))
      = reportedTriples severity path
        ((attachProblems g composite' present component).map (⟨·, some pos'⟩)) := by
  simp only [reportedTriples, attachProblems, List.map_append, List.map_map, List.filterMap_append,
    List.filterMap_map, List.filterMap_filterMap, Function.comp_apply, triple?_finding?]
  rfl

theorem triples_replay (composite composite' : Composite) (present : Names)
    (refs refs' : List Reference) (h : refs.map Mention.name = refs'.map Mention.name) :
    reportedTriples severity path (replay g composite present refs)
      = reportedTriples severity path (replay g composite' present refs') := by
  induction refs generalizing present refs' with
  | nil =>
    rw [List.map_nil, eq_comm, List.map_eq_nil_iff] at h
    rw [h]
    rfl
  | cons r refs ih =>
    cases refs' with
    | nil => cases h
    | cons r' refs' =>
      obtain ⟨hname, hrest⟩ := List.cons.inj h
      rw [replay, replay, reportedTriples_append, reportedTriples_append, hname, ih _ refs' hrest,
        triples_attachProblems severity path g composite composite' present r'.name r.pos r'.pos]

end

/-! ## in a template -/

/-- `world.register_template(label, {"components": [C1, ..]})`, with the place of each component -/
structure ListedCode where
  pos : Position
  world : Dotted
  labelPos : Position
  label : Text.CodePoints
  optionsPos : Position
  keyPos : Position
  rowPos : Position
  kind : Row
  entries : List (Dotted × Position)

namespace ListedCode

def components (c : ListedCode) : List Dotted := c.entries.map Prod.fst

/-- the text `components` -/
def key : Text.CodePoints := .ofChars "components".toList

def items (c : ListedCode) : Expr := .row c.rowPos c.kind (c.entries.map fun e => e.1.expr e.2)

def site (c : ListedCode) : CallSite :=
  ⟨c.pos, .member c.pos (c.world.expr c.pos) "register_template",
    [.str c.labelPos c.label, .dict c.optionsPos [.pair (.str c.keyPos key) c.items]], []⟩

def stmt (c : ListedCode) : Stmt := .evaluate [c.site.expr]

end ListedCode

/-- no call stands at any depth -/
def Code.Levels.Silent (levels : Levels) : Prop := levels.flatten = []

theorem Code.Levels.Silent.below {levels : Levels} (h : levels.Silent) :
    (Levels.below levels).Silent := h

theorem Code.Levels.Silent.merge {xs ys : Levels} (hx : xs.Silent) (hy : ys.Silent) :
    (Levels.merge xs ys).Silent := by
  refine List.eq_nil_iff_forall_not_mem.mpr fun c hc => ?_
  rcases Levels.mem_flatten_merge.mp hc with hc | hc
  · exact List.eq_nil_iff_forall_not_mem.mp hx c hc
  · exact List.eq_nil_iff_forall_not_mem.mp hy c hc

/-- there is no call in a dotted name -/
theorem Dotted.silent_levels (d : Dotted) (pos : Position) : (d.expr pos).levels.Silent := by
  induction d with
  | name id =>
    rw [expr, Expr.levels]
    rfl
  | member value attr ih =>
    rw [expr, Expr.levels]
    exact ih.below

theorem Dotted.silent_listLevels (entries : List (Dotted × Position)) :
    (Expr.listLevels (entries.map fun e => e.1.expr e.2)).Silent := by
  induction entries with
  | nil =>
    rw [List.map_nil, Expr.listLevels]
    rfl
  | cons e entries ih =>
    rw [List.map_cons, Expr.listLevels]
    exact (e.1.silent_levels e.2).merge ih

namespace ListedCode

/-- the call that declares the template is the only one -/
theorem callsOf_stmt (c : ListedCode) : callsOf [c.stmt] = [c.site] := by
  have hrest : (Levels.merge (c.world.expr c.pos).levels.below
      (Levels.merge (Levels.below [])
        (Levels.below (Levels.merge (Levels.below []) c.items.levels)))).Silent := by
    have hempty : Levels.Silent (Levels.below []) := rfl
    have hitems : c.items.levels.Silent := by
      rw [items, Expr.levels]
      exact (Dotted.silent_listLevels c.entries).below
    exact (c.world.silent_levels c.pos).below.merge (hempty.merge (hempty.merge hitems).below)
  simp only [callsOf, stmt, site, CallSite.expr, Stmt.listLevels, Stmt.levels, Expr.listLevels,
    Expr.levels, Keyword.listLevels, Entry.keyLevels, Entry.valueLevels, Levels.merge_nil_right]
  show [] ++ ([c.site] ++ _) = [c.site]
  rw [hrest]
  rfl

theorem classify?_site (c : ListedCode) :
    classify? c.site = some (.template ⟨some c.label.text, some c.items⟩) := by
  have hkey : key.text = "components" := by decide
  simp [classify?, site, calledName?, validatorNames, templateNames, CallSite.place?,
    CallSite.option?, dictValue?, entryValue?, stringValue?, constant?, hkey]

/-- a dotted name is an item of a display, and an entry of a template, as it stands -/
theorem displayItems?_items (c : ListedCode) :
    displayItems? c.items = some (c.entries.map fun e => e.1.expr e.2) := by
  refine congrArg some (List.filter_eq_self.mpr fun e he => ?_)
  obtain ⟨⟨d, pos⟩, _, rfl⟩ := List.mem_map.mp he
  cases d <;> rfl

theorem templateEntry?_expr (r : Resolver) (h : ∀ index ∈ r.index, index.IsSpelled) (d : Dotted)
    (pos : Position) :
    r.templateEntry? (d.expr pos) = some ⟨r.dotted d, pos⟩ := by
  have hcomponent := r.component?_dotted h pos d
  cases d <;> exact congrArg (Option.map fun name => (⟨name, pos⟩ : Reference)) hcomponent

/-- the template that the code declares has all components, in order -/
theorem templates_listed (c : ListedCode) (u : SourceUnit) (r : Resolver)
    (h : ∀ index ∈ r.index, index.IsSpelled) :
    (Declarations.ofUnit { u with body := [c.stmt] } r).templates
      = [⟨some c.label.text, c.pos, c.entries.map fun e => ⟨r.dotted e.1, e.2⟩⟩] := by
  have hshapes : Declarations.orderedShapes [c.stmt]
      = [(c.site, .template ⟨some c.label.text, some c.items⟩)] := by
    unfold Declarations.orderedShapes shapesOf
    rw [c.callsOf_stmt, List.filterMap_cons, c.classify?_site]
    exact List.mergeSort_singleton _
  have hentries : (c.entries.map fun e => e.1.expr e.2).filterMap r.templateEntry?
      = c.entries.map fun e => ⟨r.dotted e.1, e.2⟩ := by
    rw [List.filterMap_map, ← List.filterMap_eq_map]
    exact List.filterMap_congr fun e _ => templateEntry?_expr r h e.1 e.2
  simp only [Declarations.ofUnit, hshapes, List.filterMap_cons, List.filterMap_nil,
    Resolver.template?, Option.bind_some, c.displayItems?_items, Option.map_some, hentries]
  rfl

theorem problems_listed (c : ListedCode) (u : SourceUnit) (g : ConstraintGraph) (r : Resolver)
    (h : ∀ index ∈ r.index, index.IsSpelled) :
    ∃ shown, templateProblems g (Declarations.ofUnit { u with body := [c.stmt] } r)
      = replay g (.template shown) [] (c.entries.map fun e => ⟨r.dotted e.1, e.2⟩) := by
  unfold templateProblems
  rw [c.templates_listed u r h, List.flatMap_singleton]
  exact ⟨_, rfl⟩

end ListedCode

/-! ## on an entity -/

/-- a function whose body is `world.create_entity().attach(C1)..` -/
structure ChainedCode where
  pos : Position
  name : String
  start : Position
  world : Dotted
  attaches : List Attach

/-- a function whose body is `x = world.create_entity()`, and then `x.attach(C1)` and so on -/
structure StepwiseCode where
  pos : Position
  name : String
  assignPos : Position
  x : String
  place : Position
  start : Position
  world : Dotted
  attaches : List Attach

def ChainedCode.components (c : ChainedCode) : List Dotted := c.attaches.map Attach.component

def ChainedCode.stmt (c : ChainedCode) : Stmt :=
  .function c.pos c.name []
    [.evaluate [(ChainStart.create c.start c.world).chain c.attaches]] [] none

def StepwiseCode.components (c : StepwiseCode) : List Dotted := c.attaches.map Attach.component

/-- `x.attach(C)`, as a statement -/
def StepwiseCode.step (c : StepwiseCode) (a : Attach) : Stmt := .evaluate [a.on (.name a.pos c.x)]

def StepwiseCode.stmt (c : StepwiseCode) : Stmt :=
  .function c.pos c.name []
    (.assign c.assignPos [.name c.place c.x]
      (ChainStart.create c.start c.world).expr :: c.attaches.map c.step) [] none

/-- attaching to the first entity is replaying from nothing -/
theorem found_first (ctx : TrackingContext) (t : Tracker) (attaches : List Attach)
    (he : t.entities = [[]]) (hf : t.found = []) :
    (t.attachAll ctx (some 0) attaches).found
      = replay ctx.graph .entity [] (attaches.map (Attach.reference ctx.resolver)) := by
  have hlt : 0 < t.entities.length := by
    rw [he]
    exact Nat.zero_lt_one
  rw [found_attachAll 0 t attaches hlt, he, hf]
  rfl

theorem ChainedCode.problems_chained (c : ChainedCode) (g : ConstraintGraph) (r : Resolver) :
    trackProblems g r [c.stmt] = replay g .entity [] (c.attaches.map (Attach.reference r)) := by
  have hmeans := means_chain ⟨g, r⟩ (.create c.start c.world) c.attaches .start
  rw [stmt, trackProblems_function, trackProblems, Stmt.trackAll, Stmt.trackAll,
    hmeans.track_evaluate]
  exact found_first ⟨g, r⟩ Tracker.start.create.1 c.attaches rfl rfl

/-- the steps attach to the entity that the name stands for -/
theorem StepwiseCode.trackAll_steps (c : StepwiseCode) (ctx : TrackingContext) (entity : Nat)
    (attaches : List Attach) (t : Tracker) (h : t.names.get? c.x = some entity) :
    Stmt.trackAll ctx (attaches.map c.step) t = t.attachAll ctx (some entity) attaches := by
  induction attaches generalizing t with
  | nil =>
    rw [List.map_nil, Stmt.trackAll]
    rfl
  | cons a attaches ih =>
    have hname : Means ctx (.name a.pos c.x) t t (some entity) := ⟨by rw [Expr.track], h⟩
    have hkept : (t.attachTo ctx (some entity) a).names.get? c.x = some entity := by
      rw [names_attachTo]
      exact h
    rw [List.map_cons, Stmt.trackAll, StepwiseCode.step, (hname.attach a).track_evaluate,
      ih _ hkept]
    rfl

theorem StepwiseCode.problems_stepwise (c : StepwiseCode) (g : ConstraintGraph) (r : Resolver) :
    trackProblems g r [c.stmt] = replay g .entity [] (c.attaches.map (Attach.reference r)) := by
  have hmeans : Means ⟨g, r⟩ (ChainStart.create c.start c.world).expr .start Tracker.start.create.1
      (some 0) :=
    means_enter (.create c.start c.world) .start
  have hnamed : (Tracker.start.create.1.bind c.x (some 0)).names.get? c.x = some 0 := by
    rw [Tracker.names_bind, if_pos rfl]
  rw [stmt, trackProblems_function, trackProblems, Stmt.trackAll, hmeans.track_assign,
    c.trackAll_steps ⟨g, r⟩ 0 c.attaches _ hnamed]
  exact found_first ⟨g, r⟩ _ c.attaches rfl rfl

/-! ## programs that were read -/

theorem parseModule?_of_parseUnit {path root : Path} {text : String} {u : SourceUnit}
    (h : parseUnit path text root = .ok (some u)) : parseModule? text.toList = some u.body := by
  unfold parseUnit at h
  split at h
  · cases h
  split at h
  · cases h
  split at h
  · cases h
  · rename_i body hbody
    cases hm : moduleName path root with
    | error e =>
      rw [hm] at h
      cases h
    | ok name =>
      rw [hm] at h
      cases h
      exact hbody

namespace Program

/-- a program whose units were made from texts is spelled -/
theorem isSpelled_of_unitsOf {p : Program} {root : Path} {texts : List (Path × String)}
    (h : unitsOf root texts = .ok p.units) : p.isSpelled = true := by
  refine List.all_eq_true.mpr fun u hu => ?_
  exact isSpelled_of_parseModule? (parseModule?_of_parseUnit (mem_unitsOf h u hu).2)

/-- whether or not all texts can be read -/
theorem isSpelled_getD (root : Path) (texts : List (Path × String)) (semantic : Bool) :
    Program.isSpelled ⟨root, (unitsOf root texts).toOption.getD [], semantic⟩ = true := by
  cases h : unitsOf root texts with
  | error e => rfl
  | ok units => exact isSpelled_of_unitsOf h

/-- so is what is loaded from files -/
theorem isSpelled_of_load {t : FileTree} {root : Path} {patterns : List String} {semantic : Bool}
    {p : Program} (h : load t root patterns semantic = .ok p) : p.isSpelled = true :=
  isSpelled_of_unitsOf (load_eq_ok h).2.2

/-- and what is made from texts in memory -/
theorem isSpelled_of_ofSources {sources : List (String × String)} {semantic : Bool} {p : Program}
    (h : ofSources sources semantic = .ok p) : p.isSpelled = true :=
  isSpelled_of_unitsOf (ofSources_eq_ok h).2.1

end Program

/-! ## all three -/

theorem Program.isSpelled_index? (p : Program) (h : p.isSpelled = true) :
    ∀ index ∈ p.index?, index.IsSpelled := by
  intro index hindex
  unfold Program.index? at hindex
  split at hindex
  · cases hindex
    exact Index.isSpelled_ofProgram p h
  · cases hindex

theorem names_references (r : Resolver) (attaches : List Attach) :
    (attaches.map (Attach.reference r)).map Mention.name
      = (attaches.map Attach.component).map r.dotted := by
  rw [List.map_map, List.map_map]
  rfl

/-- The same components, listed in a template, attached in a chain, or attached one by one to a
named entity: the problems are of the same kinds, of the same components and with the same others,
in the same order. Names are resolved in a unit of any program whose identifiers are not empty. -/
theorem compositions_agree (p : Program) (hp : p.isSpelled = true) (u : SourceUnit)
    (g : ConstraintGraph) (severity : Rule → Severity) (listed : ListedCode) (chained : ChainedCode)
    (stepwise : StepwiseCode) (hchained : chained.components = listed.components)
    (hstepwise : stepwise.components = listed.components) :
    let r : Resolver := ⟨u.module, p.index?⟩
    let triples := reportedTriples severity u.path
    let ofTemplate := templateProblems g (Declarations.ofUnit { u with body := [listed.stmt] } r)
    triples (trackProblems g r [chained.stmt]) = triples ofTemplate ∧
    triples (trackProblems g r [stepwise.stmt]) = triples ofTemplate := by
  intro r triples ofTemplate
  obtain ⟨shown, htemplate⟩ := listed.problems_listed u g r (p.isSpelled_index? hp)
  have hnames : (listed.entries.map fun e => (⟨r.dotted e.1, e.2⟩ : Reference)).map Mention.name
      = listed.components.map r.dotted := by
    rw [ListedCode.components, List.map_map, List.map_map]
    rfl
  rw [chained.problems_chained, stepwise.problems_stepwise, show ofTemplate = _ from htemplate]
  constructor
  · refine triples_replay severity u.path g _ _ [] _ _ ?_
    rw [names_references, hnames, ← hchained]
    rfl
  · refine triples_replay severity u.path g _ _ [] _ _ ?_
    rw [names_references, hnames, ← hstepwise]
    rfl

/-- a module with two components, one of which has a second name -/
def twoNames : Program :=
  ⟨Program.memoryRoot,
    (Program.unitsOf Program.memoryRoot
      [(Program.memoryRoot.join (.ofString "a.py"),
        "class A: pass\nclass B: pass\nD = B\n")]).toOption.getD [],
    true⟩

/-- `B` depends on `A`, and `A` must not join `B` -/
def wrongWay : ConstraintGraph := .ofDeclared false [("B", ⟨["A"], []⟩), ("A", ⟨[], ["B"]⟩)]

namespace twoNames

def here : SourceUnit := ⟨Program.memoryRoot.join (.ofString "a.py"), "a", "", []⟩

def world : Dotted := .name ⟨"w", by decide⟩

def both : List Dotted := [.name ⟨"D", by decide⟩, .name ⟨"A", by decide⟩]

def listed : ListedCode :=
  ⟨⟨4, 0⟩, world, ⟨4, 20⟩, .ofChars "T".toList, ⟨4, 25⟩, ⟨4, 26⟩, ⟨4, 40⟩, .list,
    both.map fun d => (d, ⟨4, 41⟩)⟩

def chained : ChainedCode :=
  ⟨⟨5, 0⟩, "f", ⟨6, 4⟩, world, both.map fun d => ⟨⟨6, 4⟩, d, ⟨6, 29⟩⟩⟩

def stepwise : StepwiseCode :=
  ⟨⟨7, 0⟩, "g", ⟨8, 4⟩, "e", ⟨8, 4⟩, ⟨8, 8⟩, world, both.map fun d => ⟨⟨9, 4⟩, d, ⟨9, 13⟩⟩⟩

end twoNames

theorem compositions_agree_twoNames :
    let r : Resolver := ⟨"a", twoNames.index?⟩
    let triples := reportedTriples (fun _ => .error) twoNames.here.path
    let expected : List (Kind × String × String) :=
      [(.missingDependency, "B", "A"), (.conflictingComponent, "A", "B")]
    twoNames.isSpelled = true ∧
    triples (templateProblems wrongWay
      (Declarations.ofUnit { twoNames.here with body := [twoNames.listed.stmt] } r))
      = expected ∧
    triples (trackProblems wrongWay r [twoNames.chained.stmt]) = expected ∧
    triples (trackProblems wrongWay r [twoNames.stepwise.stmt]) = expected := by
  intro r triples expected
  have hspelled : twoNames.isSpelled = true := Program.isSpelled_getD _ _ _
  have htemplate : triples (templateProblems wrongWay
      (Declarations.ofUnit { twoNames.here with body := [twoNames.listed.stmt] } r))
        = expected := by
    decide +kernel
  obtain ⟨hchained, hstepwise⟩ :=
    compositions_agree twoNames hspelled twoNames.here wrongWay (fun _ => .error)
      twoNames.listed twoNames.chained twoNames.stepwise rfl rfl
  exact ⟨hspelled, htemplate, hchained.trans htemplate, hstepwise.trans htemplate⟩

end Archetype
