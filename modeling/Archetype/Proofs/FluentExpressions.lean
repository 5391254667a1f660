import Archetype.Proofs.Fluency

/-!
# Expressions are read fluently

One lemma for each parser of the grammar of expressions: it `Reads` what is placed where its tokens
are. Only `primary` puts calls behind each other, and all calls that it puts there start at its
first token. Names are read from name tokens only.

* `fluent_of_fields`  the fields of a format literal of one line;
* `reads_trailers`    calls behind an expression;
* `orderly_grammar`   the whole grammar.
-/

namespace Archetype.Code

open Archetype.Code.Parser

variable {lo : Option Position} {g : Grammar} {n : Nat}

/-- the parsers for inner expressions read what is placed where their tokens are -/
structure Grammar.Orderly (g : Grammar) : Prop where
  expression : ∀ {lo}, Reads lo g.expression
  disjunction : ∀ {lo}, Reads lo g.disjunction
  operand : ∀ {lo}, Reads lo g.operand
  primary : ∀ {lo}, Reads lo g.primary

/-! ## expressions made of placed parts -/

/-- an expression that ends in a name is spelled if the name is not empty -/
theorem isSpelled_of_ne {e : Expr} {id : String} (h : e.spelledName? = some id) (hid : id ≠ "") :
    e.isSpelled = true := by
  rw [Expr.isSpelled, h]
  exact bne_iff_ne.mpr fun heq => hid (Option.some.inj heq)

theorem placed_name (pos : Position) {id : String} (h : id ≠ "") : Placed lo (Expr.name pos id) :=
  placed_of_children rfl (isSpelled_of_ne rfl h) nofun

/-- a member stands where its value does -/
theorem placed_member {e : Expr} (pos : Position) {attr : String} (he : Placed lo e)
    (hattr : attr ≠ "") : Placed lo (Expr.member pos e attr) :=
  ⟨⟨he.1.1, isSpelled_of_ne rfl hattr⟩,
    Node.fluentFrom_of_children rfl (List.forall_mem_singleton.mpr he.2)⟩

theorem fluent_exprs {es : List Expr} (h : Placed lo es) : ∀ m ∈ Node.exprs es, m.FluentFrom lo :=
  List.forall_mem_map.mpr fun e he => (h e he).2

theorem placed_other {es : List Expr} (pos : Position) (h : Placed lo es) :
    Placed lo (Expr.other pos es) :=
  placed_of_children rfl rfl (fluent_exprs h)

theorem placed_row {es : List Expr} (pos : Position) (kind : Row) (h : Placed lo es) :
    Placed lo (Expr.row pos kind es) :=
  placed_of_children rfl rfl (fluent_exprs h)

theorem placed_starred {e : Expr} (pos : Position) (h : Placed lo e) :
    Placed lo (Expr.starred pos e) :=
  placed_of_children rfl rfl (List.forall_mem_singleton.mpr h.2)

theorem placed_comprehension {es : List Expr} {cs : List Clause} (pos : Position)
    (hes : Placed lo es) (hcs : Placed lo cs) : Placed lo (Expr.comprehension pos es cs) :=
  placed_of_children rfl rfl
    (List.forall_mem_append.mpr ⟨fluent_exprs hes, List.forall_mem_map.mpr hcs⟩)

theorem placed_tupleOr {es : List Expr} (start : Position) (h : Placed lo es) (comma : Bool) :
    Placed lo (tupleOr start (es, comma)) := by
  unfold tupleOr
  split
  · rename_i e heq
    cases heq
    exact (placed_cons.mp h).1
  · rename_i heq
    cases heq
    exact placed_row start .tuple h

/-! ## rows of expressions -/

theorem reads_seesWalrus : Reads lo seesWalrus := by
  refine reads_peek.bind fun first _ => reads_peekSecond.bind fun second _ => ?_
  split <;> exact .pure trivial

theorem reads_seesClause : Reads lo seesClause := by
  refine reads_peek.bind fun first _ => reads_peekSecond.bind fun second _ => ?_
  split <;> exact .pure trivial

theorem reads_namedExpression (hg : g.Orderly) : Reads lo (namedExpression g) := by
  refine reads_seesWalrus.bind fun walrus _ => ?_
  split
  · refine reads_here.bind fun start _ => reads_identifier.bind fun id hid =>
      reads_skip.bind fun _ _ => ?_
    have hname : Placed lo (Expr.name start id) := placed_name start hid
    refine hg.expression.bind fun value hvalue => .pure (placed_of_children rfl rfl ?_)
    simpa [Node.ofExpr] using ⟨hname.2, hvalue.2⟩
  · exact hg.expression

theorem reads_starOr (hg : g.Orderly) {plain : Parser Expr} (hplain : Reads lo plain) :
    Reads lo (starOr g plain) := by
  refine reads_here.bind fun start _ => (reads_accept _).bind fun star _ => ?_
  split
  · exact hg.operand.bind fun e he => .pure (placed_starred start he)
  · exact hplain

theorem reads_item (hg : g.Orderly) : Reads lo (item g) :=
  reads_starOr hg (reads_namedExpression hg)

theorem reads_starExpressions (hg : g.Orderly) : Reads lo (starExpressions g n) := by
  refine reads_here.bind fun start _ => ?_
  refine (reads_commaSeparated _ (reads_starOr hg hg.expression) n).bind fun (es, comma) hes => ?_
  exact .pure (placed_tupleOr start hes.1 comma)

theorem reads_yieldExpression (hg : g.Orderly) : Reads lo (yieldExpression g n) := by
  refine reads_here.bind fun start _ => (reads_expect _).bind fun _ _ =>
    (reads_accept _).bind fun delegates _ => ?_
  split
  · exact hg.expression.bind fun e he => .pure (placed_other start (placed_singleton he))
  refine reads_peek.bind fun l _ => ?_
  split
  · exact (reads_starExpressions hg).bind fun e he =>
      .pure (placed_other start (placed_singleton he))
  · exact .pure (placed_other start placed_nil)

/-! ## targets and clauses -/

theorem reads_starTarget (hg : g.Orderly) : Reads lo (starTarget g) := by
  refine reads_here.bind fun start _ => (reads_accept _).bind fun starred _ =>
    hg.primary.bind fun target htarget => ?_
  refine (reads_require _).bind fun _ _ => .pure ?_
  split
  · exact placed_starred start htarget
  · exact htarget

theorem reads_starTargets (hg : g.Orderly) : Reads lo (starTargets g n) := by
  refine reads_here.bind fun start _ => ?_
  refine (reads_commaSeparated _ (reads_starTarget hg) n).bind fun (es, comma) hes => ?_
  exact .pure (placed_tupleOr start hes.1 comma)

theorem reads_clause (hg : g.Orderly) : Reads lo (clause g n) := by
  refine reads_seesClause.bind fun seen _ => ?_
  split
  · refine (reads_accept _).bind fun _ _ => (reads_expect _).bind fun _ _ => ?_
    refine (reads_starTargets hg).bind fun target htarget => (reads_expect _).bind fun _ _ => ?_
    refine hg.disjunction.bind fun iter hiter => ?_
    refine (reads_many (reads_announced (reads_accept _) hg.disjunction) n).bind
      fun conditions hconditions => ?_
    refine .pure (placed_some.mpr (Node.fluentFrom_of_children rfl ?_))
    simpa [Node.children] using ⟨htarget.2, hiter.2, fluent_exprs hconditions⟩
  · exact .pure placed_none

theorem reads_clauses (hg : g.Orderly) : Reads lo (clauses g n) := reads_many (reads_clause hg) n

/-! ## parameters -/

namespace ParameterPart

/-- the hint and the default of a part -/
def exprs : ParameterPart → List Expr
  | plain hint value => hint.toList ++ value.toList
  | slash | star => []
  | rest hint | names hint => hint.toList

/-- the hints and defaults that were read -/
def Reading.exprs (r : Reading) : List Expr :=
  r.hints ++ r.restHint ++ r.nameHints ++ r.nameDefaults ++ r.namesHint ++ r.defaults

theorem mem_exprs_of_read? {r r' : Reading} {part : ParameterPart} {e : Expr}
    (h : read? r part = some r') (he : e ∈ r'.exprs) : e ∈ r.exprs ∨ e ∈ part.exprs := by
  cases part <;> grind [read?, Reading.exprs, exprs]

theorem mem_exprs_of_foldlM {r r' : Reading} {parts : List ParameterPart} {e : Expr}
    (h : parts.foldlM read? r = some r') (he : e ∈ r'.exprs) :
    e ∈ r.exprs ∨ ∃ part ∈ parts, e ∈ part.exprs := by
  induction parts generalizing r with
  | nil =>
    cases h
    exact Or.inl he
  | cons part parts ih =>
    rw [List.foldlM_cons] at h
    obtain ⟨mid, hpart, hparts⟩ := Option.bind_eq_some_iff.mp h
    rcases ih hparts with hmid | ⟨later, hlater, hmem⟩
    · rcases mem_exprs_of_read? hpart hmid with hr | hown
      · exact Or.inl hr
      · exact Or.inr ⟨part, List.mem_cons_self, hown⟩
    · exact Or.inr ⟨later, List.mem_cons_of_mem _ hlater, hmem⟩

end ParameterPart

instance : Sited ParameterPart := ⟨fun lo part => Placed lo part.exprs⟩

theorem placed_listed {r : ParameterPart.Reading} (h : Placed lo r.exprs) : Placed lo r.listed := by
  have hhint : ∀ {es : List Expr}, es ⊆ r.exprs → Placed lo (es.map Parameter.hint) := by
    intro es hes p hp
    obtain ⟨e, he, rfl⟩ := List.mem_map.mp hp
    exact Node.fluentFrom_of_children rfl (List.forall_mem_singleton.mpr (h e (hes he)).2)
  have hdefault : ∀ {es : List Expr}, es ⊆ r.exprs → Placed lo (es.map Parameter.default) := by
    intro es hes p hp
    obtain ⟨e, he, rfl⟩ := List.mem_map.mp hp
    exact (h e (hes he)).2
  unfold ParameterPart.Reading.listed
  simp only [placed_append]
  refine ⟨⟨⟨hhint ?_, hdefault ?_⟩, hhint ?_⟩, hdefault ?_⟩ <;> intro e he <;>
    simp [ParameterPart.Reading.exprs] at he ⊢ <;> tauto

theorem placed_arrange? {parts : List ParameterPart} {ps : List Parameter}
    (h : ParameterPart.arrange? parts = some ps) (hparts : Placed lo parts) : Placed lo ps := by
  obtain ⟨r, hr, h⟩ := Option.bind_eq_some_iff.mp h
  split at h
  · cases h
  cases h
  refine placed_listed fun e he => ?_
  rcases ParameterPart.mem_exprs_of_foldlM hr he with hnone | ⟨part, hpart, hmem⟩
  · cases hnone
  · exact hparts part hpart e hmem

theorem reads_typeHint (hg : g.Orderly) (hinted starred : Bool) :
    Reads lo (typeHint g hinted starred) := by
  unfold typeHint
  split
  · exact .pure placed_none
  refine (reads_accept _).bind fun colon _ => ?_
  split
  · split
    · exact (reads_starOr hg hg.expression).bind fun e he => .pure (placed_some.mpr he)
    · exact hg.expression.bind fun e he => .pure (placed_some.mpr he)
  · exact .pure placed_none

theorem placed_toList {o : Option Expr} (h : Placed lo o) : Placed lo o.toList := by
  cases o with
  | none => exact placed_nil
  | some e => exact placed_singleton (placed_some.mp h)

theorem reads_parameterPart (hg : g.Orderly) (hinted : Bool) :
    Reads lo (parameterPart g hinted) := by
  refine (reads_accept _).bind fun slash _ => ?_
  split
  · exact .pure placed_nil
  refine (reads_accept _).bind fun doubleStar _ => ?_
  split
  · refine reads_identifier.bind fun _ _ => ?_
    exact (reads_typeHint hg hinted false).bind fun hint hhint => .pure (placed_toList hhint)
  refine (reads_accept _).bind fun star _ => ?_
  split
  · refine (reads_sees _).bind fun comma _ => ?_
    split
    · exact .pure placed_nil
    · refine reads_identifier.bind fun _ _ => ?_
      exact (reads_typeHint hg hinted true).bind fun hint hhint => .pure (placed_toList hhint)
  · refine reads_identifier.bind fun _ _ =>
      (reads_typeHint hg hinted false).bind fun hint hhint => ?_
    refine (reads_accept _).bind fun assign _ => ?_
    split
    · refine hg.expression.bind fun e he => .pure (placed_append.mpr ⟨placed_toList hhint, ?_⟩)
      exact placed_toList (placed_some.mpr he)
    · exact .pure (placed_append.mpr ⟨placed_toList hhint, placed_nil⟩)

theorem reads_parameters (hg : g.Orderly) (hinted : Bool) : Reads lo (parameters g hinted n) := by
  refine (reads_sees _).bind fun closes _ => ?_
  split
  · exact .pure placed_nil
  refine (reads_commaSeparated _ (reads_parameterPart hg hinted) n).bind fun (parts, _) hparts => ?_
  dsimp only
  split
  · rename_i ps harranged
    exact .pure (placed_arrange? harranged hparts.1)
  · exact .failure

/-! ## arguments -/

theorem placed_keyword {e : Expr} (name : Option String) (h : Placed lo e) :
    Placed lo (Keyword.mk name e) :=
  Node.fluentFrom_of_children rfl (List.forall_mem_singleton.mpr h.2)

theorem reads_argument (hg : g.Orderly) (mode : ArgumentMode) : Reads lo (argument g mode) := by
  refine reads_here.bind fun start _ => (reads_accept _).bind fun doubleStar _ => ?_
  split
  · refine hg.expression.bind fun e he => .pure ⟨placed_nil, ?_, trivial⟩
    exact placed_singleton (placed_keyword _ he)
  refine (reads_accept _).bind fun star _ => ?_
  split
  · refine (reads_require _).bind fun _ _ => hg.expression.bind fun e he =>
      .pure ⟨?_, placed_nil, trivial⟩
    exact placed_singleton (placed_starred start he)
  refine reads_peek.bind fun first _ => reads_peekSecond.bind fun second _ => ?_
  split
  · refine reads_skip.bind fun _ _ => reads_skip.bind fun _ _ => ?_
    refine hg.expression.bind fun e he => .pure ⟨placed_nil, ?_, trivial⟩
    exact placed_singleton (placed_keyword _ he)
  · refine (reads_require _).bind fun _ _ => (reads_namedExpression hg).bind fun e he => ?_
    exact .pure ⟨placed_singleton he, placed_nil, trivial⟩

theorem reads_argumentList (hg : g.Orderly) (mode : ArgumentMode) :
    Reads lo (argumentList g n mode) := by
  induction n generalizing mode with
  | zero => exact .failure
  | succ n ih =>
    refine (reads_accept _).bind fun closes _ => ?_
    split
    · exact .pure ⟨placed_nil, placed_nil⟩
    refine (reads_argument hg mode).bind fun (args, keywords, next) hargs =>
      (reads_accept _).bind fun comma _ => ?_
    obtain ⟨hargs, hkeywords, _⟩ := hargs
    split
    · refine (ih next).bind fun (moreArgs, moreKeywords) hmore => .pure ?_
      exact ⟨placed_append.mpr ⟨hargs, hmore.1⟩, placed_append.mpr ⟨hkeywords, hmore.2⟩⟩
    · exact (reads_expect _).bind fun _ _ => .pure ⟨hargs, hkeywords⟩

theorem reads_arguments (hg : g.Orderly) (generator : Bool) :
    Reads lo (arguments g generator n) := by
  refine reads_here.bind fun start _ => (reads_expect _).bind fun _ _ =>
    (reads_accept _).bind fun closes _ => ?_
  split
  · exact .pure ⟨placed_nil, placed_nil⟩
  refine (reads_argument hg .places).bind fun (args, keywords, next) hargs =>
    (reads_accept _).bind fun comma _ => ?_
  obtain ⟨hargs, hkeywords, _⟩ := hargs
  split
  · refine (reads_argumentList hg next).bind fun (moreArgs, moreKeywords) hmore => .pure ?_
    exact ⟨placed_append.mpr ⟨hargs, hmore.1⟩, placed_append.mpr ⟨hkeywords, hmore.2⟩⟩
  refine reads_seesClause.bind fun seen _ => ?_
  split
  · refine (reads_require _).bind fun _ _ => (reads_clauses hg).bind fun cs hcs =>
      (reads_expect _).bind fun _ _ => ?_
    exact .pure ⟨placed_singleton (placed_comprehension start hargs hcs), placed_nil⟩
  · exact (reads_expect _).bind fun _ _ => .pure ⟨hargs, hkeywords⟩

/-! ## subscripts -/

theorem reads_bound (hg : g.Orderly) : Reads lo (bound g) := by
  refine reads_peek.bind fun l _ => ?_
  split
  · exact hg.expression.bind fun e he => .pure (placed_singleton he)
  · exact .pure placed_nil

theorem reads_slice (hg : g.Orderly) : Reads lo (slice g) := by
  refine reads_here.bind fun start _ => (reads_accept _).bind fun star _ => ?_
  split
  · exact hg.expression.bind fun e he => .pure (placed_starred start he)
  refine reads_seesWalrus.bind fun walrus _ => ?_
  split
  · exact reads_namedExpression hg
  refine (reads_bound hg).bind fun lower hlower => (reads_accept _).bind fun colon _ => ?_
  split
  · refine (reads_bound hg).bind fun upper hupper => (reads_accept _).bind fun second _ => ?_
    have hrange : ∀ step : List Expr, Placed lo step →
        Reads lo (pure (Expr.other start (lower ++ upper ++ step))) :=
      fun step hstep => .pure (placed_other start (by simp [hlower, hupper, hstep]))
    split
    · exact (reads_bound hg).bind hrange
    · exact hrange [] placed_nil
  · split
    · exact .pure (placed_cons.mp hlower).1
    · exact .failure

theorem reads_slices (hg : g.Orderly) : Reads lo (slices g n) := by
  refine reads_here.bind fun start _ => ?_
  refine (reads_commaSeparated _ (reads_slice hg) n).bind fun (items, trailing) hitems => ?_
  exact .pure (placed_tupleOr start hitems.1 _)

/-! ## fields of format literals -/

theorem rest_subset_of_literalRun? {raw top named : Bool} {read cs text : List Char}
    {pos : Position} {stop : Field.RunEnd} {cur : Cursor}
    (h : Field.literalRun? raw top read named pos cs = some (text, stop, cur)) : cur.rest ⊆ cs := by
  fun_induction Field.literalRun? raw top read named pos cs with
  | case1 => cases h; exact List.nil_subset _
  | case2 read pos c cs ih => exact List.subset_cons_of_subset _ (ih h)
  | case3 => cases h; exact List.subset_cons_of_subset _ (List.drop_subset _ _)
  | case4 => cases h; exact List.Subset.refl _
  | case5 => cases h
  | case6 => cases h; exact List.Subset.refl _
  | case7 read named pos c _ _ _ ds ih =>
    exact List.subset_cons_of_subset _
      (List.subset_cons_of_subset _ (List.subset_cons_of_subset _ (ih h)))
  | case8 read named pos c _ _ _ d ds _ _ ih => exact List.subset_cons_of_subset _ (ih h)
  | case9 read named pos c _ _ _ d ds _ _ ih =>
    exact List.subset_cons_of_subset _ (List.subset_cons_of_subset _ (ih h))
  | case10 => cases h; exact List.nil_subset _
  | case11 read named pos c cs _ _ _ ih => exact List.subset_cons_of_subset _ (ih h)

theorem subset_of_expressionFrom? {s : Field.Scan} {read cs text : List Char} {pos : Position}
    {cur : Cursor} (h : Field.expressionFrom? s read pos cs = some (text, cur)) :
    text ⊆ read ++ cs ∧ cur.rest ⊆ cs := by
  fun_induction Field.expressionFrom? s read pos cs with
  | case1 => cases h
  | case2 => cases h
  | case3 s read pos c cs _ =>
    cases h
    exact ⟨fun d hd => List.mem_append_left _ (List.mem_reverse.mp hd), List.Subset.refl _⟩
  | case4 s read pos c cs next _ ih =>
    obtain ⟨htext, hrest⟩ := ih h
    refine ⟨fun d hd => ?_, List.Subset.trans hrest (List.subset_cons_self _ _)⟩
    have hmem := htext hd
    simp only [List.mem_append, List.mem_cons] at hmem ⊢
    tauto

theorem rest_subset_skipEquals (cur : Cursor) : (Field.skipEquals cur).rest ⊆ cur.rest := by
  unfold Field.skipEquals
  split
  · exact ((cur.reaches_skip 1).trans (Cursor.reaches_dropWhile _ _)).rest
  · exact List.Subset.refl _

theorem rest_subset_of_skipConversion? {cur next : Cursor}
    (h : Field.skipConversion? cur = some next) :
    next.rest ⊆ cur.rest := by
  unfold Field.skipConversion? at h
  split at h
  · split at h
    · cases h
      exact (cur.reaches_skip 2).rest
    · cases h
  · cases h
  · cases h
    exact List.Subset.refl _

/-- the expression of a field of one line is read from tokens that are ready -/
theorem fluent_of_fieldValue? {brackets : Parser Expr} (hbrackets : ∀ {lo}, Reads lo brackets)
    {text : List Char} {pos : Position} {e : Expr} (hline : '\n' ∉ text)
    (h : fieldValue? brackets text pos = some e) :
    (Node.expr e).Fluent := by
  unfold fieldValue? at h
  split at h
  · cases h
  obtain ⟨tokens, htokens, h⟩ := Option.bind_eq_some_iff.mp h
  obtain ⟨⟨value, rest⟩, hrun, h⟩ := Option.bind_eq_some_iff.mp h
  obtain ⟨hordered, honeLine⟩ := ordered_of_tokensWithin? hline htokens
  have hready : Ready (some pos) tokens :=
    ⟨named_of_tokensWithin? htokens, by rintro _ ⟨⟩; exact hordered, fun _ => honeLine⟩
  have hvalue := (hbrackets tokens value rest hready hrun).1
  dsimp only at h
  split at h
  · cases h
    exact hvalue.2 rfl
  · cases h

/-- the fields of a text of one line are fluent, and what stands behind them is on that line as
well -/
theorem fluent_of_fields {brackets : Parser Expr} (hbrackets : ∀ {lo}, Reads lo brackets)
    {raw : Bool} {depth : Nat} {cur last : Cursor} {es : List Expr} (hline : '\n' ∉ cur.rest)
    (h : fields brackets raw n depth cur = some (es, last)) :
    (∀ m ∈ Node.exprs es, m.Fluent) ∧ '\n' ∉ last.rest := by
  induction n generalizing depth cur last es with
  | zero => cases h
  | succ n ih =>
    unfold fields at h
    obtain ⟨⟨text, stop, run⟩, hrun, h⟩ := Option.bind_eq_some_iff.mp h
    have hrunLine : '\n' ∉ run.rest := fun hmem => hline (rest_subset_of_literalRun? hrun hmem)
    dsimp only at h
    split at h
    · cases h
    cases stop with
    | done =>
      cases h
      exact ⟨nofun, hrunLine⟩
    | doubled => exact ih hrunLine h
    | field =>
      -- whatever the operands of this field are, the text goes on behind its brace
      have hback : ∀ {operands more : List Expr} {close : Cursor},
          (∀ m ∈ Node.exprs operands, m.Fluent) →
          '\n' ∉ close.rest → fields brackets raw n depth (close.skip 1) = some (more, last) →
          (∀ m ∈ Node.exprs (Expr.other run.pos operands :: more), m.Fluent) ∧
          '\n' ∉ last.rest := by
        intro operands more close hoperands hclose hmore
        obtain ⟨hfluent, hlast⟩ := ih (fun hmem => hclose ((close.reaches_skip 1).rest hmem)) hmore
        exact ⟨List.forall_mem_cons.mpr ⟨Node.fluent_of_children rfl hoperands, hfluent⟩, hlast⟩
      dsimp only at h
      split at h
      · cases h
      obtain ⟨⟨inner, behind⟩, hinner, h⟩ := Option.bind_eq_some_iff.mp h
      obtain ⟨value, hvalue, h⟩ := Option.bind_eq_some_iff.mp h
      obtain ⟨sign, hsign, h⟩ := Option.bind_eq_some_iff.mp h
      obtain ⟨hinnerText, hbehind⟩ := subset_of_expressionFrom? hinner
      have hopened : '\n' ∉ (run.skip 1).rest :=
        fun hmem => hrunLine ((run.reaches_skip 1).rest hmem)
      have hfluent : (Node.expr value).Fluent :=
        fluent_of_fieldValue? hbrackets (fun hmem => hopened (hinnerText hmem)) hvalue
      have hsignLine : '\n' ∉ sign.rest := by
        intro hmem
        exact hopened
          (hbehind (rest_subset_skipEquals behind (rest_subset_of_skipConversion? hsign hmem)))
      split at h
      · obtain ⟨⟨operands, close⟩, hformat, h⟩ := Option.bind_eq_some_iff.mp h
        obtain ⟨⟨nested, _⟩, hnested, heq⟩ := Option.map_eq_some_iff.mp hformat
        cases heq
        obtain ⟨hnestedFluent, hclose⟩ :=
          ih (fun hmem => hsignLine ((sign.reaches_skip 1).rest hmem)) hnested
        dsimp only at h
        split at h
        · obtain ⟨⟨more, _⟩, hmore, h⟩ := Option.bind_eq_some_iff.mp h
          cases h
          refine hback ?_ hclose hmore
          exact List.forall_mem_cons.mpr
            ⟨hfluent, List.forall_mem_singleton.mpr (Node.fluent_of_children rfl hnestedFluent)⟩
        · cases h
      · obtain ⟨⟨operands, close⟩, hplain, h⟩ := Option.bind_eq_some_iff.mp h
        cases hplain
        dsimp only at h
        split at h
        · obtain ⟨⟨more, _⟩, hmore, h⟩ := Option.bind_eq_some_iff.mp h
          cases h
          exact hback (List.forall_mem_singleton.mpr hfluent) hsignLine hmore
        · cases h

theorem fluent_of_literalFields? {brackets : Parser Expr} (hbrackets : ∀ {lo}, Reads lo brackets)
    {l : Literal} {es : List Expr} (hl : Placed lo l) (h : literalFields? brackets n l = some es) :
    ∀ m ∈ Node.exprs es, m.FluentFrom lo := by
  unfold literalFields? at h
  split at h
  · rename_i hformat
    obtain ⟨⟨found, cur⟩, hfields, h⟩ := Option.bind_eq_some_iff.mp h
    dsimp only at h
    split at h
    · cases h
      exact fun m hm hlo => (fluent_of_fields hbrackets (hl hlo hformat) hfields).1 m hm
    · cases h
  · obtain ⟨_, _, heq⟩ := Option.map_eq_some_iff.mp h
    cases heq
    exact nofun

theorem fluent_of_mapM_literalFields? {brackets : Parser Expr}
    (hbrackets : ∀ {lo}, Reads lo brackets) {ls : List Literal} {parts : List (List Expr)}
    (hls : Placed lo ls) (h : ls.mapM (literalFields? brackets n) = some parts) :
    ∀ m ∈ Node.exprs parts.flatten, m.FluentFrom lo := by
  induction ls generalizing parts with
  | nil =>
    cases h
    exact nofun
  | cons l ls ih =>
    obtain ⟨hl, hls⟩ := placed_cons.mp hls
    rw [List.mapM_cons] at h
    obtain ⟨es, hes, h⟩ := Option.bind_eq_some_iff.mp h
    obtain ⟨more, hmore, h⟩ := Option.bind_eq_some_iff.mp h
    cases h
    rw [List.flatten_cons, Node.exprs, List.map_append]
    exact List.forall_mem_append.mpr ⟨fluent_of_literalFields? hbrackets hl hes, ih hls hmore⟩

/-! ## string literals -/

theorem reads_literals : Reads lo (literals n) := by
  refine reads_many ?_ n
  refine reads_peek.bind fun l hl => ?_
  split
  · refine reads_skip.bind fun _ _ => .pure (placed_some.mpr ?_)
    exact fun hlo => Lexeme.not_mem_of_isOneLine ((placed_some.mp hl).1 hlo)
  · exact .pure placed_none

theorem reads_strings {brackets : Parser Expr} (hbrackets : ∀ {lo}, Reads lo brackets) :
    Reads lo (strings brackets n) := by
  refine reads_here.bind fun start _ => reads_literals.bind fun ls hls =>
    (reads_require _).bind fun _ _ => ?_
  split
  · exact (reads_require _).bind fun _ _ => .pure (placed_other start placed_nil)
  split
  · split
    · rename_i parts hparts
      exact .pure (placed_of_children rfl rfl (fluent_of_mapM_literalFields? hbrackets hls hparts))
    · exact .failure
  · split
    · exact .pure (placed_of_children rfl rfl nofun)
    · exact .failure

/-! ## brackets -/

theorem reads_roundBrackets (hg : g.Orderly) : Reads lo (roundBrackets g n) := by
  refine reads_here.bind fun start _ => (reads_expect _).bind fun _ _ =>
    (reads_accept _).bind fun closes _ => ?_
  split
  · exact .pure (placed_row start .tuple placed_nil)
  refine (reads_sees _).bind fun yields _ => ?_
  split
  · exact (reads_yieldExpression hg).bind fun e he => (reads_expect _).bind fun _ _ => .pure he
  refine (reads_commaSeparated _ (reads_item hg) n).bind fun (items, trailing) hitems => ?_
  dsimp only
  split
  · have he := (placed_cons.mp hitems.1).1
    refine (reads_require _).bind fun _ _ => reads_seesClause.bind fun clause _ => ?_
    split
    · refine (reads_clauses hg).bind fun cs hcs => (reads_expect _).bind fun _ _ => .pure ?_
      exact placed_comprehension start hitems.1 hcs
    · exact (reads_expect _).bind fun _ _ => .pure he
  · exact (reads_expect _).bind fun _ _ => .pure (placed_row start .tuple hitems.1)

theorem reads_displayRest (hg : g.Orderly) (start : Position) (kind : Row) (close : Symbol)
    {first : Expr} (hfirst : Placed lo first) :
    Reads lo (displayRest g n start kind close first) := by
  refine reads_seesClause.bind fun clause _ => ?_
  split
  · refine (reads_require _).bind fun _ _ => (reads_clauses hg).bind fun cs hcs =>
      (reads_expect _).bind fun _ _ => ?_
    exact .pure (placed_comprehension start (placed_singleton hfirst) hcs)
  · refine (reads_commaRest _ (reads_item hg) n).bind fun (items, _) hitems =>
      (reads_expect _).bind fun _ _ => ?_
    exact .pure (placed_row start kind (placed_cons.mpr ⟨hfirst, hitems.1⟩))

theorem reads_squareBrackets (hg : g.Orderly) : Reads lo (squareBrackets g n) := by
  refine reads_here.bind fun start _ => (reads_expect _).bind fun _ _ =>
    (reads_accept _).bind fun closes _ => ?_
  split
  · exact .pure (placed_row start .list placed_nil)
  · exact (reads_item hg).bind fun first hfirst => reads_displayRest hg start .list .rsqb hfirst

instance : Sited Entry := ⟨fun lo e => Placed lo e.key? ∧ Placed lo e.value⟩

theorem placed_dict {entries : List Entry} (pos : Position) (h : Placed lo entries) :
    Placed lo (Expr.dict pos entries) := by
  have hkeys : Placed lo (entries.filterMap Entry.key?) := by
    intro key hkey
    obtain ⟨e, he, hkey⟩ := List.mem_filterMap.mp hkey
    exact (h e he).1 key hkey
  have hvalues : Placed lo (entries.map Entry.value) :=
    List.forall_mem_map.mpr fun e he => (h e he).2
  exact placed_of_children rfl rfl
    (List.forall_mem_append.mpr ⟨fluent_exprs hkeys, fluent_exprs hvalues⟩)

theorem reads_entry (hg : g.Orderly) : Reads lo (entry g) := by
  refine (reads_accept _).bind fun doubleStar _ => ?_
  split
  · exact hg.operand.bind fun e he => .pure ⟨placed_none, he⟩
  · refine hg.expression.bind fun key hkey => (reads_expect _).bind fun _ _ => ?_
    exact hg.expression.bind fun value hvalue => .pure ⟨placed_some.mpr hkey, hvalue⟩

theorem reads_dictRest (hg : g.Orderly) (start : Position) {first : Entry}
    (hfirst : Placed lo first) :
    Reads lo (dictRest g n start first) := by
  refine (reads_commaRest _ (reads_entry hg) n).bind fun (entries, _) hentries =>
    (reads_expect _).bind fun _ _ => ?_
  exact .pure (placed_dict start (placed_cons.mpr ⟨hfirst, hentries.1⟩))

theorem reads_braces (hg : g.Orderly) : Reads lo (braces g n) := by
  refine reads_here.bind fun start _ => (reads_expect _).bind fun _ _ =>
    (reads_accept _).bind fun closes _ => ?_
  split
  · exact .pure (placed_dict start placed_nil)
  refine (reads_accept _).bind fun doubleStar _ => ?_
  split
  · refine hg.operand.bind fun e he => ?_
    exact reads_dictRest hg start ⟨placed_none, he⟩
  refine reads_seesWalrus.bind fun walrus _ => (reads_sees _).bind fun star _ => ?_
  refine (reads_item hg).bind fun first hfirst => (reads_accept _).bind fun colon _ => ?_
  split
  · refine hg.expression.bind fun value hvalue => reads_seesClause.bind fun clause _ => ?_
    split
    · refine (reads_clauses hg).bind fun cs hcs => (reads_expect _).bind fun _ _ => .pure ?_
      exact placed_comprehension start (by simp [hfirst, hvalue]) hcs
    · exact reads_dictRest hg start ⟨placed_some.mpr hfirst, hvalue⟩
  · exact reads_displayRest hg start .set .rbrace hfirst

/-! ## from atoms to conditional expressions -/

theorem reads_atom (hg : g.Orderly) : Reads lo (atom g n) := by
  refine reads_here.bind fun start _ => reads_peek.bind fun l hl => ?_
  split
  · exact reads_skip.bind fun _ _ => .pure (placed_name start (placed_id hl))
  iterate 5 exact reads_skip.bind fun _ _ => .pure (placed_other start placed_nil)
  · exact reads_strings (reads_roundBrackets hg)
  · exact reads_roundBrackets hg
  · exact reads_squareBrackets hg
  · exact reads_braces hg
  · exact .failure

/-- a call that starts where its receiver chain does -/
theorem placed_call {e : Expr} {start : Position} (hstart : ∀ p ∈ lo, p = start) (he : Placed lo e)
    {args : List Expr} {keywords : List Keyword} (hargs : Placed lo args)
    (hkeywords : Placed lo keywords) :
    Placed lo (Expr.call start e args keywords) := by
  refine ⟨⟨fun p hp => ?_, rfl⟩, fun hlo => (Node.fluent_iff _).mpr ⟨?_, ?_⟩⟩
  · -- the new call starts at the place itself, in front of the chain of `e`
    obtain rfl := hstart p hp
    exact List.forall_mem_cons.mpr ⟨Position.le_refl p, he.1.1 p hp⟩
  · rintro c ⟨⟩
    obtain ⟨p, rfl⟩ := Option.isSome_iff_exists.mp hlo
    obtain rfl := hstart p rfl
    exact he.1.1 p rfl
  · refine List.forall_mem_cons.mpr ⟨he.2 hlo, List.forall_mem_append.mpr ⟨?_, ?_⟩⟩
    · exact fun m hm => fluent_exprs hargs m hm hlo
    · exact List.forall_mem_map.mpr fun k hk => hkeywords k hk hlo

/-- behind an expression that is placed from `start` on, members, calls and subscripts that start
there are placed as well -/
theorem reads_trailers (hg : g.Orderly) {start : Position} (hstart : ∀ p ∈ lo, p = start) {e : Expr}
    (he : Placed lo e) : Reads lo (trailers g n start e) := by
  induction n generalizing e with
  | zero => exact .failure
  | succ n ih =>
    refine reads_peek.bind fun l _ => ?_
    split
    · refine reads_skip.bind fun _ _ => reads_identifier.bind fun attr hattr => ih ?_
      exact placed_member start he hattr
    · refine (reads_arguments hg true).bind fun (args, keywords) hargs => ih ?_
      exact placed_call hstart he hargs.1 hargs.2
    · refine reads_skip.bind fun _ _ => (reads_slices hg).bind fun index hindex => ?_
      refine (reads_expect _).bind fun _ _ => ih ⟨⟨he.1.1, rfl⟩, Node.fluentFrom_of_children rfl ?_⟩
      exact List.forall_mem_cons.mpr ⟨he.2, List.forall_mem_singleton.mpr hindex.2⟩
    · exact .pure he

/-- an expression with calls behind it is placed from its first token on, and so from any place
before it -/
theorem reads_primary (hg : g.Orderly) : Reads lo (primary g n) := by
  intro ts e rest hts hrun
  cases ts with
  | nil => cases hrun
  | cons t ts =>
    have hreads : ∀ {lo}, (∀ p ∈ lo, p = t.pos) → Reads lo (atom g n >>= trailers g n t.pos) :=
      fun hstart => (reads_atom hg).bind fun e he => reads_trailers hg hstart he
    cases lo with
    | none => exact hreads (by rintro _ ⟨⟩) (t :: ts) e rest hts hrun
    | some start =>
      have hordered := hts.ordered start rfl
      have hlo : start.le t.pos = true := hordered.behind t List.mem_cons_self
      have hready : Ready (some t.pos) (t :: ts) :=
        ⟨hts.named, by rintro _ ⟨⟩; exact hordered.raise, fun _ => hts.oneLine rfl⟩
      obtain ⟨he, hrest⟩ := hreads (by rintro _ ⟨⟩; rfl) (t :: ts) e rest hready hrun
      refine ⟨⟨⟨?_, he.1.2⟩, fun _ => he.2 rfl⟩, ⟨hrest.named, ?_, fun _ => hrest.oneLine rfl⟩⟩
      · rintro _ ⟨⟩ d hd
        exact Position.le_trans _ _ _ hlo (he.1.1 t.pos rfl d hd)
      · rintro _ ⟨⟩
        exact (hrest.ordered t.pos rfl).lower hlo

theorem reads_awaited (hg : g.Orderly) : Reads lo (awaited g n) := by
  refine reads_here.bind fun start _ => (reads_accept _).bind fun awaits _ => ?_
  split
  · exact (reads_primary hg).bind fun e he => .pure (placed_other start (placed_singleton he))
  · exact reads_primary hg

theorem reads_factor {base : Parser Expr} (hbase : Reads lo base) : Reads lo (factor base n) := by
  induction n with
  | zero => exact .failure
  | succ n ih =>
    refine reads_here.bind fun start _ => reads_peek.bind fun l _ => ?_
    split
    iterate 3
      exact reads_skip.bind fun _ _ => ih.bind fun e he =>
        .pure (placed_other start (placed_singleton he))
    refine hbase.bind fun e he => (reads_accept _).bind fun power _ => ?_
    split
    · exact ih.bind fun exponent hexponent => .pure (placed_other start (by simp [he, hexponent]))
    · exact .pure he

theorem reads_binaryTail {operand : Parser Expr} (hoperand : Reads lo operand)
    (operators : List Symbol) (start : Position) {left : Expr} (hleft : Placed lo left) :
    Reads lo (binaryTail operators operand n start left) := by
  induction n generalizing left with
  | zero => exact .failure
  | succ n ih =>
    refine reads_peek.bind fun l _ => ?_
    split
    · split
      · refine reads_skip.bind fun _ _ => hoperand.bind fun right hright => ih ?_
        exact placed_other start (by simp [hleft, hright])
      · exact .pure hleft
    · exact .pure hleft

theorem reads_binary {operand : Parser Expr} (hoperand : Reads lo operand)
    (operators : List Symbol) :
    Reads lo (binary operators operand n) :=
  reads_here.bind fun start _ => hoperand.bind fun _ hleft =>
    reads_binaryTail hoperand operators start hleft

theorem reads_operand (hg : g.Orderly) : Reads lo (operand g n) :=
  reads_binary (reads_binary (reads_binary (reads_binary (reads_binary (reads_binary
    (reads_factor (reads_awaited hg)) _) _) _) _) _) _

theorem placed_joined (start : Position) {first : Expr} {more : List Expr}
    (hfirst : Placed lo first) (hmore : Placed lo more) : Placed lo (joined start first more) := by
  unfold joined
  split
  · exact hfirst
  · exact placed_other start (placed_cons.mpr ⟨hfirst, hmore⟩)

theorem reads_comparisonOperator : Reads lo comparisonOperator := by
  have htaken : Reads lo (skip >>= fun _ => pure true) := reads_skip.bind fun _ _ => .pure trivial
  refine reads_peek.bind fun first _ => reads_peekSecond.bind fun second _ => ?_
  split
  · split
    iterate 6 exact htaken
    exact .pure trivial
  · exact htaken
  · exact reads_skip.bind fun _ _ => htaken
  · refine reads_skip.bind fun _ _ => ?_
    dsimp only
    split
    · exact htaken
    · exact .pure trivial
  · exact .pure trivial

theorem reads_comparison {operand : Parser Expr} (hoperand : Reads lo operand) :
    Reads lo (comparison operand n) := by
  refine reads_here.bind fun start _ => hoperand.bind fun first hfirst => ?_
  refine (reads_many (reads_announced reads_comparisonOperator hoperand) n).bind
    fun more hmore => ?_
  exact .pure (placed_joined start hfirst hmore)

theorem reads_inversion {comparison : Parser Expr} (hcomparison : Reads lo comparison) :
    Reads lo (inversion comparison n) := by
  induction n with
  | zero => exact .failure
  | succ n ih =>
    refine reads_here.bind fun start _ => (reads_accept _).bind fun negated _ => ?_
    split
    · exact ih.bind fun e he => .pure (placed_other start (placed_singleton he))
    · exact hcomparison

theorem reads_connected (word : Word) {operand : Parser Expr} (hoperand : Reads lo operand) :
    Reads lo (connected word operand n) := by
  refine reads_here.bind fun start _ => hoperand.bind fun first hfirst => ?_
  refine (reads_many (reads_announced (reads_accept _) hoperand) n).bind fun more hmore => ?_
  exact .pure (placed_joined start hfirst hmore)

theorem reads_disjunction (hg : g.Orderly) : Reads lo (disjunction g n) :=
  reads_connected .or_
    (reads_connected .and_ (reads_inversion (reads_comparison (reads_operand hg))))

theorem reads_conditional (hg : g.Orderly) : Reads lo (conditional g n) := by
  refine reads_here.bind fun start _ => (reads_accept _).bind fun lambda _ => ?_
  split
  · refine (reads_parameters hg false).bind fun ps hps => (reads_expect _).bind fun _ _ => ?_
    refine hg.expression.bind fun body hbody => .pure (placed_of_children rfl rfl ?_)
    have hparameters : (Node.parameters ps).FluentFrom lo :=
      Node.fluentFrom_of_children rfl (List.forall_mem_map.mpr hps)
    exact List.forall_mem_cons.mpr ⟨hparameters, List.forall_mem_singleton.mpr hbody.2⟩
  refine (reads_disjunction hg).bind fun value hvalue =>
    (reads_accept _).bind fun conditional _ => ?_
  split
  · refine hg.disjunction.bind fun test htest => (reads_expect _).bind fun _ _ => ?_
    refine hg.expression.bind fun otherwise hotherwise => .pure (placed_other start ?_)
    simp [htest, hvalue, hotherwise]
  · exact .pure hvalue

/-! ## the whole grammar -/

theorem orderly_grammar (n : Nat) : (grammar n).Orderly := by
  induction n with
  | zero => exact ⟨.failure, .failure, .failure, .failure⟩
  | succ n ih =>
    exact ⟨reads_conditional ih, reads_disjunction ih, reads_operand ih, reads_primary ih⟩

end Archetype.Code
