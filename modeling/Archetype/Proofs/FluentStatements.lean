import Archetype.Proofs.FluentExpressions
import Archetype.Proofs.RelativeImports

/-!
# Modules are read fluently

The parsers of patterns and statements only put together what the grammar of expressions reads. So
in a module read from a text no call starts behind a call of its receiver chain, as long as no
format literal goes on to a second line: in such a literal, places are counted from the bracket that
opens a field. And the names that a module binds others to are never empty.

* `reads_pattern`, `reads_statement`   one lemma for each parser, as for expressions;
* `le_pos_of_mem_chain`                what holds of the calls of a text;
* `isSpelled_of_parseModule?`          what holds of the names of a text.
-/

namespace Archetype.Code

open Archetype.Code.Parser

variable {lo : Option Position} {g : Grammar} {n : Nat}

/-! ## patterns -/

/-- a pattern that is no value is placed wherever its parts are fluent -/
theorem placed_pattern {p : Pattern} (hvalue : ∀ e, p ≠ .value e)
    (h : ∀ m ∈ Node.ofPattern p, m.FluentFrom lo) :
    Placed lo p :=
  ⟨Node.fluentFrom_of_children rfl h, fun e he => absurd he (hvalue e)⟩

theorem placed_value {e : Expr} (h : Placed lo e) : Placed lo (Pattern.value e) := by
  refine ⟨Node.fluentFrom_of_children rfl (List.forall_mem_singleton.mpr h.2), ?_⟩
  rintro e' ⟨⟩
  exact h

theorem fluent_patterns {ps : List Pattern} (h : Placed lo ps) :
    ∀ m ∈ ps.map Node.pattern, m.FluentFrom lo :=
  List.forall_mem_map.mpr fun p hp => (h p hp).1

theorem placed_sequence {ps : List Pattern} (h : Placed lo ps) : Placed lo (Pattern.sequence ps) :=
  placed_pattern nofun (fluent_patterns h)

theorem reads_captureName : Reads lo captureName := by
  refine reads_identifier.bind fun id hid => (reads_require _).bind fun _ _ => ?_
  refine reads_peek.bind fun l _ => ?_
  split
  iterate 3 exact .failure
  exact .pure hid

theorem reads_numberToken : Reads lo numberToken := by
  refine reads_peek.bind fun l _ => ?_
  split
  · exact reads_skip.bind fun _ _ => .pure trivial
  · exact .failure

theorem reads_signedNumber : Reads lo signedNumber := by
  refine (reads_accept _).bind fun _ _ => reads_numberToken.bind fun imaginary _ =>
    (reads_accept _).bind fun plus _ => ?_
  have hsum : ∀ minus : Bool, Reads lo (if (plus || minus) = true then do
      require !imaginary
      require (← numberToken) else pure ()) := by
    intro minus
    split
    · exact (reads_require _).bind fun _ _ => reads_numberToken.bind fun _ _ => reads_require _
    · exact .pure trivial
  dsimp only
  split
  · exact hsum false
  · exact (reads_accept _).bind fun minus _ => hsum minus

theorem reads_dotted (least : Nat) : Reads lo (dotted n least) := by
  refine reads_here.bind fun start _ => reads_identifier.bind fun id hid => ?_
  refine (reads_many (reads_announced (reads_accept _) reads_identifier) n).bind
    fun attrs hattrs => ?_
  refine (reads_require _).bind fun _ _ => .pure ?_
  have hmembers : ∀ (attrs : List String) (e : Expr), Placed lo attrs → Placed lo e →
      Placed lo (attrs.foldl (fun e attr => Expr.member start e attr) e) := by
    intro attrs
    induction attrs with
    | nil => exact fun e _ he => he
    | cons attr attrs ih =>
      intro e hattrs he
      obtain ⟨hattr, hmore⟩ := placed_cons.mp hattrs
      exact ih _ hmore (placed_member start he hattr)
  exact hmembers attrs _ hattrs (placed_name start hid)

theorem reads_literalPattern? (hg : g.Orderly) : Reads lo (literalPattern? g n) := by
  refine reads_here.bind fun start _ => reads_peek.bind fun l _ => ?_
  have hnumber : Placed lo (Pattern.value (.other start [])) :=
    placed_value (placed_other start placed_nil)
  have hconstant : Placed lo Pattern.constant := placed_pattern nofun nofun
  split
  iterate 2 exact reads_signedNumber.bind fun _ _ => .pure (placed_some.mpr hnumber)
  · exact (reads_strings (reads_roundBrackets hg)).bind fun e he =>
      .pure (placed_some.mpr (placed_value he))
  iterate 3 exact reads_skip.bind fun _ _ => .pure (placed_some.mpr hconstant)
  exact .pure placed_none

theorem reads_mappingKey (hg : g.Orderly) : Reads lo (mappingKey g n) := by
  refine reads_here.bind fun start _ => (reads_literalPattern? hg).bind fun literal hliteral => ?_
  split
  · exact .pure ((placed_some.mp hliteral).2 _ rfl)
  · exact .pure (placed_other start placed_nil)
  · exact reads_dotted 1

theorem reads_starPattern {inner : Parser Pattern} (hinner : Reads lo inner) :
    Reads lo (starPattern inner) := by
  refine (reads_accept _).bind fun star _ => ?_
  split
  · refine reads_peek.bind fun l _ => ?_
    split
    · exact reads_skip.bind fun _ _ => .pure (placed_pattern nofun nofun)
    · exact reads_captureName.bind fun name _ => .pure (placed_pattern nofun nofun)
  · exact hinner

instance : Sited MappingPart where
  Placed lo
    | .entry key value => Placed lo key ∧ Placed lo value
    | .rest _ => True

theorem reads_mappingPart (hg : g.Orderly) {inner : Parser Pattern} (hinner : Reads lo inner) :
    Reads lo (mappingPart g n inner) := by
  refine (reads_accept _).bind fun doubleStar _ => ?_
  split
  · exact reads_captureName.bind fun name _ => .pure trivial
  · refine (reads_mappingKey hg).bind fun key hkey => (reads_expect _).bind fun _ _ => ?_
    exact hinner.bind fun value hvalue => .pure ⟨hkey, hvalue⟩

theorem placed_mappingOf? {parts : List MappingPart} {keys : List Expr} {values : List Pattern}
    {rest : Option String} (h : mappingOf? parts = some (keys, values, rest))
    (hparts : Placed lo parts) :
    Placed lo keys ∧ Placed lo values := by
  fun_induction mappingOf? parts generalizing keys values rest with
  | case1 => cases h; exact ⟨placed_nil, placed_nil⟩
  | case2 => cases h; exact ⟨placed_nil, placed_nil⟩
  | case3 => cases h
  | case4 key value parts ih =>
    obtain ⟨⟨keys', values', rest'⟩, hmapping, heq⟩ := Option.map_eq_some_iff.mp h
    cases heq
    obtain ⟨⟨hkey, hvalue⟩, hmore⟩ := placed_cons.mp hparts
    obtain ⟨hkeys, hvalues⟩ := ih hmapping hmore
    exact ⟨placed_cons.mpr ⟨hkey, hkeys⟩, placed_cons.mpr ⟨hvalue, hvalues⟩⟩

theorem reads_mappingPattern (hg : g.Orderly) {inner : Parser Pattern} (hinner : Reads lo inner) :
    Reads lo (mappingPattern g n inner) := by
  refine (reads_accept _).bind fun closes _ => ?_
  split
  · exact .pure (placed_pattern nofun nofun)
  refine (reads_commaSeparated _ (reads_mappingPart hg hinner) n).bind fun (parts, _) hparts => ?_
  refine (reads_expect _).bind fun _ _ => ?_
  split
  · rename_i hmapping
    obtain ⟨hkeys, hvalues⟩ := placed_mappingOf? hmapping hparts.1
    refine .pure (placed_pattern nofun ?_)
    exact List.forall_mem_append.mpr ⟨fluent_exprs hkeys, fluent_patterns hvalues⟩
  · exact .failure

theorem reads_recordPart {inner : Parser Pattern} (hinner : Reads lo inner) :
    Reads lo (recordPart inner) := by
  refine reads_peek.bind fun first _ => reads_peekSecond.bind fun second _ => ?_
  split
  · refine reads_skip.bind fun _ _ => reads_skip.bind fun _ _ => ?_
    exact hinner.bind fun p hp => .pure ⟨trivial, hp⟩
  · exact hinner.bind fun p hp => .pure ⟨trivial, hp⟩

theorem reads_recordPattern {inner : Parser Pattern} (hinner : Reads lo inner) {cls : Expr}
    (hcls : Placed lo cls) :
    Reads lo (recordPattern n inner cls) := by
  refine (reads_accept _).bind fun closes _ => ?_
  split
  · exact .pure (placed_pattern nofun (List.forall_mem_singleton.mpr hcls.2))
  refine (reads_commaSeparated _ (reads_recordPart hinner) n).bind fun (parts, _) hparts => ?_
  refine (reads_expect _).bind fun _ _ => (reads_require _).bind fun _ _ =>
    .pure (placed_pattern nofun ?_)
  have hsome : ∀ {some : List (Bool × Pattern)}, some ⊆ parts → Placed lo (some.map Prod.snd) :=
    fun hsub => List.forall_mem_map.mpr fun part hpart => (hparts.1 part (hsub hpart)).2
  refine List.forall_mem_cons.mpr ⟨hcls.2, List.forall_mem_append.mpr ⟨?_, ?_⟩⟩
  · exact fluent_patterns (hsome (List.takeWhile_subset _))
  · exact fluent_patterns (hsome (List.drop_subset _ _))

theorem reads_namePattern {inner : Parser Pattern} (hinner : Reads lo inner) :
    Reads lo (namePattern n inner) := by
  refine reads_peek.bind fun l _ => ?_
  split
  · exact reads_skip.bind fun _ _ => .pure (placed_pattern nofun nofun)
  refine (reads_dotted 0).bind fun e he => reads_peek.bind fun next _ => ?_
  split
  · exact .failure
  · exact reads_skip.bind fun _ _ => reads_recordPattern hinner he
  · exact .pure (placed_pattern nofun nofun)
  · exact .pure (placed_value he)

/-- one pattern in brackets stands for itself, any others make a sequence -/
theorem reads_roundPattern {inner : Parser Pattern} (hinner : Reads lo inner) :
    Reads lo (roundPattern n inner) := by
  refine (reads_expect _).bind fun _ _ => (reads_accept _).bind fun closes _ => ?_
  split
  · exact .pure (placed_sequence placed_nil)
  refine (reads_commaSeparated _ (reads_starPattern hinner) n).bind
    fun (parts, trailing) hparts => ?_
  refine (reads_expect _).bind fun _ _ => ?_
  split
  · exact (reads_require _).bind fun _ _ => .pure (placed_cons.mp hparts.1).1
  · exact .pure (placed_sequence hparts.1)

theorem reads_closedPattern (hg : g.Orderly) {inner : Parser Pattern} (hinner : Reads lo inner) :
    Reads lo (closedPattern g n inner) := by
  refine (reads_literalPattern? hg).bind fun literal hliteral => ?_
  split
  · exact .pure (placed_some.mp hliteral)
  refine reads_peek.bind fun l _ => ?_
  split
  · exact reads_namePattern hinner
  · exact reads_roundPattern hinner
  · refine reads_skip.bind fun _ _ => (reads_accept _).bind fun closes _ => ?_
    split
    · exact .pure (placed_sequence placed_nil)
    refine (reads_commaSeparated _ (reads_starPattern hinner) n).bind fun (parts, _) hparts => ?_
    exact (reads_expect _).bind fun _ _ => .pure (placed_sequence hparts.1)
  · exact reads_skip.bind fun _ _ => reads_mappingPattern hg hinner
  · exact .failure

theorem reads_pattern (hg : g.Orderly) : Reads lo (pattern g n) := by
  induction n with
  | zero => exact .failure
  | succ n ih =>
    have hclosed : Reads lo (closedPattern g n (pattern g n)) := reads_closedPattern hg ih
    refine hclosed.bind fun first hfirst => ?_
    refine (reads_many (reads_announced (reads_accept _) hclosed) n).bind fun more hmore => ?_
    have hp : Placed lo (if more.isEmpty then first else Pattern.choice (first :: more)) := by
      split
      · exact hfirst
      · exact placed_pattern nofun (fluent_patterns (placed_cons.mpr ⟨hfirst, hmore⟩))
    refine (reads_accept _).bind fun named _ => ?_
    split
    · refine reads_captureName.bind fun name _ => .pure (placed_pattern nofun ?_)
      exact List.forall_mem_singleton.mpr hp.1
    · exact .pure hp

theorem reads_patterns (hg : g.Orderly) : Reads lo (patterns g n) := by
  refine (reads_commaSeparated _ (reads_starPattern (reads_pattern hg)) n).bind
    fun (parts, trailing) hparts => ?_
  dsimp only
  split
  · exact (reads_require _).bind fun _ _ => .pure (placed_cons.mp hparts.1).1
  · exact .pure (placed_sequence hparts.1)

/-! ## simple statements -/

/-- a statement that holds no others of the top level is placed if its parts are fluent -/
theorem placed_stmt {s : Stmt} (htop : s.topLevel = [s]) (hspelled : s.isSpelled = true)
    (h : ∀ m ∈ Node.ofStmt s, m.FluentFrom lo) : Placed lo s := by
  refine ⟨Node.fluentFrom_of_children rfl h, ?_⟩
  rw [htop]
  exact List.forall_mem_singleton.mpr hspelled

theorem placed_evaluate {es : List Expr} (h : Placed lo es) : Placed lo (Stmt.evaluate es) :=
  placed_stmt rfl rfl (fluent_exprs h)

theorem fluent_option {e : Option Expr} (h : Placed lo e) : ∀ m ∈ Node.option e, m.FluentFrom lo :=
  fluent_exprs (placed_toList h)

theorem reads_assignedValue (hg : g.Orderly) : Reads lo (assignedValue g n) := by
  refine (reads_sees _).bind fun yields _ => ?_
  split
  · exact reads_yieldExpression hg
  · exact reads_starExpressions hg

theorem reads_assignment (hg : g.Orderly) (start : Position) {targets : List Expr}
    (htargets : Placed lo targets) :
    Reads lo (assignment g start n targets) := by
  have hassign : ∀ {targets : List Expr} {value : Expr}, Placed lo targets → Placed lo value →
      Placed lo (Stmt.assign start targets value) := fun htargets hvalue =>
    placed_stmt rfl hvalue.1.2
      (List.forall_mem_append.mpr ⟨fluent_exprs htargets, List.forall_mem_singleton.mpr hvalue.2⟩)
  induction n generalizing targets with
  | zero => exact .failure
  | succ n ih =>
    refine (reads_sees _).bind fun yields _ => ?_
    split
    · exact (reads_yieldExpression hg).bind fun value hvalue => .pure (hassign htargets hvalue)
    refine (reads_starExpressions hg).bind fun value hvalue =>
      (reads_accept _).bind fun another _ => ?_
    split
    · refine (reads_require _).bind fun _ _ => ih ?_
      exact placed_append.mpr ⟨htargets, placed_singleton hvalue⟩
    · exact .pure (hassign htargets hvalue)

theorem reads_expressionStatement (hg : g.Orderly) : Reads lo (expressionStatement g n) := by
  refine reads_here.bind fun start _ => (reads_starExpressions hg).bind fun e he =>
    reads_peek.bind fun l _ => ?_
  have hdeclare : ∀ {hint : Expr} {value : Option Expr}, Placed lo hint → Placed lo value →
      Placed lo (Stmt.declare start e hint value) := by
    intro hint value hhint hvalue
    have hspelled : value.all Expr.isSpelled = true := by
      cases value with
      | none => rfl
      | some value => exact (placed_some.mp hvalue).1.2
    refine placed_stmt rfl hspelled (List.forall_mem_cons.mpr ⟨he.2, ?_⟩)
    exact List.forall_mem_cons.mpr ⟨hhint.2, fluent_option hvalue⟩
  split
  · refine (reads_require _).bind fun _ _ => reads_skip.bind fun _ _ =>
      hg.expression.bind fun hint hhint => ?_
    refine (reads_accept _).bind fun assigned _ => ?_
    split
    · exact (reads_assignedValue hg).bind fun value hvalue =>
        .pure (hdeclare hhint (placed_some.mpr hvalue))
    · exact .pure (hdeclare hhint placed_none)
  · refine (reads_require _).bind fun _ _ => reads_skip.bind fun _ _ => ?_
    exact reads_assignment hg start (placed_singleton he)
  · refine (reads_require _).bind fun _ _ => reads_skip.bind fun _ _ => ?_
    refine (reads_assignedValue hg).bind fun value hvalue => .pure (placed_stmt rfl rfl ?_)
    exact List.forall_mem_cons.mpr ⟨he.2, List.forall_mem_singleton.mpr hvalue.2⟩
  · exact .pure (placed_evaluate (placed_singleton he))

theorem reads_dottedName : Reads lo (dottedName n) := by
  refine reads_identifier.bind fun id hid => ?_
  refine (reads_many (reads_announced (reads_accept _) reads_identifier) n).bind
    fun more hmore => ?_
  refine .pure fun hempty => List.cons_ne_nil id more ?_
  exact (joinWith_eq_empty (List.forall_mem_cons.mpr ⟨hid, hmore⟩)).mp hempty

theorem reads_asName : Reads lo asName := reads_announced (reads_accept _) reads_identifier

theorem reads_importName {name : Parser String} (hname : Reads lo name) :
    Reads lo (importName name) :=
  hname.bind fun _ hid => reads_asName.bind fun _ _ => .pure hid

theorem reads_importStatement : Reads lo (importStatement n) := by
  refine (reads_expect _).bind fun _ _ => ?_
  refine (reads_commaSeparated _ (reads_importName reads_dottedName) n).bind
    fun (names, trailing) _ => ?_
  exact (reads_require _).bind fun _ _ => .pure (placed_stmt rfl rfl nofun)

theorem reads_importLevel : Reads lo (importLevel n) := by
  refine (reads_many ?_ n).bind fun _ _ => .pure trivial
  refine (reads_accept _).bind fun dot _ => ?_
  split
  · exact .pure (placed_some.mpr trivial)
  refine (reads_accept _).bind fun ellipsis _ => ?_
  split
  · exact .pure (placed_some.mpr trivial)
  · exact .pure placed_none

theorem reads_importedNames : Reads lo (importedNames n) := by
  have hnames : Reads lo (commaSeparated startsName (importName identifier) n) :=
    reads_commaSeparated _ (reads_importName reads_identifier) n
  refine (reads_accept _).bind fun star _ => ?_
  split
  · exact .pure (placed_singleton (show "*" ≠ "" by decide))
  refine (reads_accept _).bind fun lpar _ => ?_
  split
  · exact hnames.bind fun (names, _) hnames => (reads_expect _).bind fun _ _ => .pure hnames.1
  · exact hnames.bind fun (names, _) hnames => (reads_require _).bind fun _ _ => .pure hnames.1

theorem reads_importFromStatement : Reads lo (importFromStatement n) := by
  refine (reads_expect _).bind fun _ _ => reads_importLevel.bind fun level _ =>
    reads_peek.bind fun l _ => ?_
  have hback : ∀ module : Option String, Reads lo (do
      require (0 < level || module.isSome)
      expectWord .import_
      return Stmt.importFrom module (← importedNames n) level) := by
    intro module
    refine (reads_require _).bind fun _ _ => (reads_expect _).bind fun _ _ => ?_
    refine reads_importedNames.bind fun names hnames => .pure (placed_stmt rfl ?_ nofun)
    exact List.all_eq_true.mpr fun i hi => bne_iff_ne.mpr (hnames i hi)
  dsimp only
  split
  · exact (reads_some reads_dottedName).bind fun module _ => hback module
  · exact hback none

theorem reads_optionalExpressions (hg : g.Orderly) : Reads lo (optionalExpressions g n) := by
  refine reads_peek.bind fun l _ => ?_
  split
  · exact (reads_starExpressions hg).bind fun e he => .pure (placed_singleton he)
  · exact .pure placed_nil

theorem reads_raiseStatement (hg : g.Orderly) : Reads lo (raiseStatement g) := by
  refine (reads_expect _).bind fun _ _ => reads_peek.bind fun l _ => ?_
  split
  · refine hg.expression.bind fun e he => (reads_accept _).bind fun caused _ => ?_
    split
    · exact hg.expression.bind fun cause hcause => .pure (placed_evaluate (by simp [he, hcause]))
    · exact .pure (placed_evaluate (placed_singleton he))
  · exact .pure (placed_evaluate placed_nil)

theorem reads_assertStatement (hg : g.Orderly) : Reads lo (assertStatement g) := by
  refine (reads_expect _).bind fun _ _ => hg.expression.bind fun e he =>
    (reads_accept _).bind fun comma _ => ?_
  split
  · exact hg.expression.bind fun message hmessage =>
      .pure (placed_evaluate (by simp [he, hmessage]))
  · exact .pure (placed_evaluate (placed_singleton he))

theorem reads_deleteStatement (hg : g.Orderly) : Reads lo (deleteStatement g n) := by
  refine (reads_expect _).bind fun _ _ => ?_
  refine (reads_commaSeparated _ hg.primary n).bind fun (targets, _) htargets => ?_
  exact (reads_require _).bind fun _ _ => .pure (placed_stmt rfl rfl (fluent_exprs htargets.1))

theorem reads_simpleStatement (hg : g.Orderly) : Reads lo (simpleStatement g n) := by
  have hempty : Placed lo (Stmt.evaluate []) := placed_evaluate placed_nil
  refine reads_peek.bind fun l _ => ?_
  split
  · split
    · exact reads_skip.bind fun _ _ => (reads_optionalExpressions hg).bind fun es hes =>
        .pure (placed_evaluate hes)
    · exact reads_importStatement
    · exact reads_importFromStatement
    · exact reads_raiseStatement hg
    iterate 3 exact reads_skip.bind fun _ _ => .pure hempty
    · exact reads_deleteStatement hg
    · exact (reads_yieldExpression hg).bind fun e he =>
        .pure (placed_evaluate (placed_singleton he))
    · exact reads_assertStatement hg
    iterate 2
      refine reads_skip.bind fun _ _ =>
        (reads_commaSeparated _ reads_identifier n).bind fun (_, trailing) _ => ?_
      exact (reads_require _).bind fun _ _ => .pure hempty
    exact reads_expressionStatement hg
  · exact reads_expressionStatement hg

theorem reads_simpleStatements (hg : g.Orderly) : Reads lo (simpleStatements g n) := by
  induction n with
  | zero => exact .failure
  | succ n ih =>
    refine (reads_simpleStatement hg).bind fun s hs => (reads_accept _).bind fun ends _ => ?_
    have hone : Placed lo [s] := placed_singleton hs
    split
    · exact .pure hone
    refine (reads_expect _).bind fun _ _ => (reads_accept _).bind fun ends _ => ?_
    split
    · exact .pure hone
    · exact ih.bind fun more hmore => .pure (placed_cons.mpr ⟨hs, hmore⟩)

/-! ## compound statements -/

theorem placed_flatten {blocks : List (List Stmt)} (h : Placed lo blocks) :
    Placed lo blocks.flatten :=
  List.forall_mem_flatten.mpr h

/-- a step of a repetition that goes on up to the end of a block -/
theorem reads_inBlock {α : Type} [Sited α] {p : Parser α} (hp : Reads lo p) :
    Reads lo (do if ← accept .dedent then return none else return some (← p)) := by
  refine (reads_accept _).bind fun ends _ => ?_
  split
  · exact .pure placed_none
  · exact reads_some hp

theorem reads_block (hg : g.Orderly) {inner : Parser (List Stmt)} (hinner : Reads lo inner) :
    Reads lo (block g n inner) := by
  refine (reads_accept _).bind fun ends _ => ?_
  split
  · refine (reads_expect _).bind fun _ _ => hinner.bind fun first hfirst => ?_
    refine (reads_many (reads_inBlock hinner) n).bind fun more hmore => .pure ?_
    exact placed_append.mpr ⟨hfirst, placed_flatten hmore⟩
  · exact reads_simpleStatements hg

section

variable {block : Parser (List Stmt)}

theorem reads_colonBlock (hblock : Reads lo block) : Reads lo (colonBlock block) :=
  (reads_expect _).bind fun _ _ => hblock

theorem reads_optionalBlock (word : Word) (hblock : Reads lo block) :
    Reads lo (optionalBlock word block) := by
  refine (reads_accept _).bind fun seen _ => ?_
  split
  · exact reads_colonBlock hblock
  · exact .pure placed_nil

theorem fluent_stmts {ss : List Stmt} (h : Placed lo ss) : ∀ m ∈ Node.stmts ss, m.FluentFrom lo :=
  List.forall_mem_map.mpr fun s hs => (h s hs).1

theorem spelled_stmts {ss : List Stmt} (h : Placed lo ss) :
    ∀ t ∈ Stmt.topLevelAll ss, t.isSpelled = true := by
  induction ss with
  | nil => exact nofun
  | cons s ss ih =>
    obtain ⟨hs, hmore⟩ := placed_cons.mp h
    exact List.forall_mem_append.mpr ⟨hs.2, ih hmore⟩

theorem spelled_handlers {hs : List Handler} (h : Placed lo hs) :
    ∀ t ∈ Handler.topLevelAll hs, t.isSpelled = true := by
  induction hs with
  | nil => exact nofun
  | cons handler hs ih =>
    obtain ⟨hfirst, hmore⟩ := placed_cons.mp h
    obtain ⟨type, name, body⟩ := handler
    have hbody := (List.forall_mem_append.mp hfirst.2).1
    exact List.forall_mem_append.mpr ⟨hbody, ih hmore⟩

/-- a test or a loop head, with the block behind it and the one behind `else` -/
theorem fluent_branches {test : Expr} {body otherwise : List Stmt} (htest : Placed lo test)
    (hbody : Placed lo body) (hotherwise : Placed lo otherwise) :
    ∀ m ∈ Node.expr test :: (Node.stmts body ++ Node.stmts otherwise), m.FluentFrom lo :=
  List.forall_mem_cons.mpr ⟨htest.2,
    List.forall_mem_append.mpr ⟨fluent_stmts hbody, fluent_stmts hotherwise⟩⟩

theorem placed_if {test : Expr} {body otherwise : List Stmt} (htest : Placed lo test)
    (hbody : Placed lo body) (hotherwise : Placed lo otherwise) :
    Placed lo (Stmt.if_ test body otherwise) := by
  refine ⟨Node.fluentFrom_of_children rfl (fluent_branches htest hbody hotherwise), ?_⟩
  refine List.forall_mem_cons.mpr ⟨rfl, ?_⟩
  exact List.forall_mem_append.mpr ⟨spelled_stmts hbody, spelled_stmts hotherwise⟩

theorem reads_ifStatement (hg : g.Orderly) (hblock : Reads lo block) :
    Reads lo (ifStatement g block n) := by
  induction n with
  | zero => exact .failure
  | succ n ih =>
    refine (reads_namedExpression hg).bind fun test htest =>
      (reads_colonBlock hblock).bind fun body hbody => ?_
    refine (reads_accept _).bind fun elif _ => ?_
    split
    · exact ih.bind fun inner hinner => .pure (placed_if htest hbody (placed_singleton hinner))
    · refine (reads_optionalBlock .else_ hblock).bind fun otherwise hotherwise => ?_
      exact .pure (placed_if htest hbody hotherwise)

theorem reads_whileStatement (hg : g.Orderly) (hblock : Reads lo block) :
    Reads lo (whileStatement g block) := by
  refine (reads_namedExpression hg).bind fun test htest =>
    (reads_colonBlock hblock).bind fun body hbody => ?_
  refine (reads_optionalBlock .else_ hblock).bind fun otherwise hotherwise =>
    .pure (placed_stmt rfl rfl ?_)
  exact fluent_branches htest hbody hotherwise

theorem reads_forStatement (hg : g.Orderly) (hblock : Reads lo block) :
    Reads lo (forStatement g n block) := by
  refine (reads_starTargets hg).bind fun target htarget => (reads_expect _).bind fun _ _ => ?_
  refine (reads_starExpressions hg).bind fun iter hiter =>
    (reads_colonBlock hblock).bind fun body hbody => ?_
  refine (reads_optionalBlock .else_ hblock).bind fun otherwise hotherwise =>
    .pure (placed_stmt rfl rfl ?_)
  exact List.forall_mem_cons.mpr ⟨htarget.2, fluent_branches hiter hbody hotherwise⟩

theorem reads_withItem (hg : g.Orderly) : Reads lo (withItem g) := by
  have hitem : ∀ {context : Expr} {target : Option Expr}, Placed lo context → Placed lo target →
      Placed lo (WithItem.mk context target) := fun hcontext htarget =>
    Node.fluentFrom_of_children rfl (List.forall_mem_cons.mpr ⟨hcontext.2, fluent_option htarget⟩)
  refine hg.expression.bind fun context hcontext => (reads_accept _).bind fun named _ => ?_
  split
  · exact (reads_starTarget hg).bind fun target htarget =>
      .pure (hitem hcontext (placed_some.mpr htarget))
  · exact .pure (hitem hcontext placed_none)

theorem reads_bracketedItems (hg : g.Orderly) : Reads lo (bracketedItems g n) := by
  refine (reads_expect _).bind fun _ _ => ?_
  refine (reads_commaSeparated _ (reads_withItem hg) n).bind fun (items, _) hitems => ?_
  exact (reads_expect _).bind fun _ _ => (reads_expect _).bind fun _ _ => .pure hitems.1

theorem reads_plainItems (hg : g.Orderly) : Reads lo (plainItems g n) := by
  refine (reads_commaSeparated _ (reads_withItem hg) n).bind fun (items, trailing) hitems => ?_
  exact (reads_require _).bind fun _ _ => (reads_expect _).bind fun _ _ => .pure hitems.1

theorem reads_withStatement (hg : g.Orderly) (hblock : Reads lo block) :
    Reads lo (withStatement g n block) := by
  refine ((reads_bracketedItems hg).orElse (reads_plainItems hg)).bind fun items hitems => ?_
  refine hblock.bind fun body hbody => .pure (placed_stmt rfl rfl ?_)
  exact List.forall_mem_append.mpr ⟨List.forall_mem_map.mpr hitems, fluent_stmts hbody⟩

theorem reads_handler (hg : g.Orderly) (grouped : Bool) (hblock : Reads lo block) :
    Reads lo (handler g grouped block) := by
  have hhandler : ∀ {type : Option Expr} {name : Option String} {body : List Stmt},
      Placed lo type → Placed lo body →
      Placed lo (some (Handler.mk type name body)) := fun htype hbody =>
    placed_some.mpr
      ⟨Node.fluentFrom_of_children rfl
        (List.forall_mem_append.mpr ⟨fluent_option htype, fluent_stmts hbody⟩),
        List.forall_mem_append.mpr ⟨spelled_stmts hbody, nofun⟩⟩
  have hback : Reads lo (do
      if !grouped && (← seesSymbol .colon) then
        return some (Handler.mk none none (← colonBlock block))
      else
        let type ← g.expression
        let name ← asName
        return some (Handler.mk (some type) name (← colonBlock block))) := by
    refine (reads_sees _).bind fun colon _ => ?_
    split
    · exact (reads_colonBlock hblock).bind fun body hbody => .pure (hhandler placed_none hbody)
    · refine hg.expression.bind fun type htype => reads_asName.bind fun name _ => ?_
      exact (reads_colonBlock hblock).bind fun body hbody =>
        .pure (hhandler (placed_some.mpr htype) hbody)
  refine (reads_sees _).bind fun seen _ => reads_peekSecond.bind fun second _ => ?_
  split
  · split
    · exact .pure placed_none
    refine reads_skip.bind fun _ _ => ?_
    dsimp only
    split
    · exact reads_skip.bind fun _ _ => hback
    · exact hback
  · exact .pure placed_none

theorem reads_tryStatement (hg : g.Orderly) (hblock : Reads lo block) :
    Reads lo (tryStatement g n block) := by
  have htry : ∀ {grouped : Bool} {body otherwise final : List Stmt} {handlers : List Handler},
      Placed lo body →
      Placed lo handlers → Placed lo otherwise → Placed lo final →
      Placed lo (Stmt.try_ grouped body handlers otherwise final) := by
    intro grouped body otherwise final handlers hbody hhandlers hotherwise hfinal
    refine ⟨Node.fluentFrom_of_children rfl (List.forall_mem_append.mpr ⟨fluent_stmts hbody, ?_⟩),
      ?_⟩
    · refine List.forall_mem_append.mpr ⟨List.forall_mem_map.mpr fun h hh => (hhandlers h hh).1, ?_⟩
      exact List.forall_mem_append.mpr ⟨fluent_stmts hotherwise, fluent_stmts hfinal⟩
    · -- a statement that handles groups holds none of the top level
      cases grouped with
      | true => exact List.forall_mem_singleton.mpr rfl
      | false =>
        refine List.forall_mem_cons.mpr ⟨rfl, List.forall_mem_append.mpr ⟨?_, spelled_stmts hfinal⟩⟩
        refine List.forall_mem_append.mpr ⟨?_, spelled_stmts hotherwise⟩
        exact List.forall_mem_append.mpr ⟨spelled_stmts hbody, spelled_handlers hhandlers⟩
  refine (reads_colonBlock hblock).bind fun body hbody => reads_peekSecond.bind fun second _ => ?_
  refine (reads_many (reads_handler hg _ hblock) n).bind fun handlers hhandlers => ?_
  split
  · refine (reads_expect _).bind fun _ _ => (reads_colonBlock hblock).bind fun final hfinal => ?_
    exact .pure (htry hbody placed_nil placed_nil hfinal)
  · refine (reads_optionalBlock .else_ hblock).bind fun otherwise hotherwise => ?_
    refine (reads_optionalBlock .finally_ hblock).bind fun final hfinal => ?_
    exact .pure (htry hbody hhandlers hotherwise hfinal)

theorem reads_classStatement (hg : g.Orderly) (hblock : Reads lo block) {decorators : List Expr}
    (hdecorators : Placed lo decorators) : Reads lo (classStatement g n block decorators) := by
  refine reads_identifier.bind fun name hname => (reads_sees _).bind fun opens _ => ?_
  have hclass : ∀ args : List Expr × List Keyword, Placed lo args →
      Reads lo (do return Stmt.class_ name args.1 args.2 (← colonBlock block) decorators) := by
    intro args hargs
    refine (reads_colonBlock hblock).bind fun body hbody =>
      .pure (placed_stmt rfl (bne_iff_ne.mpr hname) ?_)
    refine List.forall_mem_append.mpr ⟨fluent_exprs hargs.1, List.forall_mem_append.mpr ⟨?_, ?_⟩⟩
    · exact List.forall_mem_map.mpr hargs.2
    · exact List.forall_mem_append.mpr ⟨fluent_stmts hbody, fluent_exprs hdecorators⟩
  dsimp only
  split
  · exact (reads_arguments hg false).bind hclass
  · exact hclass ([], []) ⟨placed_nil, placed_nil⟩

theorem reads_functionStatement (hg : g.Orderly) (hblock : Reads lo block) (start : Position)
    {decorators : List Expr} (hdecorators : Placed lo decorators) :
    Reads lo (functionStatement g n block start decorators) := by
  refine reads_identifier.bind fun name _ => (reads_expect _).bind fun _ _ => ?_
  refine (reads_parameters hg true).bind fun ps hps => (reads_expect _).bind fun _ _ => ?_
  have hfunction : ∀ returns : Option Expr, Placed lo returns →
      Reads lo (do return Stmt.function start name ps (← colonBlock block) decorators returns) := by
    intro returns hreturns
    refine (reads_colonBlock hblock).bind fun body hbody => .pure (placed_stmt rfl rfl ?_)
    refine List.forall_mem_cons.mpr ⟨?_, List.forall_mem_append.mpr ⟨fluent_stmts hbody, ?_⟩⟩
    · exact Node.fluentFrom_of_children rfl (List.forall_mem_map.mpr hps)
    · exact List.forall_mem_append.mpr ⟨fluent_exprs hdecorators, fluent_option hreturns⟩
  refine (reads_accept _).bind fun arrow _ => ?_
  dsimp only
  split
  · exact (reads_some hg.expression).bind hfunction
  · exact hfunction none placed_none

theorem reads_decorated (hg : g.Orderly) (hblock : Reads lo block) {decorators : List Expr}
    (hdecorators : Placed lo decorators) : Reads lo (decorated g n block decorators) := by
  refine reads_here.bind fun start _ => (reads_accept _).bind fun isClass _ => ?_
  split
  · exact reads_classStatement hg hblock hdecorators
  · refine (reads_accept _).bind fun _ _ => (reads_expect _).bind fun _ _ => ?_
    exact reads_functionStatement hg hblock start hdecorators

theorem reads_decorator (hg : g.Orderly) : Reads lo (decorator g) := by
  refine (reads_accept _).bind fun seen _ => ?_
  split
  · refine (reads_namedExpression hg).bind fun e he => (reads_expect _).bind fun _ _ => ?_
    exact .pure (placed_some.mpr he)
  · exact .pure placed_none

theorem reads_case (hg : g.Orderly) (hblock : Reads lo block) : Reads lo (case g n block) := by
  refine (reads_expect _).bind fun _ _ => (reads_patterns hg).bind fun p hp =>
    (reads_accept _).bind fun guarded _ => ?_
  have hcase : ∀ guard : Option Expr, Placed lo guard →
      Reads lo (do return Case.mk p guard (← colonBlock block)) := by
    intro guard hguard
    refine (reads_colonBlock hblock).bind fun body hbody =>
      .pure (Node.fluentFrom_of_children rfl ?_)
    exact List.forall_mem_cons.mpr ⟨hp.1,
      List.forall_mem_append.mpr ⟨fluent_option hguard, fluent_stmts hbody⟩⟩
  dsimp only
  split
  · exact (reads_some (reads_namedExpression hg)).bind hcase
  · exact hcase none placed_none

theorem reads_matchLine (hg : g.Orderly) : Reads lo (matchLine g n) := by
  refine (reads_expect _).bind fun _ _ => reads_here.bind fun start _ => ?_
  refine (reads_commaSeparated _ (reads_item hg) n).bind fun (items, trailing) hitems => ?_
  refine (reads_require _).bind fun _ _ => (reads_expect _).bind fun _ _ =>
    (reads_expect _).bind fun _ _ => ?_
  exact .pure (placed_tupleOr start hitems.1 trailing)

theorem reads_matchStatement (hg : g.Orderly) (hblock : Reads lo block) {subject : Expr}
    (hsubject : Placed lo subject) :
    Reads lo (matchStatement g n block subject) := by
  refine (reads_expect _).bind fun _ _ => (reads_case hg hblock).bind fun first hfirst => ?_
  refine (reads_many (reads_inBlock (reads_case hg hblock)) n).bind fun more hmore =>
    .pure (placed_stmt rfl rfl ?_)
  have hcases : Placed lo (first :: more) := placed_cons.mpr ⟨hfirst, hmore⟩
  exact List.forall_mem_cons.mpr ⟨hsubject.2, List.forall_mem_map.mpr hcases⟩

theorem reads_namedStatement (hg : g.Orderly) (hblock : Reads lo block) :
    Reads lo (namedStatement g n block) := by
  refine (reads_sees _).bind fun seen _ => ?_
  split
  · refine (Reads.orElse (reads_some (reads_matchLine hg)) (.pure placed_none)).bind
      fun subject hsubject => ?_
    cases subject with
    | some subject =>
      refine (reads_matchStatement hg hblock (placed_some.mp hsubject)).bind fun s hs => ?_
      exact .pure (placed_singleton hs)
    | none => exact reads_simpleStatements hg
  · exact reads_simpleStatements hg

theorem reads_statementWith (hg : g.Orderly) (hblock : Reads lo block) :
    Reads lo (statementWith g n block) := by
  have hone : ∀ {p : Parser Stmt}, Reads lo p → Reads lo (do return [← p]) :=
    fun hp => hp.bind fun s hs => .pure (placed_singleton hs)
  refine reads_peek.bind fun first _ => reads_peekSecond.bind fun second _ => ?_
  split
  · exact reads_skip.bind fun _ _ => hone (reads_ifStatement hg hblock)
  · exact reads_skip.bind fun _ _ => hone (reads_whileStatement hg hblock)
  · exact reads_skip.bind fun _ _ => hone (reads_forStatement hg hblock)
  · exact reads_skip.bind fun _ _ => hone (reads_withStatement hg hblock)
  · exact reads_skip.bind fun _ _ => hone (reads_tryStatement hg hblock)
  iterate 2 exact hone (reads_decorated hg hblock placed_nil)
  · exact (reads_many (reads_decorator hg) n).bind fun decorators hdecorators =>
      hone (reads_decorated hg hblock hdecorators)
  · exact reads_skip.bind fun _ _ => reads_skip.bind fun _ _ => hone (reads_forStatement hg hblock)
  · exact reads_skip.bind fun _ _ => reads_skip.bind fun _ _ => hone (reads_withStatement hg hblock)
  · exact hone (reads_decorated hg hblock placed_nil)
  · exact reads_namedStatement hg hblock
  · exact reads_simpleStatements hg

end

theorem reads_statement (hg : g.Orderly) : Reads lo (statement g n) := by
  induction n with
  | zero => exact .failure
  | succ n ih => exact reads_statementWith hg (reads_block hg ih)

theorem reads_statements (hg : g.Orderly) : Reads lo (statements g n) := by
  have hget : Reads lo (get : Parser (List Token)) :=
    Reads.look (fun _ => rfl) fun _ _ _ _ => trivial
  refine (reads_many ?_ n).bind fun ss hss => .pure (placed_flatten hss)
  refine hget.bind fun ts _ => ?_
  split
  · exact .pure placed_none
  · exact reads_some (reads_statement hg)

/-! ## whole modules -/

/-- does each format literal of a text stand on one line? -/
def hasShortFormats (cs : List Char) : Bool :=
  (tokens? cs).all fun tokens => tokens.all fun t => t.lexeme.isOneLine

/-- no call of a module starts behind a call of its receiver chain -/
theorem le_pos_of_mem_chain {cs : List Char} {body : List Stmt} (hshort : hasShortFormats cs = true)
    (h : parseModule? cs = some body) {outer inner : CallSite} (houter : outer ∈ callNodes body)
    (hinner : inner ∈ outer.func.chain) : outer.pos.le inner.pos = true := by
  obtain ⟨tokens, htokens, h⟩ := Option.bind_eq_some_iff.mp h
  obtain ⟨⟨read, rest⟩, hrun, h⟩ := Option.bind_eq_some_iff.mp h
  cases h
  rw [hasShortFormats, htokens, Option.all_some, List.all_eq_true] at hshort
  have hready : Ready (some .start) tokens :=
    ⟨named_of_tokens? htokens, by rintro _ ⟨⟩; exact ordered_of_tokens? htokens, fun _ => hshort⟩
  have hplaced : Placed (some .start) body :=
    (reads_statements (orderly_grammar _) tokens body rest hready hrun).1
  obtain ⟨n, hn, hcall⟩ := List.mem_flatMap.mp houter
  obtain ⟨s, hs, rfl⟩ := List.mem_map.mp hn
  exact (hplaced s hs).1 rfl outer hcall inner hinner

/-- no name is empty that a module binds others to at its top level -/
theorem isSpelled_of_parseModule? {cs : List Char} {body : List Stmt}
    (h : parseModule? cs = some body) :
    (Stmt.topLevelAll body).all Stmt.isSpelled = true := by
  obtain ⟨tokens, htokens, h⟩ := Option.bind_eq_some_iff.mp h
  obtain ⟨⟨read, rest⟩, hrun, h⟩ := Option.bind_eq_some_iff.mp h
  cases h
  have hready : Ready none tokens := ⟨named_of_tokens? htokens, by rintro _ ⟨⟩, nofun⟩
  have hplaced : Placed none body :=
    (reads_statements (orderly_grammar _) tokens body rest hready hrun).1
  exact List.all_eq_true.mpr (spelled_stmts hplaced)

end Archetype.Code
