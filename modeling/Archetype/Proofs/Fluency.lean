import Archetype.Code.Grammar.Statement
import Archetype.Proofs.Nodes
import Archetype.Proofs.Spelling
import Archetype.Proofs.TokenOrder

/-!
# Fluent calls

In `a.f(x).g(y)` the call of `f` lies in the receiver chain of the call of `g`. A node is fluent if
none of its calls starts behind a call of its chain. What a parser reads is fluent once the tokens
come in order, and its names are not empty once those of the tokens are not. This module has the
rules by which both are shown for one parser after the other. Fluency is claimed only where a place
is given, from which the tokens come in order; the claim about names needs no such place.

* `Expr.chain`     the calls in the receiver chain of an expression;
* `Node.Fluent`    no call of the node starts behind a call of its chain;
* `Placed`         a value is spelled, and from a place on it is fluent and its chains stand there;
* `Reads`          from tokens in order from a place on, a parser reads a value placed from there
                   on.
-/

namespace Archetype.Code

/-! ## chains -/

/-- the calls in the receiver chain of an expression, outermost first -/
def Expr.chain : Expr → List CallSite
  | .call pos func args keywords => ⟨pos, func, args, keywords⟩ :: func.chain
  | .member _ value _ => value.chain
  | .subscript _ value _ => value.chain
  | _ => []

namespace Node

/-- no call of the node starts behind a call of its receiver chain -/
def Fluent (n : Node) : Prop := ∀ c ∈ n.calls, ∀ d ∈ c.func.chain, c.pos.le d.pos = true

theorem fluent_iff (n : Node) :
    n.Fluent ↔ (∀ c, n.call? = some c → ∀ d ∈ c.func.chain, c.pos.le d.pos = true) ∧
    ∀ m ∈ n.children, m.Fluent := by
  unfold Fluent
  rw [calls_eq]
  simp only [List.mem_append, Option.mem_toList, List.mem_flatMap]
  constructor
  · intro h
    exact ⟨fun c hc => h c (Or.inl hc), fun m hm c hc => h c (Or.inr ⟨m, hm, hc⟩)⟩
  · rintro ⟨hown, hchildren⟩ c (hc | ⟨m, hm, hc⟩)
    · exact hown c hc
    · exact hchildren m hm c hc

/-- a node that is no call is fluent if its children are -/
theorem fluent_of_children {n : Node} (hcall : n.call? = none) (h : ∀ m ∈ n.children, m.Fluent) :
    n.Fluent := by
  refine (fluent_iff n).mpr ⟨fun c hc => ?_, h⟩
  rw [hcall] at hc
  cases hc

/-- the node is fluent, if a place is given at all -/
def FluentFrom (lo : Option Position) (n : Node) : Prop := lo.isSome = true → n.Fluent

theorem fluentFrom_of_children {lo : Option Position} {n : Node} (hcall : n.call? = none)
    (h : ∀ m ∈ n.children, m.FluentFrom lo) : n.FluentFrom lo :=
  fun hlo => fluent_of_children hcall fun m hm => h m hm hlo

end Node

/-! ## placed values -/

/-- what it means for a value to be placed from `lo` on, or to be spelled if no place is given -/
class Sited (α : Type) where
  Placed : Option Position → α → Prop

export Sited (Placed)

variable {α β : Type} {lo : Option Position}

/-- flags and the like have no place -/
instance : Sited Unit := ⟨fun _ _ => True⟩
instance : Sited Bool := ⟨fun _ _ => True⟩
instance : Sited Nat := ⟨fun _ _ => True⟩
instance : Sited Token := ⟨fun _ _ => True⟩
instance : Sited Position := ⟨fun _ _ => True⟩
instance : Sited ArgumentMode := ⟨fun _ _ => True⟩

/-- names are not empty, wherever they stand -/
instance : Sited String := ⟨fun _ s => s ≠ ""⟩
instance : Sited Import := ⟨fun _ i => i.name ≠ ""⟩
instance : Sited Lexeme :=
  ⟨fun lo l => (lo.isSome = true → l.isOneLine = true) ∧ l.isNamed = true⟩
instance : Sited Literal := ⟨fun lo l => lo.isSome = true → l.format = true → '\n' ∉ l.body⟩

/-- the chain of the expression stands from a place on, its name is not empty, and it is fluent -/
instance : Sited Expr := ⟨fun lo e =>
  ((∀ start ∈ lo, ∀ d ∈ e.chain, start.le d.pos = true) ∧ e.isSpelled = true) ∧
    (Node.expr e).FluentFrom lo⟩
instance : Sited Keyword := ⟨fun lo k => (Node.keyword k).FluentFrom lo⟩
instance : Sited Clause := ⟨fun lo c => (Node.clause c).FluentFrom lo⟩
instance : Sited Parameter := ⟨fun lo p => p.node.FluentFrom lo⟩
instance : Sited WithItem := ⟨fun lo i => (Node.item i).FluentFrom lo⟩
instance : Sited Case := ⟨fun lo c => (Node.case c).FluentFrom lo⟩

/-- the names that the statements bind others to are not empty, down to those in blocks that run at
once -/
instance : Sited Stmt :=
  ⟨fun lo s => (Node.stmt s).FluentFrom lo ∧ ∀ t ∈ s.topLevel, t.isSpelled = true⟩
instance : Sited Handler :=
  ⟨fun lo h => (Node.handler h).FluentFrom lo ∧ ∀ t ∈ Handler.topLevelAll [h], t.isSpelled = true⟩

/-- the value of a pattern can be the key of a mapping, where it stands on its own -/
instance : Sited Pattern :=
  ⟨fun lo p => (Node.pattern p).FluentFrom lo ∧ ∀ e, p = .value e → Placed lo e⟩

instance [Sited α] : Sited (List α) := ⟨fun lo as => ∀ a ∈ as, Placed lo a⟩
instance [Sited α] : Sited (Option α) := ⟨fun lo o => ∀ a, o = some a → Placed lo a⟩
instance [Sited α] [Sited β] : Sited (α × β) := ⟨fun lo p => Placed lo p.1 ∧ Placed lo p.2⟩

section

variable [Sited α]

@[simp] theorem placed_nil : Placed lo ([] : List α) := nofun

@[simp] theorem placed_cons {a : α} {as : List α} :
    Placed lo (a :: as) ↔ Placed lo a ∧ Placed lo as :=
  List.forall_mem_cons

theorem placed_singleton {a : α} (h : Placed lo a) : Placed lo [a] :=
  placed_cons.mpr ⟨h, placed_nil⟩

@[simp] theorem placed_append {as bs : List α} :
    Placed lo (as ++ bs) ↔ Placed lo as ∧ Placed lo bs :=
  List.forall_mem_append

@[simp] theorem placed_none : Placed lo (none : Option α) := nofun

@[simp] theorem placed_some {a : α} : Placed lo (some a) ↔ Placed lo a := by
  constructor
  · intro h
    exact h a rfl
  · rintro h b ⟨⟩
    exact h

end

/-- an expression that ends no chain and has no name is placed wherever its children are fluent -/
theorem placed_of_children {e : Expr} (hchain : e.chain = []) (hspelled : e.isSpelled = true)
    (h : ∀ m ∈ Node.ofExpr e, m.FluentFrom lo) : Placed lo e := by
  refine ⟨⟨by rw [hchain]; exact nofun, hspelled⟩, Node.fluentFrom_of_children ?_ h⟩
  cases e with
  | call pos func args keywords => cases hchain
  | _ => rfl

/-! ## parsers -/

/-- tokens whose names are not empty, in source order from `lo` on and with each format literal on
one line -/
structure Ready (lo : Option Position) (ts : List Token) : Prop where
  named : ∀ t ∈ ts, t.lexeme.isNamed = true
  ordered : ∀ start ∈ lo, Ordered start ts
  oneLine : lo.isSome = true → ∀ t ∈ ts, t.lexeme.isOneLine = true

theorem Ready.placed {ts : List Token} (h : Ready lo ts) {t : Token} (ht : t ∈ ts) :
    Placed lo t.lexeme := ⟨fun hlo => h.oneLine hlo t ht, h.named t ht⟩

theorem Ready.tail {ts : List Token} (h : Ready lo ts) : Ready lo ts.tail where
  named t ht := h.named t (List.mem_of_mem_tail ht)
  ordered start hstart := (h.ordered start hstart).tail
  oneLine hlo t ht := h.oneLine hlo t (List.mem_of_mem_tail ht)

/-- from tokens that are ready from `lo` on, the parser reads a value that is placed from `lo` on,
and leaves tokens that are ready again -/
def Reads [Sited α] (lo : Option Position) (p : Parser α) : Prop :=
  ∀ ts a rest, Ready lo ts → p ts = some (a, rest) → Placed lo a ∧ Ready lo rest

namespace Reads

variable [Sited α] [Sited β]

theorem pure {a : α} (h : Placed lo a) : Reads lo (pure a) := by
  intro ts b rest hts hrun
  cases hrun
  exact ⟨h, hts⟩

theorem bind {p : Parser α} {f : α → Parser β} (hp : Reads lo p)
    (hf : ∀ a, Placed lo a → Reads lo (f a)) :
    Reads lo (p >>= f) := by
  intro ts b rest hts hrun
  obtain ⟨⟨a, mid⟩, hfirst, hsecond⟩ := Option.bind_eq_some_iff.mp hrun
  obtain ⟨ha, hmid⟩ := hp ts a mid hts hfirst
  exact hf a ha mid b rest hmid hsecond

theorem failure : Reads lo (failure : Parser α) := by
  intro ts a rest _ hrun
  cases hrun

theorem orElse {p q : Parser α} (hp : Reads lo p) (hq : Reads lo q) : Reads lo (p <|> q) := by
  intro ts a rest hts hrun
  have hrun' : (p ts).or (q ts) = some (a, rest) := by
    rw [← hrun, Option.or_eq_orElse]
    rfl
  rcases Option.or_eq_some_iff.mp hrun' with hfirst | ⟨_, hsecond⟩
  · exact hp ts a rest hts hfirst
  · exact hq ts a rest hts hsecond

/-- a parser that only looks at the tokens -/
theorem look {p : Parser α} {f : List Token → α} (hp : ∀ ts, p ts = some (f ts, ts))
    (hf : ∀ ts, Ready lo ts → Placed lo (f ts)) : Reads lo p := by
  intro ts a rest hts hrun
  rw [hp ts] at hrun
  cases hrun
  exact ⟨hf ts hts, hts⟩

end Reads

open Archetype.Code.Parser

theorem reads_peek : Reads lo peek := by
  refine Reads.look (fun _ => rfl) fun ts hts l hl => ?_
  obtain ⟨t, ht, rfl⟩ := Option.map_eq_some_iff.mp hl
  exact hts.placed (List.mem_of_head? ht)

theorem reads_peekSecond : Reads lo peekSecond := by
  refine Reads.look (fun _ => rfl) fun ts hts l hl => ?_
  obtain ⟨t, ht, rfl⟩ := Option.map_eq_some_iff.mp hl
  exact hts.placed (List.mem_of_mem_tail (List.mem_of_head? ht))

theorem reads_here : Reads lo here := Reads.look (fun _ => rfl) fun _ _ => trivial

theorem reads_sees (l : Lexeme) : Reads lo (sees l) := Reads.look (fun _ => rfl) fun _ _ => trivial

theorem reads_skip : Reads lo skip := by
  intro ts a rest hts hrun
  cases hrun
  exact ⟨trivial, hts.tail⟩

theorem reads_accept (l : Lexeme) : Reads lo (accept l) := by
  refine (reads_sees l).bind fun seen _ => ?_
  split
  · exact reads_skip.bind fun _ _ => .pure trivial
  · exact .pure trivial

theorem reads_expect (l : Lexeme) : Reads lo (expect l) := by
  refine (reads_accept l).bind fun seen _ => ?_
  split
  · exact .pure trivial
  · exact .failure

/-- the name of a name token is not empty -/
theorem placed_id {id : String} {plain : Bool} (h : Placed lo (some (Lexeme.name id plain))) :
    Placed lo id := bne_iff_ne.mp (placed_some.mp h).2

theorem reads_identifier : Reads lo identifier := by
  refine reads_peek.bind fun l hl => ?_
  split
  · exact reads_skip.bind fun _ _ => .pure (placed_id hl)
  · exact .failure

theorem reads_require (b : Bool) : Reads lo (require b) := by
  unfold require
  split
  · exact .pure trivial
  · exact .failure

theorem reads_many [Sited α] {step : Parser (Option α)} (h : Reads lo step) (n : Nat) :
    Reads lo (many step n) := by
  induction n with
  | zero => exact .failure
  | succ n ih =>
    refine h.bind fun found hfound => ?_
    cases found with
    | none => exact .pure placed_nil
    | some a =>
      refine ih.bind fun more hmore => .pure ?_
      exact placed_cons.mpr ⟨placed_some.mp hfound, hmore⟩

theorem reads_commaSeparated [Sited α] {item : Parser α} (starts : Option Lexeme → Bool)
    (h : Reads lo item) (n : Nat) : Reads lo (commaSeparated starts item n) := by
  induction n with
  | zero => exact .failure
  | succ n ih =>
    refine h.bind fun a ha => (reads_accept _).bind fun comma _ => ?_
    split
    · refine reads_peek.bind fun l _ => ?_
      split
      · refine ih.bind fun (more, trailing) hmore => .pure ?_
        exact ⟨placed_cons.mpr ⟨ha, hmore.1⟩, trivial⟩
      · exact .pure ⟨placed_singleton ha, trivial⟩
    · exact .pure ⟨placed_singleton ha, trivial⟩

theorem reads_commaRest [Sited α] {item : Parser α} (starts : Option Lexeme → Bool)
    (h : Reads lo item) (n : Nat) : Reads lo (commaRest starts item n) := by
  refine (reads_accept _).bind fun comma _ => ?_
  split
  · refine reads_peek.bind fun l _ => ?_
    split
    · exact reads_commaSeparated starts h n
    · exact .pure ⟨placed_nil, trivial⟩
  · exact .pure ⟨placed_nil, trivial⟩

theorem reads_some [Sited α] {p : Parser α} (hp : Reads lo p) : Reads lo (do return some (← p)) :=
  hp.bind fun _ ha => .pure (placed_some.mpr ha)

/-- a step of a repetition that a sign announces -/
theorem reads_announced [Sited α] {sign : Parser Bool} {p : Parser α} (hsign : Reads lo sign)
    (hp : Reads lo p) :
    Reads lo (do if ← sign then return some (← p) else return none) := by
  refine hsign.bind fun seen _ => ?_
  split
  · exact reads_some hp
  · exact .pure placed_none

end Archetype.Code
