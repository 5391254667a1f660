import Archetype.Code.Levels
import Mathlib.Data.List.Perm.Basic

/-!
# The nodes of a tree

The parts of a tree that count as a depth of their own are its nodes, and `Node.children` lists
those right below a node. What the search by levels finds is set against these lists alone.

* `levels_eq`        the levels of a node are its own call above the merged levels of its children;
* `Node.calls`       the calls in a node, depth first: at every depth, once for each place;
* `flatten_perm`     the search by levels finds the same calls, each as often;
* `flatten_sublist`  it finds them in an order that goes on below every node of the tree.
-/

namespace Archetype.Code

open Levels

/-! ## levels of many neighbours -/

/-- the levels of a row of neighbours -/
def Levels.mergeAll (rows : List Levels) : Levels := rows.foldr merge []

theorem mergeAll_nil : mergeAll [] = [] := rfl

theorem mergeAll_cons (xs : Levels) (rows : List Levels) :
    mergeAll (xs :: rows) = merge xs (mergeAll rows) := rfl

theorem mergeAll_append (rows rows' : List Levels) :
    mergeAll (rows ++ rows') = merge (mergeAll rows) (mergeAll rows') := by
  induction rows with
  | nil => rw [List.nil_append, mergeAll_nil, merge_nil_left]
  | cons xs rows ih => rw [List.cons_append, mergeAll_cons, ih, mergeAll_cons, merge_assoc]

/-- neighbours side by side hold what they hold one after the other -/
theorem flatten_merge_perm (xs ys : Levels) :
    (merge xs ys).flatten.Perm (xs.flatten ++ ys.flatten) := by
  induction xs generalizing ys with
  | nil => rw [merge_nil_left]; exact List.Perm.refl _
  | cons x xs ih =>
    cases ys with
    | nil => rw [merge_nil_right, List.flatten_nil, List.append_nil]
    | cons y ys =>
      show (x ++ y ++ (merge xs ys).flatten).Perm ((x ++ xs.flatten) ++ (y ++ ys.flatten))
      rw [List.append_assoc, List.append_assoc]
      refine List.Perm.append_left x ?_
      have hback : (y ++ (merge xs ys).flatten).Perm (y ++ (xs.flatten ++ ys.flatten)) :=
        List.Perm.append_left y (ih ys)
      exact hback.trans (List.perm_append_comm_assoc ..)

theorem flatten_mergeAll_perm (rows : List Levels) :
    (mergeAll rows).flatten.Perm (rows.flatMap List.flatten) := by
  induction rows with
  | nil => exact List.Perm.refl _
  | cons xs rows ih =>
    rw [mergeAll_cons, List.flatMap_cons]
    exact (flatten_merge_perm xs _).trans (List.Perm.append_left _ ih)

/-- neighbours to the right only put calls in between -/
theorem flatten_sublist_merge_left (xs ys : Levels) : xs.flatten.Sublist (merge xs ys).flatten := by
  induction xs generalizing ys with
  | nil => exact List.nil_sublist _
  | cons x xs ih =>
    cases ys with
    | nil => rw [merge_nil_right]
    | cons y ys => exact (List.sublist_append_left x y).append (ih ys)

theorem flatten_sublist_merge_right (xs ys : Levels) :
    ys.flatten.Sublist (merge xs ys).flatten := by
  induction xs generalizing ys with
  | nil => rw [merge_nil_left]
  | cons x xs ih =>
    cases ys with
    | nil => exact List.nil_sublist _
    | cons y ys => exact (List.sublist_append_right x y).append (ih ys)

theorem flatten_sublist_mergeAll {xs : Levels} {rows : List Levels} (h : xs ∈ rows) :
    xs.flatten.Sublist (mergeAll rows).flatten := by
  induction rows with
  | nil => cases h
  | cons ys rows ih =>
    rw [mergeAll_cons]
    rcases List.mem_cons.mp h with rfl | h
    · exact flatten_sublist_merge_left _ _
    · exact (ih h).trans (flatten_sublist_merge_right _ _)

/-! ## nodes -/

/-- a part of a tree that counts as a depth -/
inductive Node where
  | expr (e : Expr)
  | keyword (k : Keyword)
  /-- the parameter list of a function -/
  | parameters (ps : List Parameter)
  /-- a parameter with a type hint -/
  | hint (value : Expr)
  | clause (c : Clause)
  | pattern (p : Pattern)
  | item (i : WithItem)
  | stmt (s : Stmt)
  | handler (h : Handler)
  | case (c : Case)

/-- the key of an entry, which `**value` has not -/
def Entry.key? : Entry → Option Expr
  | .pair key _ => some key
  | .spread _ => none

def Entry.value : Entry → Expr
  | .pair _ value => value
  | .spread value => value

/-- the node of an expression in a parameter list -/
def Parameter.node : Parameter → Node
  | .hint value => .hint value
  | .default value => .expr value

namespace Node

/-- the nodes of a row of expressions -/
def exprs (es : List Expr) : List Node := es.map .expr

def stmts (ss : List Stmt) : List Node := ss.map .stmt

def option (e : Option Expr) : List Node := exprs e.toList

/-- the nodes right below an expression; a dictionary has all keys before all values -/
def ofExpr : Expr → List Node
  | .name _ _ | .str _ _ => []
  | .member _ value _ | .starred _ value => [.expr value]
  | .call _ func args keywords => .expr func :: (exprs args ++ keywords.map .keyword)
  | .row _ _ es | .other _ es => exprs es
  | .dict _ entries => exprs (entries.filterMap Entry.key?) ++ exprs (entries.map Entry.value)
  | .subscript _ value index => [.expr value, .expr index]
  | .named _ target value => [.expr target, .expr value]
  | .lambda _ ps body => [.parameters ps, .expr body]
  | .comprehension _ yields clauses => exprs yields ++ clauses.map .clause

def ofPattern : Pattern → List Node
  | .value e => [.expr e]
  | .constant | .rest _ => []
  | .sequence parts | .choice parts => parts.map .pattern
  | .mapping keys parts _ => exprs keys ++ parts.map .pattern
  | .record cls parts named => .expr cls :: (parts.map .pattern ++ named.map .pattern)
  | .capture inner _ => inner.toList.map .pattern

def ofStmt : Stmt → List Node
  | .function _ _ ps body decorators returns =>
    .parameters ps :: (stmts body ++ (exprs decorators ++ option returns))
  | .class_ _ bases keywords body decorators =>
    exprs bases ++ (keywords.map .keyword ++ (stmts body ++ exprs decorators))
  | .assign _ targets value => exprs targets ++ [.expr value]
  | .declare _ target type value => .expr target :: .expr type :: option value
  | .augment target value => [.expr target, .expr value]
  | .delete es | .evaluate es => exprs es
  | .for_ target iter body otherwise =>
    .expr target :: .expr iter :: (stmts body ++ stmts otherwise)
  | .while_ test body otherwise | .if_ test body otherwise =>
    .expr test :: (stmts body ++ stmts otherwise)
  | .with_ items body => items.map .item ++ stmts body
  | .try_ _ body handlers otherwise final =>
    stmts body ++ (handlers.map .handler ++ (stmts otherwise ++ stmts final))
  | .import_ _ | .importFrom _ _ _ => []
  | .match_ subject cases => .expr subject :: cases.map .case

/-- the nodes right below a node, in the order in which they are visited -/
def children : Node → List Node
  | .expr e => ofExpr e
  | .keyword k => [.expr k.value]
  | .parameters ps => ps.map Parameter.node
  | .hint value => [.expr value]
  | .clause (.mk target iter conditions) => .expr target :: .expr iter :: exprs conditions
  | .pattern p => ofPattern p
  | .item i => .expr i.context :: option i.target
  | .stmt s => ofStmt s
  | .handler (.mk type _ body) => option type ++ stmts body
  | .case (.mk p guard body) => .pattern p :: (option guard ++ stmts body)

/-- the call that a node is -/
def call? : Node → Option CallSite
  | .expr (.call pos func args keywords) => some ⟨pos, func, args, keywords⟩
  | _ => none

/-- the size of the part of the tree at a node -/
noncomputable def size : Node → Nat
  | .expr e => sizeOf e
  | .keyword k => sizeOf k
  | .parameters ps => sizeOf ps
  | .hint value => 1 + sizeOf value
  | .clause c => sizeOf c
  | .pattern p => sizeOf p
  | .item i => sizeOf i
  | .stmt s => sizeOf s
  | .handler h => sizeOf h
  | .case c => sizeOf c

/-! ### below a node the tree is smaller -/

theorem size_lt_of_mem_map {α : Type} [SizeOf α] {f : α → Node} (hf : ∀ a, (f a).size ≤ sizeOf a)
    {l : List α} {m : Node} (h : m ∈ l.map f) : m.size < sizeOf l := by
  obtain ⟨a, ha, rfl⟩ := List.mem_map.mp h
  exact Nat.lt_of_le_of_lt (hf a) (List.sizeOf_lt_of_mem ha)

@[grind →]
theorem size_lt_of_mem_exprs {m : Node} {es : List Expr} (h : m ∈ exprs es) : m.size < sizeOf es :=
  size_lt_of_mem_map (fun _ => Nat.le_refl _) h

@[grind →]
theorem size_lt_of_mem_stmts {m : Node} {ss : List Stmt} (h : m ∈ stmts ss) : m.size < sizeOf ss :=
  size_lt_of_mem_map (fun _ => Nat.le_refl _) h

@[grind →]
theorem size_lt_of_mem_option {m : Node} {e : Option Expr} (h : m ∈ option e) :
    m.size < sizeOf e := by
  cases e with
  | none => cases h
  | some e =>
    have hm : m = .expr e := by simpa [option, exprs] using h
    rw [hm]
    show sizeOf e < 1 + sizeOf e
    omega

theorem Entry.sizeOf_value_lt (e : Entry) : sizeOf e.value < sizeOf e := by
  cases e <;> simp only [Entry.value, Entry.pair.sizeOf_spec, Entry.spread.sizeOf_spec] <;> omega

theorem Entry.sizeOf_key?_lt {e : Entry} {key : Expr} (h : e.key? = some key) :
    sizeOf key < sizeOf e := by
  cases e with
  | pair key' value =>
    cases h
    rw [Entry.pair.sizeOf_spec]
    omega
  | spread value => cases h

theorem size_lt_of_mem_entries {m : Node} {entries : List Entry}
    (h : m ∈ exprs (entries.filterMap Entry.key?) ∨ m ∈ exprs (entries.map Entry.value)) :
    m.size < sizeOf entries := by
  rcases h with h | h <;> obtain ⟨e, he, rfl⟩ := List.mem_map.mp h
  · obtain ⟨entry, hentry, hkey⟩ := List.mem_filterMap.mp he
    exact Nat.lt_trans (Entry.sizeOf_key?_lt hkey) (List.sizeOf_lt_of_mem hentry)
  · obtain ⟨entry, hentry, rfl⟩ := List.mem_map.mp he
    exact Nat.lt_trans (Entry.sizeOf_value_lt entry) (List.sizeOf_lt_of_mem hentry)

theorem size_lt_of_mem_ofExpr {e : Expr} {m : Node} (h : m ∈ ofExpr e) : m.size < sizeOf e := by
  cases e with
  | dict pos entries =>
    have hlt := size_lt_of_mem_entries (List.mem_append.mp h)
    rw [Expr.dict.sizeOf_spec]
    omega
  | _ => grind [ofExpr, size, → List.sizeOf_lt_of_mem]

theorem size_lt_of_mem_ofPattern {p : Pattern} {m : Node} (h : m ∈ ofPattern p) :
    m.size < sizeOf p := by
  cases p with
  | capture inner name =>
    cases inner <;> grind [ofPattern, size]
  | _ => grind [ofPattern, size, → List.sizeOf_lt_of_mem]

theorem size_lt_of_mem_ofStmt {s : Stmt} {m : Node} (h : m ∈ ofStmt s) : m.size < sizeOf s := by
  cases s <;> grind [ofStmt, size, → List.sizeOf_lt_of_mem]

theorem size_lt_of_mem_children {n m : Node} (h : m ∈ n.children) : m.size < n.size := by
  cases n with
  | expr e => exact size_lt_of_mem_ofExpr h
  | pattern p => exact size_lt_of_mem_ofPattern h
  | stmt s => exact size_lt_of_mem_ofStmt h
  | parameters ps =>
    refine size_lt_of_mem_map (fun p => ?_) h
    cases p <;> simp [Parameter.node, size]
  | keyword k => cases k; grind [children, size, Keyword.value]
  | clause c => cases c; grind [children, size]
  | item i => cases i; grind [children, size]
  | handler c => cases c; grind [children, size]
  | case c => cases c; grind [children, size]
  | hint value => grind [children, size]

/-- what holds of a node once it holds of its children holds of every node -/
theorem induct {P : Node → Prop} (step : ∀ n, (∀ m ∈ n.children, P m) → P n) (n : Node) : P n :=
  step n fun m _ => induct step m
termination_by n.size
decreasing_by exact size_lt_of_mem_children (by assumption)

/-! ### calls, depth first -/

/-- the calls in a node, depth first: the call that it is, and then those in its children -/
def calls (n : Node) : List CallSite :=
  n.call?.toList ++ n.children.attach.flatMap fun m => calls m.1
termination_by n.size
decreasing_by exact size_lt_of_mem_children m.2

theorem calls_eq (n : Node) : n.calls = n.call?.toList ++ n.children.flatMap calls := by
  have hattach : n.children.attach.flatMap (fun m => calls m.1) = n.children.flatMap calls := by
    conv_rhs => rw [← List.attach_map_subtype_val n.children, List.flatMap_map]
  rw [calls, hattach]

/-! ### levels -/

/-- the calls in a node, level by level -/
def levels : Node → Levels
  | .expr e => e.levels
  | .keyword k => below k.value.levels
  | .parameters ps => below (Parameter.listLevels ps)
  | .hint value => below value.levels
  | .clause (.mk target iter conditions) =>
    below (merge target.levels (merge iter.levels (Expr.listLevels conditions)))
  | .pattern p => p.levels
  | .item i => below (merge i.context.levels (optionLevels i.target))
  | .stmt s => s.levels
  | .handler (.mk type _ body) => below (merge (optionLevels type) (Stmt.listLevels body))
  | .case (.mk p guard body) =>
    below (merge p.levels (merge (optionLevels guard) (Stmt.listLevels body)))

/-- the levels of a row of nodes -/
def listLevels (ns : List Node) : Levels := mergeAll (ns.map levels)

@[simp] theorem listLevels_nil : listLevels [] = [] := rfl

@[simp] theorem listLevels_cons (n : Node) (ns : List Node) :
    listLevels (n :: ns) = merge n.levels (listLevels ns) := rfl

@[simp] theorem listLevels_append (ns ms : List Node) :
    listLevels (ns ++ ms) = merge (listLevels ns) (listLevels ms) := by
  unfold listLevels
  rw [List.map_append, mergeAll_append]

@[simp] theorem listLevels_exprs (es : List Expr) : listLevels (exprs es) = Expr.listLevels es := by
  induction es with
  | nil => rfl
  | cons e es ih => exact congrArg (merge e.levels) ih

@[simp] theorem listLevels_stmts (ss : List Stmt) : listLevels (stmts ss) = Stmt.listLevels ss := by
  induction ss with
  | nil => rfl
  | cons s ss ih => exact congrArg (merge s.levels) ih

@[simp] theorem listLevels_option (e : Option Expr) : listLevels (option e) = optionLevels e := by
  cases e with
  | none => rfl
  | some e => exact merge_nil_right e.levels

@[simp] theorem listLevels_keywords (ks : List Keyword) :
    listLevels (ks.map .keyword) = Keyword.listLevels ks := by
  induction ks with
  | nil => rfl
  | cons k ks ih =>
    cases k
    exact congrArg (merge _) ih

@[simp] theorem listLevels_parameters (ps : List Parameter) :
    listLevels (ps.map Parameter.node) = Parameter.listLevels ps := by
  induction ps with
  | nil => rfl
  | cons p ps ih =>
    cases p <;> exact congrArg (merge _) ih

@[simp] theorem listLevels_clauses (cs : List Clause) :
    listLevels (cs.map .clause) = Clause.listLevels cs := by
  induction cs with
  | nil => rfl
  | cons c cs ih =>
    cases c
    exact congrArg (merge _) ih

@[simp] theorem listLevels_patterns (ps : List Pattern) :
    listLevels (ps.map .pattern) = Pattern.listLevels ps := by
  induction ps with
  | nil => rfl
  | cons p ps ih => exact congrArg (merge p.levels) ih

@[simp] theorem listLevels_items (items : List WithItem) :
    listLevels (items.map .item) = WithItem.listLevels items := by
  induction items with
  | nil => rfl
  | cons i items ih => exact congrArg (merge _) ih

@[simp] theorem listLevels_handlers (hs : List Handler) :
    listLevels (hs.map .handler) = Handler.listLevels hs := by
  induction hs with
  | nil => rfl
  | cons h hs ih =>
    cases h
    exact congrArg (merge _) ih

@[simp] theorem listLevels_cases (cs : List Case) :
    listLevels (cs.map .case) = Case.listLevels cs := by
  induction cs with
  | nil => rfl
  | cons c cs ih =>
    cases c
    exact congrArg (merge _) ih

@[simp] theorem listLevels_keys (entries : List Entry) :
    listLevels (exprs (entries.filterMap Entry.key?)) = Entry.keyLevels entries := by
  induction entries with
  | nil => rfl
  | cons e entries ih =>
    cases e with
    | pair key value => exact congrArg (merge key.levels) ih
    | spread value => exact ih

@[simp] theorem listLevels_values (entries : List Entry) :
    listLevels (exprs (entries.map Entry.value)) = Entry.valueLevels entries := by
  induction entries with
  | nil => rfl
  | cons e entries ih => cases e <;> exact congrArg (merge _) ih

theorem levels_ofExpr (e : Expr) :
    e.levels = (Node.expr e).call?.toList :: listLevels (ofExpr e) := by
  cases e with
  | dict pos entries =>
    show below (merge (Entry.keyLevels entries) (Entry.valueLevels entries))
      = [] :: listLevels (ofExpr _)
    rw [ofExpr, listLevels_append, listLevels_keys, listLevels_values]
    rfl
  | _ => simp [call?, ofExpr, Expr.levels, below, levels, merge_nil_right]

theorem levels_ofPattern (p : Pattern) : p.levels = [] :: listLevels (ofPattern p) := by
  cases p with
  | capture inner name =>
    cases inner <;> simp [ofPattern, Pattern.levels, below, levels, merge_nil_right]
  | _ => simp [ofPattern, Pattern.levels, below, levels, merge_nil_right]

theorem levels_ofStmt (s : Stmt) : s.levels = [] :: listLevels (ofStmt s) := by
  cases s <;> simp [ofStmt, Stmt.levels, below, levels, merge_nil_right]

/-- the levels of a node: the call that it is, above the levels of its children side by side -/
theorem levels_eq (n : Node) : n.levels = n.call?.toList :: listLevels n.children := by
  cases n with
  | expr e => exact levels_ofExpr e
  | pattern p => exact levels_ofPattern p
  | stmt s => exact levels_ofStmt s
  | keyword k => simp [levels, children, call?, below, merge_nil_right]
  | parameters ps => simp [levels, children, call?, below]
  | hint value => simp [levels, children, call?, below, merge_nil_right]
  | clause c => cases c; simp [levels, children, call?, below]
  | item i => simp [levels, children, call?, below]
  | handler h => cases h; simp [levels, children, call?, below]
  | case c => cases c; simp [levels, children, call?, below]

/-- the search by levels finds the calls of a node, each as often as it stands there -/
theorem flatten_perm (n : Node) : n.levels.flatten.Perm n.calls := by
  induction n using induct with
  | step n ih =>
    rw [levels_eq, calls_eq, List.flatten_cons]
    refine List.Perm.append_left _ ?_
    refine (flatten_mergeAll_perm _).trans ?_
    rw [List.flatMap_map]
    exact List.Perm.flatMap_left _ ih

theorem flatten_sublist_of_mem_children {n m : Node} (h : m ∈ n.children) :
    m.levels.flatten.Sublist n.levels.flatten := by
  rw [levels_eq n, List.flatten_cons]
  refine List.Sublist.trans ?_ (List.sublist_append_right _ _)
  exact flatten_sublist_mergeAll (List.mem_map_of_mem h)

theorem eq_of_call? {n : Node} {c : CallSite} (h : n.call? = some c) : n = .expr c.expr := by
  unfold call? at h
  split at h
  · cases h
    rfl
  · cases h

/-- what is found in a call that is found stands in the same order among the calls of the node -/
theorem flatten_sublist {n : Node} {c : CallSite} (h : c ∈ n.calls) :
    c.expr.levels.flatten.Sublist n.levels.flatten := by
  induction n using induct with
  | step n ih =>
    rw [calls_eq] at h
    rcases List.mem_append.mp h with h | h
    · rw [eq_of_call? (Option.mem_toList.mp h)]
      exact List.Sublist.refl _
    · obtain ⟨m, hm, hc⟩ := List.mem_flatMap.mp h
      exact (ih m hm hc).trans (flatten_sublist_of_mem_children hm)

end Node

/-! ## modules -/

/-- the calls of a module, depth first -/
def callNodes (body : List Stmt) : List CallSite := (Node.stmts body).flatMap Node.calls

/-- no call of a module is lost, and none is found twice -/
theorem callsOf_perm (body : List Stmt) : (callsOf body).Perm (callNodes body) := by
  unfold callsOf callNodes
  rw [← Node.listLevels_stmts]
  refine (flatten_mergeAll_perm _).trans ?_
  rw [List.flatMap_map]
  exact List.Perm.flatMap_left _ fun n _ => n.flatten_perm

/-- the calls inside of a call of a module are found in the order in which they are found in it -/
theorem sublist_callsOf {body : List Stmt} {c : CallSite} (h : c ∈ callNodes body) :
    c.expr.levels.flatten.Sublist (callsOf body) := by
  obtain ⟨n, hn, hc⟩ := List.mem_flatMap.mp h
  unfold callsOf
  rw [← Node.listLevels_stmts]
  exact (Node.flatten_sublist hc).trans (flatten_sublist_mergeAll (List.mem_map_of_mem hn))

end Archetype.Code
