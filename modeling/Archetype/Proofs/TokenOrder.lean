import Archetype.Proofs.TokenNames

/-!
# The order of tokens

The scan of a text never goes back, so its tokens come in the order of their places, and the body of
a string literal is made of characters of the text. No token is an empty name.

* `Cursor.Reaches`           one cursor lies behind another in one text;
* `Scan.Gives`               what one step of the scan may give;
* `Ordered`                  tokens in source order from a place on;
* `Lexeme.isOneLine`         is it anything but a format literal that goes on to a second line?
* `named_of_tokens?`         the names among the tokens of a text are not empty;
* `ordered_of_tokens?`       the tokens of a text are in order;
* `ordered_of_tokensWithin?` so are those of the expression in a field of one line.
-/

namespace Archetype.Code

/-! ## reading on in a text -/

namespace Position

theorem le_after (p : Position) (c : Char) : p.le (p.after c) = true := by
  unfold after
  rw [le_iff]
  split
  · exact Or.inl (Nat.lt_succ_self _)
  · exact Or.inr ⟨rfl, Nat.le_add_right _ _⟩

theorem le_afterAll (p : Position) (cs : List Char) : p.le (p.afterAll cs) = true := by
  induction cs generalizing p with
  | nil => exact le_refl p
  | cons c cs ih => exact le_trans _ _ _ (le_after p c) (ih (p.after c))

end Position

namespace Cursor

/-- `next` is what `cur` becomes by reading on -/
structure Reaches (cur next : Cursor) : Prop where
  pos : cur.pos.le next.pos = true
  rest : next.rest ⊆ cur.rest

theorem Reaches.refl (cur : Cursor) : cur.Reaches cur := ⟨Position.le_refl _, fun _ hc => hc⟩

theorem Reaches.trans {cur mid next : Cursor} (h : cur.Reaches mid) (h' : mid.Reaches next) :
    cur.Reaches next :=
  ⟨Position.le_trans _ _ _ h.pos h'.pos, fun _ hc => h.rest (h'.rest hc)⟩

theorem reaches_skip (cur : Cursor) (n : Nat) : cur.Reaches (cur.skip n) :=
  ⟨Position.le_afterAll _ _, List.drop_subset n cur.rest⟩

theorem reaches_dropWhile (cur : Cursor) (p : Char → Bool) : cur.Reaches (cur.dropWhile p) :=
  ⟨Position.le_afterAll _ _, (List.dropWhile_suffix p).subset⟩

end Cursor

theorem Cursor.reaches_after {pos : Position} {ds es : List Char} (c : Char) (h : es ⊆ ds) :
    Cursor.Reaches ⟨ds, pos⟩ ⟨es, pos.after c⟩ := ⟨Position.le_after pos c, h⟩

theorem reaches_margin? {indent i : Indent} {continued : Nat} {pos : Position} {cs : List Char}
    {cur : Cursor} (h : margin? indent continued pos cs = some (i, cur)) :
    Cursor.Reaches ⟨cs, pos⟩ cur := by
  fun_induction margin? indent continued pos cs with
  | case1 indent continued pos cs ih =>
    exact (Cursor.reaches_after ' ' (List.subset_cons_self _ _)).trans (ih h)
  | case2 indent continued pos cs ih =>
    exact (Cursor.reaches_after '\t' (List.subset_cons_self _ _)).trans (ih h)
  | case3 indent continued pos cs ih =>
    exact (Cursor.reaches_after '\x0c' (List.subset_cons_self _ _)).trans (ih h)
  | case4 indent continued pos c cs ih =>
    refine (Cursor.reaches_after '\n' ?_).trans (ih h)
    exact fun d hd => List.mem_cons_of_mem _ (List.mem_cons_of_mem _ hd)
  | case5 => cases h
  | case6 => cases h; exact Cursor.Reaches.refl _

/-! ## bodies of string literals -/

theorem body_subset_of_shortBody? {quote : Char} {cs body : List Char}
    (h : shortBody? quote cs = some body) :
    body ⊆ cs := by
  fun_induction shortBody? quote cs generalizing body with
  | case1 => cases h
  | case2 => cases h; exact List.nil_subset _
  | case3 => cases h
  | case4 => cases h
  | case5 d ds hquote hline ih =>
    obtain ⟨inner, hinner, rfl⟩ := Option.map_eq_some_iff.mp h
    exact List.cons_subset_cons _ (List.cons_subset_cons _ (ih hinner))
  | case6 c cs hquote hline hback ih =>
    obtain ⟨inner, hinner, rfl⟩ := Option.map_eq_some_iff.mp h
    exact List.cons_subset_cons _ (ih hinner)

theorem body_subset_of_longBody? {quote : Char} {cs body : List Char}
    (h : longBody? quote cs = some body) :
    body ⊆ cs := by
  fun_induction longBody? quote cs generalizing body with
  | case1 => cases h
  | case2 => cases h; exact List.nil_subset _
  | case3 => cases h
  | case4 d ds hquote ih =>
    obtain ⟨inner, hinner, rfl⟩ := Option.map_eq_some_iff.mp h
    exact List.cons_subset_cons _ (List.cons_subset_cons _ (ih hinner))
  | case5 c cs hquote hback ih =>
    obtain ⟨inner, hinner, rfl⟩ := Option.map_eq_some_iff.mp h
    exact List.cons_subset_cons _ (ih hinner)

theorem body_subset_of_literal? {marks : Bool × Bool × Bool} {opened length : Nat} {pos : Position}
    {cs : List Char} {l : Literal} (h : literal? marks opened pos cs = some (.string l, length)) :
    l.body ⊆ cs := by
  cases cs with
  | nil => cases h
  | cons quote rest =>
    obtain ⟨body, hbody, heq⟩ := Option.map_eq_some_iff.mp h
    cases heq
    split at hbody
    · exact List.Subset.trans (body_subset_of_longBody? hbody) (List.drop_subset _ _)
    · exact List.Subset.trans (body_subset_of_shortBody? hbody) (List.drop_subset _ _)

theorem body_subset_of_lexeme? {pos : Position} {cs : List Char} {l : Literal} {length : Nat}
    (h : lexeme? pos cs = some (.string l, length)) : l.body ⊆ cs := by
  cases cs with
  | nil => cases h
  | cons c rest =>
    simp only [lexeme?] at h
    split at h
    · obtain ⟨_, _, heq⟩ := Option.map_eq_some_iff.mp h
      cases heq
    split at h
    · exact body_subset_of_literal? h
    split at h
    · split at h
      · exact List.Subset.trans (body_subset_of_literal? h) (List.drop_subset _ _)
      · -- no word is a string literal
        obtain ⟨lexeme, hword, heq⟩ := Option.map_eq_some_iff.mp h
        cases heq
        unfold wordLexeme? at hword
        grind
    · obtain ⟨_, _, heq⟩ := Option.map_eq_some_iff.mp h
      cases heq

/-! ## one step of the scan -/

/-- what a step from `s` to `next` may give: tokens in order between the two places, literals whose
bodies stand in the text, and names that are not empty -/
structure Scan.Gives (s : Scan) (tokens : List Token) (next : Scan) : Prop where
  reaches : s.cur.Reaches next.cur
  sorted : tokens.Pairwise fun t u => t.pos.le u.pos = true
  behind : ∀ t ∈ tokens, s.cur.pos.le t.pos = true
  before : ∀ t ∈ tokens, t.pos.le next.cur.pos = true
  bodies : ∀ t ∈ tokens, ∀ l : Literal, t.lexeme = .string l → l.body ⊆ s.cur.rest
  named : ∀ t ∈ tokens, t.lexeme.isNamed = true

namespace Scan

theorem gives_nothing {s next : Scan} (h : s.cur.Reaches next.cur) : s.Gives [] next where
  reaches := h
  sorted := List.Pairwise.nil
  behind _ ht := by cases ht
  before _ ht := by cases ht
  bodies _ ht := by cases ht
  named _ ht := by cases ht

/-- a token at a cursor on the way -/
theorem gives_one {s next : Scan} {cur : Cursor} {lexeme : Lexeme} (h : s.cur.Reaches cur)
    (h' : cur.Reaches next.cur) (hbody : ∀ l : Literal, lexeme = .string l → l.body ⊆ cur.rest)
    (hnamed : lexeme.isNamed = true) : s.Gives [⟨cur.pos, lexeme⟩] next where
  reaches := h.trans h'
  sorted := List.pairwise_singleton _ _
  behind t ht := by rw [List.mem_singleton.mp ht]; exact h.pos
  before t ht := by rw [List.mem_singleton.mp ht]; exact h'.pos
  bodies t ht l hl := by
    rw [List.mem_singleton.mp ht] at hl
    exact List.Subset.trans (hbody l hl) h.rest
  named t ht := by rw [List.mem_singleton.mp ht]; exact hnamed

/-- opening and closing blocks reads no text -/
theorem eq_of_mem_settle? {new : Indent} {blocks left : List Indent} {lexemes : List Lexeme}
    (h : new.settle? blocks = some (lexemes, left)) : ∀ l ∈ lexemes, l = .indent ∨ l = .dedent := by
  have hclose : ∀ {blocks left : List Indent} {lexemes : List Lexeme},
      new.close? blocks = some (lexemes, left) → ∀ l ∈ lexemes, l = .indent ∨ l = .dedent := by
    intro blocks
    induction blocks with
    | nil => intro left lexemes h; cases h
    | cons top below ih =>
      intro left lexemes h
      unfold Indent.close? at h
      split at h
      · obtain ⟨⟨ends, left'⟩, hbelow, heq⟩ := Option.map_eq_some_iff.mp h
        cases heq
        exact List.forall_mem_cons.mpr ⟨Or.inr rfl, ih hbelow⟩
      split at h
      · cases h; exact nofun
      · cases h
  unfold Indent.settle? at h
  split at h
  · cases h
  split at h
  · split at h
    · cases h
      exact List.forall_mem_singleton.mpr (Or.inl rfl)
    · cases h
  · exact hclose h

theorem gives_freshStep? {s next : Scan} {tokens : List Token}
    (h : s.freshStep? = some (tokens, next)) :
    s.Gives tokens next := by
  unfold freshStep? at h
  obtain ⟨⟨indent, cur⟩, hmargin, h⟩ := Option.bind_eq_some_iff.mp h
  have hcur : s.cur.Reaches cur := reaches_margin? hmargin
  dsimp only at h
  split at h
  · cases h
    exact gives_nothing (hcur.trans ((cur.reaches_dropWhile _).trans (Cursor.reaches_skip _ _)))
  · cases h
    exact gives_nothing (hcur.trans (cur.reaches_skip _))
  · obtain ⟨⟨lexemes, blocks⟩, hsettle, h⟩ := Option.bind_eq_some_iff.mp h
    cases h
    refine ⟨hcur, ?_, ?_, ?_, ?_, ?_⟩
    · refine List.pairwise_map.mpr (List.pairwise_of_forall fun _ _ => Position.le_refl _)
    · intro t ht
      obtain ⟨lexeme, _, rfl⟩ := List.mem_map.mp ht
      exact hcur.pos
    · intro t ht
      obtain ⟨lexeme, _, rfl⟩ := List.mem_map.mp ht
      exact Position.le_refl _
    · intro t ht l hl
      obtain ⟨lexeme, hlexeme, rfl⟩ := List.mem_map.mp ht
      rcases eq_of_mem_settle? hsettle lexeme hlexeme with rfl | rfl <;> cases hl
    · intro t ht
      obtain ⟨lexeme, hlexeme, rfl⟩ := List.mem_map.mp ht
      rcases eq_of_mem_settle? hsettle lexeme hlexeme with rfl | rfl <;> rfl

theorem gives_lineStep? {s next : Scan} {tokens : List Token}
    (h : s.lineStep? = some (tokens, next)) :
    s.Gives tokens next := by
  unfold lineStep? at h
  have hcur : s.cur.Reaches (s.cur.dropWhile isSpace) := s.cur.reaches_dropWhile _
  generalize s.cur.dropWhile isSpace = cur at h hcur
  dsimp only at h
  split at h
  · cases h
  · cases h
    exact gives_nothing (hcur.trans (cur.reaches_dropWhile _))
  · split at h
    · cases h
      exact gives_one hcur (cur.reaches_skip 1) (fun l hl => by cases hl) rfl
    · cases h
      exact gives_nothing (hcur.trans (cur.reaches_skip 1))
  · cases h
    exact gives_nothing (hcur.trans (cur.reaches_skip 2))
  · cases h
  · obtain ⟨⟨lexeme, length⟩, hlexeme, h⟩ := Option.bind_eq_some_iff.mp h
    have hbody : ∀ l : Literal, lexeme = .string l → l.body ⊆ cur.rest := by
      rintro l rfl
      exact body_subset_of_lexeme? hlexeme
    dsimp only at h
    split at h
    · obtain ⟨due, _, h⟩ := Option.bind_eq_some_iff.mp h
      cases h
      exact gives_one hcur (cur.reaches_skip length) hbody (isNamed_of_lexeme? hlexeme)
    · cases h
      exact gives_one hcur (cur.reaches_skip length) hbody (isNamed_of_lexeme? hlexeme)

end Scan

/-! ## the whole scan -/

/-- tokens in source order, none of them before `lo` -/
structure Ordered (lo : Position) (ts : List Token) : Prop where
  sorted : ts.Pairwise fun t u => t.pos.le u.pos = true
  behind : ∀ t ∈ ts, lo.le t.pos = true

theorem Ordered.nil (lo : Position) : Ordered lo [] := ⟨List.Pairwise.nil, nofun⟩

theorem Ordered.tail {lo : Position} {ts : List Token} (h : Ordered lo ts) : Ordered lo ts.tail :=
  ⟨h.sorted.tail, fun t ht => h.behind t (List.mem_of_mem_tail ht)⟩

/-- from its first token on, a row is in order from that token on -/
theorem Ordered.raise {lo : Position} {t : Token} {ts : List Token} (h : Ordered lo (t :: ts)) :
    Ordered t.pos (t :: ts) := by
  refine ⟨h.sorted, fun u hu => ?_⟩
  rcases List.mem_cons.mp hu with rfl | hu
  · exact Position.le_refl _
  · exact List.rel_of_pairwise_cons h.sorted hu

theorem Ordered.lower {lo lo' : Position} {ts : List Token} (h : Ordered lo' ts)
    (hlo : lo.le lo' = true) :
    Ordered lo ts :=
  ⟨h.sorted, fun t ht => Position.le_trans _ _ _ hlo (h.behind t ht)⟩

/-- the tokens found so far, with those of one more step behind them -/
theorem Ordered.append {lo : Position} {found tokens : List Token} {s next : Scan}
    (h : Ordered lo found) (hlo : lo.le s.cur.pos = true)
    (hbefore : ∀ t ∈ found, t.pos.le s.cur.pos = true) (hgives : s.Gives tokens next) :
    Ordered lo (found ++ tokens) := by
  constructor
  · refine List.pairwise_append.mpr ⟨h.sorted, hgives.sorted, fun t ht u hu => ?_⟩
    exact Position.le_trans _ _ _ (hbefore t ht) (hgives.behind u hu)
  · intro t ht
    rcases List.mem_append.mp ht with ht | ht
    · exact h.behind t ht
    · exact Position.le_trans _ _ _ hlo (hgives.behind t ht)

/-- a scan is at its end, or goes on from a step -/
theorem scan_succ {fuel : Nat} {s : Scan} {found tokens : List Token}
    (h : scan (fuel + 1) s found = some tokens) : tokens = found.reverse ∨
      ∃ more next, s.Gives more next ∧ scan fuel next (more.reverse ++ found) = some tokens := by
  unfold scan at h
  split at h
  · split at h
    · cases h
      exact Or.inl rfl
    · cases h
  · dsimp only at h
    split at h
    · obtain ⟨⟨more, next⟩, hstep, hback⟩ := Option.bind_eq_some_iff.mp h
      exact Or.inr ⟨more, next, Scan.gives_freshStep? hstep, hback⟩
    · obtain ⟨⟨more, next⟩, hstep, hback⟩ := Option.bind_eq_some_iff.mp h
      exact Or.inr ⟨more, next, Scan.gives_lineStep? hstep, hback⟩

theorem named_of_scan {fuel : Nat} {s : Scan} {found tokens : List Token}
    (h : scan fuel s found = some tokens) (hfound : ∀ t ∈ found, t.lexeme.isNamed = true) :
    ∀ t ∈ tokens, t.lexeme.isNamed = true := by
  induction fuel generalizing s found with
  | zero => cases h
  | succ fuel ih =>
    rcases scan_succ h with rfl | ⟨more, next, hgives, hback⟩
    · exact fun t ht => hfound t (List.mem_reverse.mp ht)
    · refine ih hback (List.forall_mem_append.mpr ⟨fun t ht => ?_, hfound⟩)
      exact hgives.named t (List.mem_reverse.mp ht)

/-- a whole scan keeps what its steps keep: the tokens stay in order, and the body of each literal
that it adds stands in the text -/
theorem ordered_of_scan {lo : Position} {fuel : Nat} {s : Scan} {found tokens : List Token}
    (h : scan fuel s found = some tokens) (hfound : Ordered lo found.reverse)
    (hlo : lo.le s.cur.pos = true) (hbefore : ∀ t ∈ found, t.pos.le s.cur.pos = true) :
    Ordered lo tokens ∧
      ∀ t ∈ tokens, t ∈ found ∨ ∀ l : Literal, t.lexeme = .string l → l.body ⊆ s.cur.rest := by
  induction fuel generalizing s found with
  | zero => cases h
  | succ fuel ih =>
    rcases scan_succ h with rfl | ⟨more, next, hgives, hback⟩
    · exact ⟨hfound, fun t ht => Or.inl (List.mem_reverse.mp ht)⟩
    · have hordered : Ordered lo (more.reverse ++ found).reverse := by
        rw [List.reverse_append, List.reverse_reverse]
        exact hfound.append hlo (fun t ht => hbefore t (List.mem_reverse.mp ht)) hgives
      have hbefore' : ∀ t ∈ more.reverse ++ found, t.pos.le next.cur.pos = true := by
        intro t ht
        rcases List.mem_append.mp ht with ht | ht
        · exact hgives.before t (List.mem_reverse.mp ht)
        · exact Position.le_trans _ _ _ (hbefore t ht) hgives.reaches.pos
      obtain ⟨htokens, hbodies⟩ :=
        ih hback hordered (Position.le_trans _ _ _ hlo hgives.reaches.pos) hbefore'
      refine ⟨htokens, fun t ht => ?_⟩
      rcases hbodies t ht with hmem | hbody
      · rcases List.mem_append.mp hmem with hmem | hmem
        · exact Or.inr (hgives.bodies t (List.mem_reverse.mp hmem))
        · exact Or.inl hmem
      · exact Or.inr fun l hl => List.Subset.trans (hbody l hl) hgives.reaches.rest

theorem named_of_tokens? {cs : List Char} {tokens : List Token} (h : tokens? cs = some tokens) :
    ∀ t ∈ tokens, t.lexeme.isNamed = true := named_of_scan h nofun

/-- the tokens of a text are in order -/
theorem ordered_of_tokens? {cs : List Char} {tokens : List Token} (h : tokens? cs = some tokens) :
    Ordered .start tokens :=
  (ordered_of_scan h (Ordered.nil _) (Position.le_refl _) nofun).1

/-! ## format literals of one line -/

/-- is it anything but a format literal with a line feed in it? -/
def Lexeme.isOneLine : Lexeme → Bool
  | .string l => !l.format || !l.body.contains '\n'
  | _ => true

theorem Lexeme.not_mem_of_isOneLine {l : Literal} (h : (Lexeme.string l).isOneLine = true)
    (hformat : l.format = true) :
    '\n' ∉ l.body := by
  rw [isOneLine, hformat] at h
  simpa using h

theorem within_eq {start : Position} {t : Token}
    (h : ∀ l : Literal, t.lexeme = .string l → '\n' ∉ l.body) :
    t.within start = t := by
  unfold Token.within
  split
  · rename_i l hl
    have hbody : l.body.contains '\n' = false := by simpa using h l hl
    rw [hbody, Bool.and_false]
    rfl
  · rfl

theorem isNamed_within (start : Position) {t : Token} (h : t.lexeme.isNamed = true) :
    (t.within start).lexeme.isNamed = true := by
  unfold Token.within
  split
  · split
    · rfl
    · exact h
  · exact h

theorem named_of_tokensWithin? {cur : Cursor} {tokens : List Token}
    (h : tokensWithin? cur = some tokens) : ∀ t ∈ tokens, t.lexeme.isNamed = true := by
  obtain ⟨scanned, hscan, rfl⟩ := Option.map_eq_some_iff.mp h
  have hnamed := named_of_scan hscan (List.forall_mem_singleton.mpr rfl)
  exact List.forall_mem_map.mpr fun t ht => isNamed_within cur.pos (hnamed t ht)

/-- the tokens of an expression that stands on one line between brackets are in order, and its
literals stand on one line as well -/
theorem ordered_of_tokensWithin? {cur : Cursor} {tokens : List Token} (hline : '\n' ∉ cur.rest)
    (h : tokensWithin? cur = some tokens) :
    Ordered cur.pos tokens ∧ ∀ t ∈ tokens, t.lexeme.isOneLine = true := by
  obtain ⟨scanned, hscan, rfl⟩ := Option.map_eq_some_iff.mp h
  have hopen : Ordered cur.pos [⟨cur.pos, .symbol .lpar⟩].reverse :=
    ⟨List.pairwise_singleton _ _,
      fun t ht => by rw [List.mem_singleton.mp ht]; exact Position.le_refl _⟩
  obtain ⟨hordered, hbodies⟩ := ordered_of_scan hscan hopen (Position.le_refl _)
    (fun t ht => by rw [List.mem_singleton.mp ht]; exact Position.le_refl _)
  have hone : ∀ t ∈ scanned, ∀ l : Literal, t.lexeme = .string l → '\n' ∉ l.body := by
    intro t ht l hl hmem
    rcases hbodies t ht with hopening | hbody
    · rw [List.mem_singleton.mp hopening] at hl
      cases hl
    · have hrest : '\n' ∈ cur.rest ++ [')'] := hbody l hl hmem
      rcases List.mem_append.mp hrest with hrest | hclose
      · exact hline hrest
      · cases List.mem_singleton.mp hclose
  have hsame : scanned.map (Token.within cur.pos) = scanned :=
    (List.map_congr_left fun t ht => within_eq (hone t ht)).trans (List.map_id' _)
  rw [hsame]
  refine ⟨hordered, fun t ht => ?_⟩
  cases hlexeme : t.lexeme with
  | string l =>
    have hbody : l.body.contains '\n' = false := by simpa using hone t ht l hlexeme
    rw [Lexeme.isOneLine, hbody, Bool.not_false, Bool.or_true]
  | _ => rfl

end Archetype.Code
