/-!
# Positions in a source text

* `Position`         a line, counted from one, and a column, counted in UTF-8 bytes from zero;
* `Position.after`   the position behind a character;
* `Cursor`           the rest of a text together with the position at which it starts.
-/

namespace Archetype.Code

/-- a place in a source text -/
structure Position where
  line : Nat
  column : Nat
  deriving DecidableEq, Inhabited

namespace Position

/-- the first place of a text -/
def start : Position := ⟨1, 0⟩

/-- the place behind `c` -/
def after (p : Position) (c : Char) : Position :=
  if c = '\n' then ⟨p.line + 1, 0⟩ else ⟨p.line, p.column + c.utf8Size⟩

/-- the place behind a run of characters -/
def afterAll (p : Position) (cs : List Char) : Position := cs.foldl after p

/-- source order: by line, then by column -/
def le (p q : Position) : Bool := p.line < q.line || (p.line == q.line && p.column ≤ q.column)

theorem le_iff (p q : Position) :
    p.le q = true ↔ p.line < q.line ∨ (p.line = q.line ∧ p.column ≤ q.column) := by
  simp [le]

theorem le_refl (p : Position) : p.le p = true := by
  rw [le_iff]
  omega

theorem le_trans (p q s : Position) (hpq : p.le q = true) (hqs : q.le s = true) :
    p.le s = true := by
  rw [le_iff] at *
  omega

theorem le_total (p q : Position) : (p.le q || q.le p) = true := by
  rw [Bool.or_eq_true, le_iff, le_iff]
  omega

end Position

/-- what is still to be read of a text, and where it starts -/
structure Cursor where
  rest : List Char
  pos : Position

namespace Cursor

/-- the cursor behind the first `n` characters -/
def skip (cur : Cursor) (n : Nat) : Cursor :=
  ⟨cur.rest.drop n, cur.pos.afterAll (cur.rest.take n)⟩

/-- the longest run of characters that satisfy `p`, and the cursor behind it -/
def takeWhile (cur : Cursor) (p : Char → Bool) : List Char × Cursor :=
  let run := cur.rest.takeWhile p
  (run, ⟨cur.rest.dropWhile p, cur.pos.afterAll run⟩)

/-- the cursor behind the longest run of characters that satisfy `p` -/
def dropWhile (cur : Cursor) (p : Char → Bool) : Cursor := (cur.takeWhile p).2

end Cursor

end Archetype.Code
