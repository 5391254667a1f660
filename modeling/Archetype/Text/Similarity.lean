/-!
# Similar words

Two words are compared by what they share: their longest common piece, and then, in the same way,
what stands before it in both and what stands behind it in both. Words that share enough are close.

* `longestShared`   the longest common piece;
* `shared`          how many characters two words share;
* `closest`         the few words that are closest to a word.
-/

namespace Archetype.Text

/-- how many characters two texts have in common at their start -/
def commonStart : List Char → List Char → Nat
  | a :: as, b :: bs => if a = b then commonStart as bs + 1 else 0
  | _, _ => 0

/-- a piece that stands in two texts -/
structure SharedPiece where
  /-- where it starts in the first -/
  left : Nat
  /-- where it starts in the second -/
  right : Nat
  size : Nat

/-- the ends of a text that are not empty, each with the place where it starts, if the text starts
at `i` -/
def endsFrom (i : Nat) : List Char → List (Nat × List Char)
  | [] => []
  | c :: cs => (i, c :: cs) :: endsFrom (i + 1) cs

/-- the longest piece that stands in both texts; of several the one that comes first in `a`, and
then in `b` -/
def longestShared (a b : List Char) : SharedPiece :=
  (endsFrom 0 a).foldl
    (fun best (i, as) =>
      (endsFrom 0 b).foldl
        (fun best (j, bs) =>
          let size := commonStart as bs
          if best.size < size then ⟨i, j, size⟩ else best)
        best)
    ⟨0, 0, 0⟩

/-- how many characters two texts share; each round takes at least one of them from both -/
def sharedFrom : (fuel : Nat) → List Char → List Char → Nat
  | 0, _, _ => 0
  | fuel + 1, a, b =>
    let piece := longestShared a b
    if piece.size = 0 then 0
    else
      sharedFrom fuel (a.take piece.left) (b.take piece.right) + piece.size
        + sharedFrom fuel (a.drop (piece.left + piece.size)) (b.drop (piece.right + piece.size))

/-- how many characters two texts share -/
def shared (a b : List Char) : Nat := sharedFrom a.length a b

/-- a word with the characters that it shares, and those that there are in both words together -/
structure Likeness where
  word : String
  both : Nat
  total : Nat

namespace Likeness

/-- how like `word` is to `given` -/
def of (given word : String) : Likeness :=
  ⟨word, shared word.toList given.toList, word.length + given.length⟩

/-- do the words share three fifths of their characters? -/
def isClose (l : Likeness) : Bool := 3 * l.total ≤ 10 * l.both

/-- is `l` at least as like as `m`? Of words that are alike the later in the alphabet comes
first. -/
def before (l m : Likeness) : Bool :=
  m.both * l.total
    < l.both * m.total || (m.both * l.total = l.both * m.total && decide (m.word ≤ l.word))

end Likeness

/-- the words that are closest to a word, at most three of them, in alphabetical order -/
def closest (given : String) (words : List String) : List String :=
  let close := (words.map (Likeness.of given)).filter Likeness.isClose
  (((close.mergeSort Likeness.before).take 3).map Likeness.word).mergeSort fun a b => decide (a ≤ b)

end Archetype.Text
