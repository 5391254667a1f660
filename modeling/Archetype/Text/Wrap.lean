import Archetype.Text.Blank
import Archetype.Text.Split
import Archetype.Text.Width

/-!
# Lines of a limited width

A line that is wider than the place it has is broken before a word; a word that is too wide for any
line is cut where the line is full. Characters that show as one sign are never parted.

* `clusters`     the signs of a text with their widths;
* `chop`         a text cut into pieces that are full;
* `breakLine`    a line broken between its words;
* `expandTabs`   a line with blanks for its tabs, which end at every eighth column;
* `wrapLine`     the lines that a line becomes.
-/

namespace Archetype.Text

/-! ## signs -/

/-- characters that show as one sign, and the cells that it takes -/
structure Cluster where
  chars : List Char
  width : Nat
  deriving DecidableEq, Repr

/-- the clusters so far with `more` at the end of the last one, which becomes `wider` cells wider -/
def growLast (more : List Char) (wider : Nat) : List Cluster → List Cluster
  | [] => [⟨more, wider⟩]
  | k :: ks => ⟨k.chars ++ more, k.width + wider⟩ :: ks

/-- The clusters of characters; `found` are those before them, the last one first, and `last` is the
last character that took any cell, unless a selector made it wide. -/
def clustersFrom (found : List Cluster) (last : Option Char) : List Char → List Cluster
  | [] => found.reverse
  | c :: d :: cs =>
    if c = joiner && !found.isEmpty then clustersFrom (growLast [c, d] 0 found) last cs
    else if c = emojiSelector then
      let wider := (last.map widening).getD 0
      clustersFrom (growLast [c] wider found) (if wider = 0 then last else none) (d :: cs)
    else if charWidth c = 0 then clustersFrom (growLast [c] 0 found) last (d :: cs)
    else clustersFrom (⟨[c], charWidth c⟩ :: found) (some c) (d :: cs)
  | [c] =>
    if c = emojiSelector then (growLast [c] ((last.map widening).getD 0) found).reverse
    else if charWidth c = 0 then (growLast [c] 0 found).reverse
    else (⟨[c], charWidth c⟩ :: found).reverse

/-- the clusters of a text -/
def clusters (cs : List Char) : List Cluster := clustersFrom [] none cs

/-- puts clusters on lines of `width` cells; `line` is the line so far, which takes `size` cells -/
def chopFrom (width : Nat) (line : List Char) (size : Nat) : List Cluster → List (List Char)
  | [] => if size = 0 then [] else [line]
  | k :: ks =>
    if width < size + k.width then line :: chopFrom width k.chars k.width ks
    else chopFrom width (line ++ k.chars) (size + k.width) ks

/-- a text cut into pieces, each as wide as `width` cells allow -/
def chop (width : Nat) (cs : List Char) : List (List Char) := chopFrom width [] 0 (clusters cs)

/-- as many clusters as `width` cells hold, and a blank for half of the next one if it has to be
cut -/
def takeClusters (width : Nat) : List Cluster → List Char
  | [] => []
  | k :: ks =>
    if k.width ≤ width then k.chars ++ takeClusters (width - k.width) ks
    else List.replicate width ' '

/-- the start of a text that fits in `width` cells -/
def crop (width : Nat) (cs : List Char) : List Char :=
  if cells cs ≤ width then cs else takeClusters width (clusters cs)

/-! ## words -/

/-- the words of a text with the white space around them, each taking at least one of `n`
characters; what stands before the first word goes with it -/
def wordsFrom : Nat → List Char → List (List Char)
  | 0, _ => []
  | n + 1, cs =>
    let lead := cs.takeWhile isBlank
    let body := (cs.dropWhile isBlank).takeWhile (!isBlank ·)
    let tail := (cs.dropWhile isBlank).dropWhile (!isBlank ·)
    if body.isEmpty then []
    else (lead ++ body ++ tail.takeWhile isBlank) :: wordsFrom n (tail.dropWhile isBlank)

/-- the words of a text with the white space around them -/
def words (cs : List Char) : List (List Char) := wordsFrom cs.length cs

/-- the words of a text without white space -/
def bareWords (s : String) : List String :=
  (words s.toList).map fun word => strip (String.ofList word)

/-! ## breaking lines -/

/-- lines that are full, the last one first, and the line that is being filled with the cells it
takes -/
structure Filling where
  full : List (List Char)
  line : List Char
  size : Nat

namespace Filling

/-- starts a new line with a text, unless nothing stands before it -/
def newLine (f : Filling) (cs : List Char) : Filling :=
  ⟨if f.line.isEmpty && f.full.isEmpty then [] else f.line :: f.full, cs, cells cs⟩

/-- adds a word: on the same line if it fits, else on the next one, or cut on several lines -/
def add (width : Nat) (f : Filling) (word : List Char) : Filling :=
  let size := cells (stripRightChars word)
  if f.size + size ≤ width then { f with line := f.line ++ word, size := f.size + cells word }
  else if width < size then (chop width word).foldl newLine f
  else if f.size = 0 then { f with line := f.line ++ word }
  else f.newLine word

/-- all lines -/
def lines (f : Filling) : List (List Char) := (f.line :: f.full).reverse

end Filling

/-- a line broken between its words; a line of white space is not broken -/
def breakLine (width : Nat) (cs : List Char) : List (List Char) :=
  match words cs with
  | [] => [cs]
  | ws => (ws.foldl (Filling.add width) ⟨[], [], 0⟩).lines

/-- white space at the end is left out as far as the line has more than `size` characters -/
def trimEnd (size : Nat) (cs : List Char) : List Char :=
  let blank := cs.length - (stripRightChars cs).length
  cs.take (cs.length - min blank (cs.length - size))

/-! ## tabs -/

/-- the distance of places where tabs end -/
def tabWidth : Nat := 8

/-- the parts of a line between its tabs, put together with blanks; `column` is where the first part
starts -/
def joinTabbed (column : Nat) : List (List Char) → List Char
  | [] => []
  | [part] => part
  | part :: parts =>
    let part := part ++ [' ']
    let stop := column + cells part
    let more := (tabWidth - stop % tabWidth) % tabWidth
    part ++ List.replicate more ' ' ++ joinTabbed (stop + more) parts

/-- a line with blanks for its tabs -/
def expandTabs (cs : List Char) : List Char := joinTabbed 0 (splitChars '\t' cs)

/-- the lines of at most `width` cells that a line becomes -/
def wrapLine (width : Nat) (cs : List Char) : List (List Char) :=
  (breakLine width (expandTabs cs)).map fun line => crop width (trimEnd width line)

end Archetype.Text
