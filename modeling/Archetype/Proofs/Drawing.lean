import Archetype.Report.Graph

/-!
# Drawings can be read back

A drawing lists names, arrows and dashed lines, one statement a line, and a name may hold line
breaks, quotes or what looks like a statement. Since every double quote and every backslash in a
name is guarded by a backslash, the first quote that is not guarded ends the name. So each statement
can be told from what follows it, and the text of a drawing tells the title and all that is drawn.

* `unquote`            reads a name up to the quote that ends it;
* `unquote_escaped`    it reads just what was written: no name ends its quotes early;
* `DotStatement`       the three kinds of lines, and `write_append_inj`, which tells them apart;
* `dot_decodable`      drawings with one text show the same under the same title.
-/

namespace Archetype.Report

/-! ## names in quotes -/

/-- the characters with a backslash before every `c` -/
def guarded (c : Char) (cs : List Char) : List Char :=
  cs.flatMap fun d => if d = c then ['\\', d] else [d]

/-- the characters of a name between its quotes -/
def escaped (cs : List Char) : List Char :=
  cs.flatMap fun c => if c = '"' || c = '\\' then ['\\', c] else [c]

theorem escaped_cons (c : Char) (cs : List Char) :
    escaped (c :: cs) = (if c = '"' || c = '\\' then ['\\', c] else [c]) ++ escaped cs := rfl

theorem dotQuote_append (name : String) (rest : List Char) :
    dotQuote name ++ rest = '"' :: (escaped name.toList ++ '"' :: rest) := by
  show '"' :: (escaped name.toList ++ ['"']) ++ rest = _
  rw [List.cons_append, List.append_assoc, List.singleton_append]

/-- backslashes are guarded first and quotes then, so a guard is never guarded itself -/
theorem escaped_eq_guarded (cs : List Char) : escaped cs = guarded '"' (guarded '\\' cs) := by
  induction cs with
  | nil => rfl
  | cons c cs ih =>
    have hcons : guarded '\\' (c :: cs) = (if c = '\\' then ['\\', c] else [c])
        ++ guarded '\\' cs := rfl
    have happend : ∀ front back, guarded '"' (front ++ back)
        = guarded '"' front ++ guarded '"' back :=
      fun front back => List.flatMap_append
    rw [escaped_cons, hcons, happend, ih]
    congr 1
    by_cases hslash : c = '\\'
    · subst hslash
      rfl
    · by_cases hquote : c = '"'
      · subst hquote
        rfl
      · simp [guarded, hslash, hquote]

/-- Reads up to the first double quote that no backslash guards, and gives what stood before it,
without the guards, and what comes behind it. -/
def unquote : List Char → Option (List Char × List Char)
  | [] => none
  | '"' :: rest => some ([], rest)
  | '\\' :: c :: rest => (unquote rest).map fun (name, rest) => (c :: name, rest)
  | c :: rest => (unquote rest).map fun (name, rest) => (c :: name, rest)

/-- a name ends where its quotes end -/
theorem unquote_escaped (cs rest : List Char) :
    unquote (escaped cs ++ '"' :: rest) = some (cs, rest) := by
  induction cs with
  | nil => rfl
  | cons c cs ih =>
    rw [escaped_cons, List.append_assoc]
    by_cases hquote : c = '"'
    · subst hquote
      show (unquote (escaped cs ++ '"' :: rest)).map _ = _
      rw [ih, Option.map_some]
    · by_cases hslash : c = '\\'
      · subst hslash
        show (unquote (escaped cs ++ '"' :: rest)).map _ = _
        rw [ih, Option.map_some]
      · have hplain : (if c = '"' || c = '\\' then ['\\', c] else [c]) = [c] := by
          simp [hquote, hslash]
        rw [hplain, List.singleton_append, unquote, ih, Option.map_some]
        · exact hquote
        · exact fun d ds hd => absurd hd hslash

/-- what stands behind a name tells nothing about it -/
theorem dotQuote_append_inj {name name' : String} {rest rest' : List Char}
    (h : dotQuote name ++ rest = dotQuote name' ++ rest') : name = name' ∧ rest = rest' := by
  rw [dotQuote_append, dotQuote_append] at h
  have hread := congrArg unquote (List.cons.inj h).2
  rw [unquote_escaped, unquote_escaped, Option.some.injEq, Prod.mk.injEq] at hread
  exact ⟨String.toList_inj.mp hread.1, hread.2⟩

/-! ## statements -/

/-- what a line of the drawing draws -/
inductive DotStatement where
  | name (n : String)
  | arrow (e : Edge)
  | dashed (e : Edge)

namespace DotStatement

/-- the sign of an arrow -/
def sign : List Char := " -> ".toList

/-- what is said of a dashed line -/
def dashes : List Char := " [style=dashed, color=\"red\", dir=none]".toList

/-- the line of a statement -/
def write : DotStatement → List Char
  | name n => dotLine (dotQuote n)
  | arrow e => dotLine (dotArrow e)
  | dashed e => dotLine (dotArrow e ++ dashes)

/-- the name that a line begins with -/
def first : DotStatement → String
  | name n => n
  | arrow e => e.1
  | dashed e => e.1

/-- what comes behind the first name of a line -/
def tail : DotStatement → List Char
  | name _ => [';', '\n']
  | arrow e => sign ++ dotQuote e.2 ++ [';', '\n']
  | dashed e => sign ++ dotQuote e.2 ++ dashes ++ [';', '\n']

/-- the name that a line draws -/
def name? : DotStatement → Option String
  | name n => some n
  | _ => none

/-- the dependency that a line draws -/
def arrow? : DotStatement → Option Edge
  | arrow e => some e
  | _ => none

/-- the conflict that a line draws -/
def dashed? : DotStatement → Option Edge
  | dashed e => some e
  | _ => none

theorem write_eq (s : DotStatement) : s.write = ' ' :: ' ' :: (dotQuote s.first ++ s.tail) := by
  have harrow : ∀ e : Edge, dotArrow e = dotQuote e.1 ++ sign ++ dotQuote e.2 := fun _ => rfl
  cases s with
  | name n => rfl
  | arrow e => simp only [write, first, tail, dotLine, harrow, List.cons_append, List.append_assoc]
  | dashed e => simp only [write, first, tail, dotLine, harrow, List.cons_append, List.append_assoc]

/-- behind its first name, a line can be told from what follows it -/
theorem tail_append_inj {s s' : DotStatement} {rest rest' : List Char} (hfirst : s.first = s'.first)
    (h : s.tail ++ rest = s'.tail ++ rest') : s = s' ∧ rest = rest' := by
  cases s with
  | name n =>
    cases s' with
    | name n' =>
      obtain rfl : n = n' := hfirst
      exact ⟨rfl, List.append_cancel_left h⟩
    | arrow e' => cases h
    | dashed e' => cases h
  | arrow e =>
    cases s' with
    | name n' => cases h
    | arrow e' =>
      simp only [tail, List.append_assoc] at h
      obtain ⟨hsecond, hrest⟩ := dotQuote_append_inj (List.append_cancel_left h)
      obtain rfl : e = e' := Prod.ext hfirst hsecond
      exact ⟨rfl, List.append_cancel_left hrest⟩
    | dashed e' =>
      -- one line ends behind the second name, the other goes on with a blank
      simp only [tail, List.append_assoc] at h
      cases (dotQuote_append_inj (List.append_cancel_left h)).2
  | dashed e =>
    cases s' with
    | name n' => cases h
    | arrow e' =>
      simp only [tail, List.append_assoc] at h
      cases (dotQuote_append_inj (List.append_cancel_left h)).2
    | dashed e' =>
      simp only [tail, List.append_assoc] at h
      obtain ⟨hsecond, hrest⟩ := dotQuote_append_inj (List.append_cancel_left h)
      obtain rfl : e = e' := Prod.ext hfirst hsecond
      exact ⟨rfl, List.append_cancel_left (List.append_cancel_left hrest)⟩

theorem write_append_inj {s s' : DotStatement} {rest rest' : List Char}
    (h : s.write ++ rest = s'.write ++ rest') : s = s' ∧ rest = rest' := by
  rw [write_eq, write_eq, List.cons_append, List.cons_append, List.cons_append, List.cons_append,
    List.append_assoc, List.append_assoc] at h
  obtain ⟨hfirst, htail⟩ := dotQuote_append_inj (List.cons.inj (List.cons.inj h).2).2
  exact tail_append_inj hfirst htail

/-- lines up to the closing bracket can be read back -/
theorem flatMap_write_inj {ss ss' : List DotStatement} {rest rest' : List Char}
    (h : ss.flatMap write ++ '\x7d' :: rest = ss'.flatMap write ++ '\x7d' :: rest') : ss = ss' := by
  induction ss generalizing ss' with
  | nil =>
    cases ss' with
    | nil => rfl
    | cons s' ss' =>
      rw [List.flatMap_cons, write_eq] at h
      cases h
  | cons s ss ih =>
    cases ss' with
    | nil =>
      rw [List.flatMap_cons, write_eq] at h
      cases h
    | cons s' ss' =>
      rw [List.flatMap_cons, List.flatMap_cons, List.append_assoc, List.append_assoc] at h
      obtain ⟨rfl, hrest⟩ := write_append_inj h
      rw [ih hrest]

end DotStatement

/-! ## the drawing -/

/-- what is drawn of a graph, line by line -/
def dotStatements (g : ConstraintGraph) : List DotStatement :=
  g.nodes.map .name ++ g.edges.map .arrow ++ g.pairs.map .dashed

/-- the lines tell the names, the dependencies and the conflicts -/
theorem dotStatements_inj {g h : ConstraintGraph} (heq : dotStatements g = dotStatements h) :
    g.nodes = h.nodes ∧ g.edges = h.edges ∧ g.pairs = h.pairs := by
  have hnone : ∀ (α β : Type) (l : List α),
      l.filterMap (fun _ => (none : Option β)) = [] := fun α β l =>
    List.filterMap_eq_nil_iff.mpr fun _ _ => rfl
  have hnames := congrArg (List.filterMap DotStatement.name?) heq
  have harrows := congrArg (List.filterMap DotStatement.arrow?) heq
  have hdashed := congrArg (List.filterMap DotStatement.dashed?) heq
  simp only [dotStatements, List.filterMap_append, List.filterMap_map] at hnames harrows hdashed
  refine ⟨?_, ?_, ?_⟩
  · simpa [Function.comp_def, DotStatement.name?, hnone] using hnames
  · simpa [Function.comp_def, DotStatement.arrow?, hnone] using harrows
  · simpa [Function.comp_def, DotStatement.dashed?, hnone] using hdashed

/-- the text of a drawing up to the quotes of its title -/
def dotOpening : List Char := "digraph components \x7b\n".toList ++ ' ' :: ' ' :: "label=".toList

theorem flatMap_write_dotStatements (g : ConstraintGraph) :
    (dotStatements g).flatMap DotStatement.write =
      g.nodes.flatMap (fun n => dotLine (dotQuote n))
        ++ g.edges.flatMap (fun e => dotLine (dotArrow e)) ++
        g.pairs.flatMap fun e => dotLine (dotArrow e ++ DotStatement.dashes) := by
  rw [dotStatements, List.flatMap_append, List.flatMap_append, List.flatMap_map, List.flatMap_map,
    List.flatMap_map]
  rfl

theorem toList_dot (g : ConstraintGraph) (title : String) :
    (dot g title).toList =
      dotOpening ++ (dotQuote title ++ (';' :: '\n' :: (dotSettings ++
        ((dotStatements g).flatMap DotStatement.write ++ ['\x7d', '\n'])))) := by
  -- the texts are variables here, so that they are not spelled out
  have hassoc : ∀ opening label quoted settings names arrows dashed closing : List Char,
      opening ++ dotLine (label ++ quoted) ++ settings ++ names ++ arrows ++ dashed ++ closing =
        (opening ++ ' ' :: ' ' :: label) ++ (quoted ++ (';' :: '\n' :: (settings ++
          (names ++ arrows ++ dashed ++ closing)))) := by
    intros
    simp [dotLine]
  rw [flatMap_write_dotStatements]
  exact String.toList_ofList.trans (hassoc ..)

/-- Drawings with one text have one title and show the same names, dependencies and conflicts. A
name is written with its backslashes and then its quotes guarded, and whatever comes behind it,
reading it ends at its last quote. -/
theorem dot_decodable :
    (∀ (g h : ConstraintGraph) (title title' : String), dot g title = dot h title' →
      title = title' ∧ g.nodes = h.nodes ∧ g.edges = h.edges ∧ g.pairs = h.pairs) ∧
    ∀ (name : String) (rest : List Char),
      dotQuote name = '"' :: guarded '"' (guarded '\\' name.toList) ++ ['"'] ∧
        unquote ((dotQuote name ++ rest).drop 1) = some (name.toList, rest) := by
  refine ⟨fun g h title title' heq => ?_, fun name rest => ⟨?_, ?_⟩⟩
  · have htext := congrArg String.toList heq
    rw [toList_dot, toList_dot] at htext
    obtain ⟨htitle, hlines⟩ := dotQuote_append_inj (List.append_cancel_left htext)
    have hstatements := List.append_cancel_left (List.cons.inj (List.cons.inj hlines).2).2
    exact ⟨htitle, dotStatements_inj (DotStatement.flatMap_write_inj hstatements)⟩
  · rw [← escaped_eq_guarded]
    rfl
  · rw [dotQuote_append, List.drop_one, List.tail_cons, unquote_escaped]

/-- a dependency between names that look like the end of a statement, in either mode of conflicts -/
def trickyGraph (symmetric : Bool) : ConstraintGraph := ⟨symmetric, [("a\";\n  \"b", "c\\")], []⟩

theorem dot_decodable_tricky :
    dot (trickyGraph true) "\";" = dot (trickyGraph false) "\";" ∧
      (trickyGraph true).edges = (trickyGraph false).edges ∧
      unquote ((dotQuote "c\\" ++ ";\n".toList).drop 1) = some ("c\\".toList, ";\n".toList) := by
  have htext : dot (trickyGraph true) "\";" = dot (trickyGraph false) "\";" := rfl
  obtain ⟨-, -, hedges, -⟩ := dot_decodable.1 _ _ _ _ htext
  exact ⟨htext, hedges, (dot_decodable.2 "c\\" ";\n".toList).2⟩

end Archetype.Report
