import Archetype.Report.Markup
import Archetype.Report.Picture
import Archetype.Text.Wrap

/-!
# What a console shows

A text on its way to the console is changed: tags say how to write what follows and are not shown,
names between colons stand for pictures, and a few controls are left out. Lines that are too wide
are broken.

* `plainText`      a text with its pictures;
* `markedText`     a text without its tags and with its pictures;
* `shown`          the lines of a text that has no tags;
* `shownMarked`    the lines of a text that may have tags.
-/

namespace Archetype.Report

/-- the cells of a line -/
def consoleWidth : Nat := 500

/-- the controls that are never shown: those that ring, go back, or go down -/
def isSilent (c : Char) : Bool := c.toNat = 7 || c.toNat = 8 || (11 ≤ c.toNat && c.toNat ≤ 13)

/-- the text with its pictures, and without the controls that are never shown -/
def plainText (cs : List Char) : List Char := (pictured cs).filter fun c => !isSilent c

/-- the text without its tags, with its pictures, and without the controls that are never shown -/
def markedText (cs : List Char) : Except MarkupError (List Char) :=
  return (← unmark cs).flatMap plainText

/-- the lines of at most `width` cells that a text becomes -/
def screenLines (width : Nat) (cs : List Char) : List (List Char) :=
  (Text.splitChars '\n' cs).flatMap (Text.wrapLine width)

/-- the lines of a text that has no tags -/
def shown (s : String) : List String :=
  (screenLines consoleWidth (plainText s.toList)).map String.ofList

/-- the lines of a text that may have tags -/
def shownMarked (s : String) : Except MarkupError (List String) :=
  return (screenLines consoleWidth (← markedText s.toList)).map String.ofList

end Archetype.Report
