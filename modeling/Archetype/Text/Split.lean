/-!
# Cutting texts at a character

* `splitChars`, `splitOn`   the pieces of a text between the occurrences of one character;
* `joinWith`                pieces put together;
* `beforeLast`              what stands before the last occurrence of a character.
-/

namespace Archetype.Text

/-- the pieces of `cs` between the characters `sep`; there is always at least one piece -/
def splitChars (sep : Char) : List Char → List (List Char)
  | [] => [[]]
  | c :: cs =>
    if c = sep then [] :: splitChars sep cs
    else
      match splitChars sep cs with
      | [] => [[c]]
      | piece :: pieces => (c :: piece) :: pieces

theorem splitChars_ne_nil (sep : Char) (cs : List Char) : splitChars sep cs ≠ [] := by
  cases cs with
  | nil => simp [splitChars]
  | cons c cs =>
    unfold splitChars
    split
    · simp
    · split <;> simp

/-- the pieces of a text between the characters `sep` -/
def splitOn (sep : Char) (s : String) : List String := (splitChars sep s.toList).map String.ofList

/-- texts with `sep` between each two of them -/
def joinWith (sep : String) (pieces : List String) : String := sep.intercalate pieces

/-- what stands before the last `sep`, and the empty text if there is none -/
def beforeLast (sep : Char) (s : String) : String :=
  String.ofList ((s.toList.reverse.dropWhile (· != sep)).drop 1).reverse

/-- does `s` begin with `start`? -/
def beginsWith (start s : String) : Bool := start.toList.isPrefixOf s.toList

/-- the lines of a text: the pieces between its line feeds -/
def lines (s : String) : List String := splitOn '\n' s

/-- one line feed for each of CR LF, CR and LF -/
def unifyNewlines : List Char → List Char
  | [] => []
  | '\r' :: '\n' :: cs => '\n' :: unifyNewlines cs
  | '\r' :: cs => '\n' :: unifyNewlines cs
  | c :: cs => c :: unifyNewlines cs

end Archetype.Text
