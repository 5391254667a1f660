/-!
# Tables in insertion order

`Assoc β` is a table from names to values that keeps its entries in the order in which their names
were first put in.

* `get?`     the value of a name;
* `insert`   gives a name a value, in its old place if it has one;
* `keys`     the names in order.

`get?_insert` says what `insert` does to `get?`.
-/

namespace Archetype

/-- a table from names to values, oldest name first -/
abbrev Assoc (β : Type) := List (String × β)

namespace Assoc

variable {β : Type}

/-- the value of a name -/
def get? : Assoc β → String → Option β
  | [], _ => none
  | (k, v) :: m, key => if k = key then some v else get? m key

/-- gives `key` the value `value` -/
def insert : Assoc β → String → β → Assoc β
  | [], key, value => [(key, value)]
  | (k, v) :: m, key, value => if k = key then (k, value) :: m else (k, v) :: insert m key value

/-- changes the value of `key`, which is `fresh` if it has none -/
def update (m : Assoc β) (key : String) (fresh : β) (f : β → β) : Assoc β :=
  m.insert key (f ((m.get? key).getD fresh))

/-- takes `key` out -/
def erase : Assoc β → String → Assoc β
  | [], _ => []
  | (k, v) :: m, key => if k = key then erase m key else (k, v) :: erase m key

/-- the names of the table -/
def keys (m : Assoc β) : List String := m.map Prod.fst

/-- does the table have the name? -/
def contains (m : Assoc β) (key : String) : Bool := (m.get? key).isSome

theorem get?_nil (key : String) : get? ([] : Assoc β) key = none := rfl

theorem get?_cons (k : String) (v : β) (m : Assoc β) (key : String) :
    get? ((k, v) :: m) key = if k = key then some v else get? m key := rfl

/-- a name has the value last given to it -/
theorem get?_insert (m : Assoc β) (key : String) (value : β) (other : String) :
    (m.insert key value).get? other = if key = other then some value else m.get? other := by
  induction m with
  | nil => rfl
  | cons e m ih =>
    obtain ⟨k, v⟩ := e
    by_cases h : k = key
    · subst h
      by_cases h' : k = other <;> simp [insert, get?, h']
    · by_cases h' : k = other
      · subst h'
        have h'' : ¬ key = k := fun e => h e.symm
        simp [insert, get?, h, h'']
      · simp [insert, get?, h, h', ih]

/-- a name that is taken out has no value -/
theorem get?_erase (m : Assoc β) (key other : String) :
    (m.erase key).get? other = if key = other then none else m.get? other := by
  induction m with
  | nil => simp [erase, get?]
  | cons e m ih =>
    obtain ⟨k, v⟩ := e
    by_cases h : k = key
    · subst h
      by_cases h' : k = other
      · subst h'
        simpa [erase] using ih
      · simp [erase, get?, h', ih]
    · by_cases h' : k = other
      · subst h'
        have h'' : ¬ key = k := fun e => h e.symm
        simp [erase, get?, h, h'']
      · simp [erase, get?, h, h', ih]

end Assoc

end Archetype
