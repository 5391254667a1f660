import Archetype.Assoc
import Archetype.Program.Load
import Archetype.Text.Case

/-!
# Settled changes

Files change in bursts. A change is held back until nothing has happened to the file for a while,
the window; then it is given out, once.

Times are of any type that can be subtracted and compared.

* `isRelevant`          do changes of a file matter?
* `Pending.note`        takes in an event;
* `Pending.flush`       gives out the files that have settled;
* `ChangeHandler`       both, for someone who is told about the files.
-/

namespace Archetype

/-- suffixes of the files whose changes matter, in small letters -/
def watchedSuffixes : List String := [".py", ".pyi", ".toml"]

/-- do changes of the file matter? -/
def isRelevant (root : Path) (file : String) : Bool :=
  let path := Path.ofString file
  !passesForeign (path.relativeTo root).parts && watchedSuffixes.contains (Text.lower path.suffix)

/-- something that happened to a file or directory; a file that was moved has a destination -/
structure FileEvent where
  isDirectory : Bool
  source : String
  destination : String

/-- the files that changed, oldest first, with the time of the last event -/
abbrev Pending (τ : Type) := Assoc τ

namespace Pending

variable {τ : Type}

/-- the files of an event that matter -/
def touched (root : Path) (e : FileEvent) : List String :=
  if e.isDirectory then []
  else [e.source, e.destination].filter fun file => file != "" && isRelevant root file

/-- takes in an event at time `now` -/
def note (pending : Pending τ) (root : Path) (now : τ) (e : FileEvent) : Pending τ :=
  (touched root e).foldl (fun m file => m.insert file now) pending

variable [Sub τ] [LE τ] [DecidableLE τ]

/-- did the last event happen at least `window` before `now`? -/
def isSettled (window now last : τ) : Bool := decide (window ≤ now - last)

/-- gives out the files that have settled, in order, and keeps the others -/
def flush (pending : Pending τ) (window now : τ) : List Path × Pending τ :=
  let due := pending.filter fun e => isSettled window now e.2
  ((due.map fun e => Path.ofString e.1).mergeSort Path.le,
    pending.filter fun e => !isSettled window now e.2)

end Pending

/-- takes in the events of the files below a root, and tells a listener about the files that have
settled -/
structure ChangeHandler (τ : Type) where
  root : Path
  /-- is there a listener? -/
  listening : Bool
  pending : Pending τ
  /-- what the listener was told, oldest first -/
  told : List (List Path)

namespace ChangeHandler

variable {τ : Type}

/-- a handler to which nothing has happened -/
def start (root : Path) (listening : Bool) : ChangeHandler τ := ⟨root, listening, [], []⟩

/-- takes in an event at time `now` -/
def note (h : ChangeHandler τ) (now : τ) (e : FileEvent) : ChangeHandler τ :=
  { h with pending := h.pending.note h.root now e }

/-- gives out the files that have settled; the listener is told if there are any -/
def flush [Sub τ] [LE τ] [DecidableLE τ] (h : ChangeHandler τ) (window now : τ) :
    List Path × ChangeHandler τ :=
  let (changed, pending) := h.pending.flush window now
  (changed, { h with
    pending,
    told := if h.listening && !changed.isEmpty then h.told ++ [changed] else h.told })

end ChangeHandler

/-- how long nothing must have happened to a file, in seconds -/
def settleSeconds : Float := 0.5

end Archetype
