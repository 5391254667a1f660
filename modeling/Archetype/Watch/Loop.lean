import Archetype.Command.Project
import Archetype.Watch.Debounce
import Archetype.Watch.Watcher

/-!
# Watching a project

The project is analysed at the start and after every change that has settled. When a file of
settings changed, the configuration is read again first.

* `Watching.start`    the first analysis;
* `Watching.note`     takes in an event;
* `Watching.poll`     analyses the project again if changes have settled;
* `Watching.stop`     the last words.
-/

namespace Archetype

open Command (Failure Project)

/-- a project under watch, with the changes that have not settled -/
structure Watching where
  watcher : Watcher
  /-- where chosen files are found from -/
  base : Path
  flat : Bool
  pending : Pending Float
  /-- how often the project was analysed -/
  runs : Nat

namespace Watching

/-- analyses the project; the report follows as lines -/
def analyze (w : Watching) (t : FileTree) : Except Failure (Watching × List String) := do
  let (watcher, _, report) ← (w.watcher.run t).mapError .source
  let lines ← (Report.reportLines w.flat report).mapError .markup
  return ({ w with watcher, runs := w.runs + 1 }, lines)

/-- the first analysis -/
def start (t : FileTree) (base : Path) (p : Project) (flat : Bool) :
    Except Failure (Watching × List String) := do
  let w : Watching := ⟨.start p.root p.config p.configPath, base, flat, [], 0⟩
  let watching ← (Report.shownMarked ("[bold]Watching[/bold] " ++ p.root.text)).mapError .markup
  let (w, report) ← w.analyze t
  return (w, watching ++ "Press Ctrl+C to stop watching" :: report)

/-- takes in an event at time `now` -/
def note (w : Watching) (now : Float) (e : FileEvent) : Watching :=
  { w with pending := w.pending.note w.watcher.root now e }

/-- what is said when the configuration was kept -/
def keptLines : Option ConfigError → List String
  | none => []
  | some e => Report.shown ("Keeping previous configuration: " ++ e.message)

/-- reads the configuration again if a file of settings is among those that changed -/
def reload (w : Watching) (t : FileTree) (changed : List Path) :
    Except Failure (Watching × List String) :=
  if changed.any (·.suffix = ".toml") then
    match w.watcher.reload t w.base with
    | .ok (watcher, kept) => .ok ({ w with watcher }, keptLines kept)
    | .error (.settings (.config e)) => .ok (w, keptLines (some e))
    | .error (.settings (.long e)) => .error (.long e)
    | .error .notText => .error .notText
  else .ok (w, [])

/-- gives out the changes that have settled at time `now`, and analyses the project again if there
are any; `clock` is the time of day -/
def poll (w : Watching) (t : FileTree) (now : Float) (clock : String) :
    Except Failure (Watching × List String) := do
  let (changed, pending) := w.pending.flush settleSeconds now
  let w := { w with pending }
  if changed.isEmpty then return (w, [])
  let (w, kept) ← w.reload t changed
  let (w, report) ← w.analyze t
  return (w, kept
    ++ "" :: (clock ++ " " ++ toString changed.length ++ " file(s) changed, re-linting") :: report)

/-- the last words -/
def stop (w : Watching) : List String :=
  ["", "Stopped. Ran lint " ++ toString w.runs ++ " time(s)."]

end Watching

end Archetype
