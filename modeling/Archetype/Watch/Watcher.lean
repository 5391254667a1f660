import Archetype.Config.Load
import Archetype.Program.Load
import Archetype.Session

/-!
# Analysing a project again and again

A watcher analyses a project whenever it is told to, in one session. When a run saw a new state of
the project, the state before it is dropped from the session.

* `Watcher.run`      analyses the project as it is now;
* `Watcher.reload`   reads the configuration again, and keeps the old one if the new one cannot be
                     used.
-/

namespace Archetype

/-- a project under watch -/
structure Watcher where
  root : Path
  config : Config
  /-- the file of the configuration, if it was chosen -/
  configPath : Option Path
  session : Session
  /-- the snapshot of the last run -/
  last : Option Nat

namespace Watcher

/-- a watcher that has run nothing -/
def start (root : Path) (config : Config) (configPath : Option Path) : Watcher :=
  ⟨root, config, configPath, .start, none⟩

/-- what a session keeps after a run that saw `snapshot` -/
def dropLast (session : Session) (last : Option Nat) (snapshot : Nat) : Session :=
  match last with
  | none => session
  | some old => if old = snapshot then session else session.invalidate old

/-- analyses the project as it is now; the report comes with the registry that it is based on -/
def run (w : Watcher) (t : FileTree) :
    Except SourceError (Watcher × Built Registry × ProgramReport) := do
  let program ← Program.load t w.root w.config.exclude w.config.semantic
  let (session, registry, report) := w.session.analyzeBuilt program w.config
  return ({ w with
    session := dropLast session w.last report.snapshot,
    last := some report.snapshot }, registry, report)

/-- reads the configuration again. If it cannot be used the watcher keeps the one it has, and the
error is given out; a file that is no text and an integer with too many digits are errors of their
own. Chosen files are found from `base`. -/
def reload (w : Watcher) (t : FileTree) (base : Path) :
    Except LoadError (Watcher × Option ConfigError) := do
  let path ←
    match w.configPath with
    | some path => pure (some path)
    | none => Config.find t w.root
  match Config.load t base path with
  | .ok config => return ({ w with config }, none)
  | .error (.settings (.config e)) => return (w, some e)
  | .error e => throw e

end Watcher

end Archetype
