import Archetype.Config
import Archetype.Toml.Document

/-!
# Configurations on disk

The configuration of a project is in a file of its own or in the tool's table of the project file.

* `Config.find`     the file that holds the configuration of a project;
* `Config.load`     the configuration in a file;
* `projectRoot`     the nearest directory upwards that holds either file.
-/

namespace Archetype

/-- why no configuration can be read from a file -/
inductive LoadError where
  | settings (e : SettingsError)
  /-- the file is no text -/
  | notText

/-- the file for the configuration alone -/
def configName : String := "ecslint.toml"

/-- the file of the whole project -/
def projectName : String := "pyproject.toml"

namespace Config

/-- the table of a name within a table; there is none behind anything else -/
def subtable (t : Assoc Setting) (name : String) : Assoc Setting :=
  ((t.get? name).map Setting.entries).getD []

/-- the configuration in a file that a path leads to from `base`; without a path, the one without
settings -/
def load (t : FileTree) (base : Path) : Option Path → Except LoadError Config
  | none => .ok .default
  | some path =>
    match t.read (base.join path) with
    | .error why => .error (.settings (.config (.unreadable path why)))
    | .ok bytes =>
      match FileTree.textOf? bytes with
      | none => .error .notText
      | some text =>
        match Toml.parse text with
        | .error .malformed => .error (.settings (.config (.malformed path)))
        | .error (.longInteger digits) => .error (.settings (.long (.read digits)))
        | .ok settings =>
          let settings :=
            if path.name = projectName then subtable (subtable settings "tool") "ecslint"
            else settings
          (ofSettings settings (some path)).mapError .settings

/-- The file that holds the configuration of the project at `root`. A project file counts if it has
the tool's table, whatever is in it; one that cannot be understood is as good as none. -/
def find (t : FileTree) (root : Path) : Except LoadError (Option Path) :=
  let own := root.child configName
  let project := root.child projectName
  match t.at? own with
  | some (.file _) => .ok (some own)
  | _ =>
    match t.at? project with
    | some (.file bytes) =>
      match FileTree.textOf? bytes with
      | none => .error .notText
      | some text =>
        match Toml.parse text with
        | .error .malformed => .ok none
        | .error (.longInteger digits) => .error (.settings (.long (.read digits)))
        | .ok settings =>
          .ok (if (subtable settings "tool").contains "ecslint" then some project else none)
    | _ => .ok none

end Config

/-- the nearest directory from `start` upwards that holds a file with settings, or `start` -/
def projectRoot (t : FileTree) (start : Path) : Path :=
  let start := start.settled
  (start.upward.find? fun dir =>
    (t.at? (dir.child projectName)).isSome || (t.at? (dir.child configName)).isSome).getD start

end Archetype
