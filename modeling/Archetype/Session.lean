import Archetype.Analysis

/-!
# Analysis sessions

A session remembers what it built for the states of a program that it has seen. A state is known by
its fingerprint and gets a number, its snapshot, when it is first seen; numbers only grow. As long
as a snapshot is not dropped, the session gives the very same registry and index for it, which is
seen by their serial numbers: each thing that a session builds has its own.

* `snapshotOf`       the snapshot of a program;
* `indexOf`          the index of a program, built on first request;
* `registryOf`       the registry of a program, built on first request;
* `invalidate`       drops a snapshot;
* `analyze`          the report on a program.
-/

namespace Archetype

/-- a thing that a session built -/
structure Built (α : Type) where
  /-- counts the things that the session built before -/
  serial : Nat
  value : α

/-- what a session remembers -/
structure Session where
  /-- the snapshot that the next new state will get -/
  next : Nat
  /-- how many things were built -/
  built : Nat
  /-- the snapshots of the known states, by fingerprint -/
  snapshots : Assoc Nat
  /-- registries by snapshot -/
  registries : List (Nat × Built Registry)
  /-- indexes by snapshot -/
  indexes : List (Nat × Built Index)

namespace Session

/-- a session that has seen nothing -/
def start : Session := ⟨1, 0, [], [], []⟩

instance : Inhabited Session := ⟨start⟩

/-- the snapshot of a program; a state that is not known gets the next number -/
def snapshotOf (s : Session) (p : Program) : Session × Nat :=
  let fingerprint := p.fingerprint
  match s.snapshots.get? fingerprint with
  | some id => (s, id)
  | none =>
    ({ s with next := s.next + 1, snapshots := s.snapshots.insert fingerprint s.next }, s.next)

/-- the index for a snapshot, built from `p` if there is none; none if names are not resolved -/
def indexAt (s : Session) (snapshot : Nat) (p : Program) : Session × Option (Built Index) :=
  if p.semantic then
    match s.indexes.lookup snapshot with
    | some index => (s, some index)
    | none =>
      let index : Built Index := ⟨s.built, Index.ofProgram p⟩
      ({ s with built := s.built + 1, indexes := s.indexes ++ [(snapshot, index)] }, some index)
  else (s, none)

/-- the registry for a snapshot, built from `p` if there is none -/
def registryAt (s : Session) (snapshot : Nat) (p : Program) : Session × Built Registry :=
  match s.registries.lookup snapshot with
  | some registry => (s, registry)
  | none =>
    let (s, index) := s.indexAt snapshot p
    let registry : Built Registry := ⟨s.built, Registry.ofProgram p (index.map (·.value))⟩
    ({ s with built := s.built + 1, registries := s.registries ++ [(snapshot, registry)] },
      registry)

/-- the index of a program; a program whose names are not resolved has none and is not noted -/
def indexOf (s : Session) (p : Program) : Session × Option (Built Index) :=
  if p.semantic then
    let (s, snapshot) := s.snapshotOf p
    s.indexAt snapshot p
  else (s, none)

/-- the registry of a program -/
def registryOf (s : Session) (p : Program) : Session × Built Registry :=
  let (s, snapshot) := s.snapshotOf p
  s.registryAt snapshot p

/-- drops a snapshot and all that was built for it -/
def invalidate (s : Session) (snapshot : Nat) : Session :=
  { s with
    snapshots := s.snapshots.filter (·.2 != snapshot)
    registries := s.registries.filter (·.1 != snapshot)
    indexes := s.indexes.filter (·.1 != snapshot) }

/-- the snapshots that have a registry, in order -/
def cached (s : Session) : List Nat := (s.registries.map Prod.fst).mergeSort (· ≤ ·)

/-- The report on a program, with the registry that it is based on. There is one for every program:
no unit is too deep to be analysed. -/
def analyzeBuilt (s : Session) (p : Program) (config : Config) :
    Session × Built Registry × ProgramReport :=
  let (s, snapshot) := s.snapshotOf p
  let (s, registry) := s.registryAt snapshot p
  let (s, index) := s.indexAt snapshot p
  let findings := programFindings p registry.value (index.map (·.value)) config
  (s, registry, ⟨snapshot, registry.value, findings, p.analyzable.length⟩)

/-- the report on a program -/
def analyze (s : Session) (p : Program) (config : Config) : Session × ProgramReport :=
  let (s, _, report) := s.analyzeBuilt p config
  (s, report)

end Session

/-- the report of a new session -/
def analyzeProgram (p : Program) (config : Config) : ProgramReport :=
  (Session.start.analyze p config).2

end Archetype
