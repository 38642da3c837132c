import AutomationConfig.Storage

/-! # Snapshots

A snapshot holds what was found at each path that was looked at, as the path was written. Nothing
is at any other path. -/

namespace AutomationConfig

/-- What is found at a path. -/
inductive Finding where
  | file (content : Except ReadFault ByteArray)
  | directory (entries : Except ReadFault (List Path))

/-- Findings by the paths that were looked at. -/
structure Snapshot where
  findings : List (Path × Finding) := []

namespace Snapshot

/-- What was found at the path. -/
def finding? (s : Snapshot) (path : Path) : Option Finding := s.findings.lookup path

/-- Whether there is a file at the path. -/
def isFile (s : Snapshot) (path : Path) : Bool :=
  match s.finding? path with
  | some (.file _) => true
  | _ => false

/-- Whether there is a directory at the path. -/
def isDirectory (s : Snapshot) (path : Path) : Bool :=
  match s.finding? path with
  | some (.directory _) => true
  | _ => false

/-- The paths of what a directory holds. -/
def entries (s : Snapshot) (path : Path) : Except StorageError (List Path) :=
  match s.finding? path with
  | some (.directory entries) => entries.mapError (.unlistable path)
  | _ => .error (.notDirectory path)

/-- The content of a file as text. -/
def readText (s : Snapshot) (path : Path) : Except StorageError String :=
  Except.mapError (.unreadable path) <|
    match s.finding? path with
    | some (.file content) => content >>= decodeText
    | some (.directory _) => .error .isDirectory
    | none => .error .missing

/-- The snapshot as a storage. -/
def toStorage (s : Snapshot) : Storage where
  isFile := s.isFile
  isDirectory := s.isDirectory
  entries := s.entries
  readText := s.readText

end Snapshot

end AutomationConfig
