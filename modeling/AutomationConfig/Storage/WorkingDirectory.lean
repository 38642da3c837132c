import AutomationConfig.Storage
import AutomationConfig.Table

/-! # Working directories

A working directory holds files of bytes and directories, which may be empty. A path is walked piece
by piece from the working directory: every piece but the last stands for a directory, and so does
the last one before a slash at the end. A path that is too long leads nowhere, and whatever lies
outside holds nothing. -/

namespace AutomationConfig

/-- Files and directories by the names on the way to them. -/
structure WorkingDirectory where
  files : List (List String × ByteArray) := []
  directories : List (List String) := []

namespace WorkingDirectory

/-- Where a path leads. -/
inductive Location where
  | inside (names : List String)
  | outside
deriving DecidableEq, Repr

/-- Whether there is a file under these names. -/
def hasFile (d : WorkingDirectory) (names : List String) : Bool :=
  d.files.any fun f => f.1 = names

/-- Whether there is a directory under these names. -/
def hasDirectory (d : WorkingDirectory) (names : List String) : Bool :=
  names.isEmpty || d.directories.any (fun dir => names.isPrefixOf dir) ||
    d.files.any fun f => names.isPrefixOf f.1 && names.length < f.1.length

/-- Whether a location is a directory. -/
def isDirectoryAt (d : WorkingDirectory) : Location → Bool
  | .inside names => d.hasDirectory names
  | .outside => true

/-- The directory above a directory. -/
def above : Location → Location
  | .inside [] => .outside
  | .inside names => .inside names.dropLast
  | .outside => .outside

/-- Goes from a directory along a piece of a path. -/
def step? (d : WorkingDirectory) (here : Location) (piece : List Char) : Option Location :=
  if !d.isDirectoryAt here then none
  else if piece.isEmpty || piece = ['.'] then some here
  else if piece = ['.', '.'] then some (above here)
  else
    match here with
    | .outside => none
    | .inside names =>
      let names := names ++ [String.ofList piece]
      if d.hasFile names || d.hasDirectory names then some (.inside names) else none

/-- How many bytes a path may have. -/
def maxPathSize : Nat := 4095

/-- Where a path leads, if it leads anywhere. -/
def locate? (d : WorkingDirectory) (path : Path) : Option Location :=
  if path.text.isEmpty || maxPathSize < path.text.utf8ByteSize then none
  else
    (Path.pieces path.text.toList).foldlM d.step?
      (if path.isAbsolute then .outside else .inside [])

/-- Whether there is a file at the path. -/
def isFile (d : WorkingDirectory) (path : Path) : Bool :=
  match d.locate? path with
  | some (.inside names) => d.hasFile names
  | _ => false

/-- Whether there is a directory at the path. -/
def isDirectory (d : WorkingDirectory) (path : Path) : Bool :=
  (d.locate? path).any d.isDirectoryAt

/-- The names of what a directory holds, in order. -/
def childNames (d : WorkingDirectory) (names : List String) : List String :=
  let all := (d.files.map (·.1) ++ d.directories).filterMap fun other =>
    if names.isPrefixOf other then other[names.length]? else none
  (Table.ofList (all.map fun name => (name, ()))).keys

/-- The paths of what a directory holds. -/
def entries (d : WorkingDirectory) (path : Path) : Except StorageError (List Path) :=
  match d.locate? path with
  | some (.inside names) =>
    if d.hasDirectory names then .ok ((d.childNames names).map path.join)
    else .error (.notDirectory path)
  | some .outside => .ok []
  | none => .error (.notDirectory path)

/-- The bytes of a file. -/
def read (d : WorkingDirectory) (path : Path) : Except ReadFault ByteArray :=
  match d.locate? path with
  | some (.inside names) =>
    match d.files.find? fun f => f.1 = names with
    | some file => .ok file.2
    | none => .error .isDirectory
  | some .outside => .error .isDirectory
  | none => .error .missing

/-- The content of a file as text. -/
def readText (d : WorkingDirectory) (path : Path) : Except StorageError String :=
  (d.read path >>= decodeText).mapError (.unreadable path)

/-- The directory as a storage. -/
def toStorage (d : WorkingDirectory) : Storage where
  isFile := d.isFile
  isDirectory := d.isDirectory
  entries := d.entries
  readText := d.readText

end WorkingDirectory

end AutomationConfig
