import AutomationConfig.Path

/-! # Storage

What loading a configuration needs of the place where its files are: telling files and directories
apart, listing a directory and reading a file. -/

namespace AutomationConfig

/-- Why a file or a directory cannot be read. -/
inductive ReadFault where
  | missing
  | denied
  | isDirectory
  | notText
deriving DecidableEq, Repr

/-- The words for a fault. -/
def ReadFault.text : ReadFault → String
  | missing => "No such file or directory (os error 2)"
  | denied => "Permission denied (os error 13)"
  | isDirectory => "Is a directory (os error 21)"
  | notText => "stream did not contain valid UTF-8"

/-- The text that bytes stand for. -/
def decodeText (bytes : ByteArray) : Except ReadFault String :=
  match String.fromUTF8? bytes with
  | some text => .ok text
  | none => .error .notText

/-- What can go wrong in a storage. -/
inductive StorageError where
  /-- A directory is read as a file. -/
  | isDirectory (path : Path)
  /-- There is no file at a path. -/
  | fileNotFound (path : Path)
  /-- There is no directory at a path. -/
  | notDirectory (path : Path)
  /-- A file cannot be read. -/
  | unreadable (path : Path) (fault : ReadFault)
  /-- A directory cannot be listed. -/
  | unlistable (path : Path) (fault : ReadFault)
deriving DecidableEq, Repr

namespace StorageError

/-- The text of an error. -/
def message : StorageError → String
  | isDirectory path => "Is a directory: " ++ path.quoted
  | fileNotFound path => "File not found: " ++ path.quoted
  | notDirectory path => "Not a directory or not found: " ++ path.quoted
  | unreadable path _ => "reading config file " ++ path.quoted
  | unlistable path _ => "reading config dir " ++ path.quoted

/-- The text of what lies behind an error. -/
def cause? : StorageError → Option String
  | unreadable _ fault | unlistable _ fault => some fault.text
  | _ => none

end StorageError

/-- A place that holds files. -/
structure Storage where
  isFile : Path → Bool
  isDirectory : Path → Bool
  /-- The paths of what a directory holds. -/
  entries : Path → Except StorageError (List Path)
  readText : Path → Except StorageError String

end AutomationConfig
