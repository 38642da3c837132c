import AutomationConfig.Config.Validation
import AutomationConfig.Document.Json
import AutomationConfig.Document.Toml
import AutomationConfig.Storage

/-! # Loading configurations

A configuration is loaded from paths in order. A path of a file is a fragment; a path of a directory
stands for the fragments in it, in the order of their names. Fragments are merged, defaults are
filled in and the result is validated. Loading stops at the first failure. -/

namespace AutomationConfig

/-! ### Failures -/

/-- What is wrong with a fragment. -/
inductive FragmentFault where
  | tomlText
  | jsonText
  | schema (cause : Mismatch)

/-- The text of what is wrong with a fragment. -/
def FragmentFault.message : FragmentFault → String
  | tomlText => "TOML parsing error"
  | jsonText => "JSON parsing error"
  | schema cause => cause.message

/-- Why a configuration cannot be loaded. -/
inductive Failure where
  /-- There is nothing at a path. -/
  | missing (path : Path)
  /-- A fragment cannot be understood. -/
  | fragment (path : Path) (fault : FragmentFault)
  /-- The configuration breaks a rule. -/
  | invalid (violation : Violation)
  /-- A file cannot be read. -/
  | storage (error : StorageError)

namespace Failure

/-- The text of a failure. -/
def message : Failure → String
  | missing path => path.text ++ ": no such file or directory"
  | fragment path fault => path.text ++ ": " ++ fault.message
  | invalid violation => violation.message
  | storage error => error.message

/-- The text of a failure with what it is about and what lies behind it. -/
def report : Failure → String
  | missing path => "Decode error: " ++ (missing path).message
  | fragment path fault => "Decode error: " ++ (fragment path fault).message
  | invalid violation => "Validation error: " ++ violation.message
  | storage error =>
    error.message ++ (match error.cause? with
      | some cause => "\n\nCaused by:\n    " ++ cause
      | none => "")

end Failure

/-! ### Fragments -/

/-- Whether a fragment is written in JSON. -/
def Path.isJson (p : Path) : Bool := p.extension.any fun e => Text.equalsIgnoringAsciiCase e "json"

/-- Whether a file in a directory is a fragment, by its name. -/
def isFragmentName (name : String) : Bool :=
  ".toml".toList.isSuffixOf name.toList || ".json".toList.isSuffixOf name.toList

/-- The document that the text of a fragment writes. -/
def documentOf (path : Path) (text : String) : Except FragmentFault Document :=
  if path.isJson then
    match Document.ofJson? text with
    | some d => .ok d
    | none => .error .jsonText
  else
    match Document.ofToml? text with
    | some d => .ok d
    | none => .error .tomlText

namespace Storage

/-- The fragment at a path. -/
def loadFragment (s : Storage) (path : Path) : Except Failure Config := do
  let text ← (s.readText path).mapError .storage
  let document ← (documentOf path text).mapError (.fragment path)
  (read document).mapError fun cause => .fragment path (.schema cause)

/-- Whether an entry of a directory is a fragment. -/
def isFragment (s : Storage) (path : Path) : Bool :=
  s.isFile path && path.fileName.any isFragmentName

/-- The order of fragments in a directory: that of their names, as it was among equal ones. -/
def byFileName (a b : Path) : Bool := (a.fileName.getD "") ≤ (b.fileName.getD "")

/-- The paths of the fragments that a path stands for. -/
def fragmentPaths (s : Storage) (path : Path) : Except Failure (List Path) :=
  if s.isFile path then .ok [path]
  else if s.isDirectory path then do
    let entries ← (s.entries path).mapError .storage
    return (entries.filter s.isFragment).mergeSort byFileName
  else .error (.missing path)

/-! ### Configurations -/

/-- Merges fragments into a configuration. -/
def mergeFragments (s : Storage) (config : Config) : List Path → Except Failure Config
  | [] => .ok config
  | path :: rest => do
    let fragment ← s.loadFragment path
    s.mergeFragments (config.merge fragment) rest

/-- Merges the fragments that paths stand for into a configuration. -/
def mergePaths (s : Storage) (config : Config) : List Path → Except Failure Config
  | [] => .ok config
  | path :: rest => do
    let fragments ← s.fragmentPaths path
    let config ← s.mergeFragments config fragments
    s.mergePaths config rest

/-- The configuration that paths stand for. -/
def buildConfig (s : Storage) (paths : List Path) : Except Failure Config := s.mergePaths {} paths

/-- The finished configuration that paths stand for, and the advice on it. -/
def loadAndValidate (s : Storage) (paths : List Path) (processors : UInt64 := 1) :
    Except Failure (Config × Diagnostics) := do
  let config ← s.buildConfig paths
  let checked := (config.finalize processors).validate
  checked.outcome.mapError .invalid
  return (checked.value, config.warnings)

end Storage

/-- The path that is loaded where none is given. -/
def defaultConfigPath : Path := ⟨"nia-config.toml"⟩

end AutomationConfig
