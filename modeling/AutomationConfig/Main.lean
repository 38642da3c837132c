import AutomationConfig.CommandLine.Run
import AutomationConfig.Storage.Snapshot

/-! # The command line

The program looks at the paths that its arguments name, at what their directories hold and at the
processors it may run on, and runs on what it has found there. -/

namespace AutomationConfig

/-- What an attempt at reading gives. -/
def attempt {α : Type} (action : IO α) : IO (Except ReadFault α) := do
  match ← action.toBaseIO with
  | .ok result => return .ok result
  | .error (.permissionDenied ..) => return .error .denied
  | .error _ => return .error .missing

/-- What a path holds, apart from what its entries hold. -/
def look (path : Path) : IO (Option Finding) := do
  let place := (← IO.currentDir) / path.text
  match ← place.metadata.toBaseIO with
  | .error _ => return none
  | .ok metadata =>
    match metadata.type with
    | .file => return some (.file (← attempt (IO.FS.readBinFile place)))
    | .dir => do
      let listed ← attempt place.readDir
      return some (.directory (listed.map fun found =>
        found.toList.map fun entry => path.join entry.fileName))
    | _ => return none

/-- The findings at paths. -/
def lookAt (paths : List Path) : IO (List (Path × Finding)) := do
  let found ← paths.mapM fun path => return (← look path).map fun finding => (path, finding)
  return found.filterMap id

/-- The entries of a directory that has been listed. -/
def Finding.listed : Finding → List Path
  | directory (.ok entries) => entries
  | _ => []

/-- What a run on the arguments needs of the file system. -/
def takeSnapshot (a : Arguments) : IO Snapshot := do
  let named ← lookAt (a.paths.filter fun path => !path.text.isEmpty)
  let held ← lookAt (named.flatMap fun found => found.2.listed)
  return ⟨named ++ held⟩

/-- How many processors a list of their numbers, such as `0-3,8`, stands for. -/
def countProcessors (list : String) : Nat :=
  (list.splitOn ",").foldl (fun count range =>
    match (range.trimAscii.toString.splitOn "-").map String.toNat? with
    | [some first, some last] => count + (last + 1 - first)
    | [some _] => count + 1
    | _ => count) 0

/-- The number of processors the program may run on, and one where it cannot be told. -/
def availableProcessors : IO UInt64 := do
  match ← (IO.FS.lines "/proc/self/status").toBaseIO with
  | .error _ => return 1
  | .ok lines =>
    let counts := lines.toList.filterMap fun line =>
      match line.splitOn ":" with
      | ["Cpus_allowed_list", list] => some (countProcessors list)
      | _ => none
    return .ofNat (counts.headD 1)

end AutomationConfig

open AutomationConfig in
/-- Runs the program on its arguments. -/
def main (arguments : List String) : IO UInt32 := do
  let snapshot ← match Arguments.ofList arguments with
    | .ok a => takeSnapshot a
    | .error _ => pure {}
  let environment ← IO.getEnv "NIA_CONFIG_LOG"
  let result := run arguments environment snapshot.toStorage (← availableProcessors)
  result.log.forM IO.eprintln
  result.error.forM IO.eprintln
  IO.print result.output
  return result.exitCode.toUInt32
