import AutomationConfig.CommandLine.Arguments
import AutomationConfig.CommandLine.Usage

/-! # Running the program

The program loads the configuration that its arguments name. Advice is written to the log; where
advice is a failure the program fails if there is any. The configuration is printed if that is asked
for, with its credentials left out. -/

namespace AutomationConfig

/-! ### The log -/

/-- Something that is written to the log. -/
inductive Event where
  /-- A fragment is about to be loaded. -/
  | loadingFragment (path : Path)
  /-- There is advice. -/
  | advice (d : Diagnostic)
  /-- The configuration has been validated. -/
  | loaded (tasks warnings : Nat)
  /-- The configuration that was asked for is in order. -/
  | valid (paths : List Path) (tasks : Nat)

namespace Event

/-- How important an event is. -/
def level : Event → LogLevel
  | loadingFragment _ => .debug
  | advice _ => .warn
  | loaded _ _ | valid _ _ => .info

/-- The text of an event. -/
def text : Event → String
  | loadingFragment path => "loading config fragment file=" ++ path.text
  | advice d => d.message ++ " kind=" ++ d.kind.name
  | loaded tasks warnings =>
    "configuration loaded tasks=" ++ toString tasks ++ " warnings=" ++ toString warnings
  | valid paths tasks =>
    "configuration is valid paths=[" ++ ", ".intercalate (paths.map Path.quoted) ++ "] tasks=" ++
      toString tasks

/-- The line of an event in the log. -/
def line (e : Event) : String := e.level.name ++ " " ++ e.text

end Event

namespace Storage

/-- The fragments that are loaded, up to the first that fails. -/
def attemptedFragments (s : Storage) : List Path → List Path
  | [] => []
  | path :: rest =>
    path :: match s.loadFragment path with
      | .ok _ => s.attemptedFragments rest
      | .error _ => []

/-- The fragments of paths that are loaded, up to the first failure. -/
def attemptedPaths (s : Storage) : List Path → List Path
  | [] => []
  | path :: rest =>
    match s.fragmentPaths path with
    | .error _ => []
    | .ok fragments =>
      s.attemptedFragments fragments ++
        match s.mergeFragments {} fragments with
        | .ok _ => s.attemptedPaths rest
        | .error _ => []

/-- What loading paths writes to the log. -/
def loadingEvents (s : Storage) (paths : List Path) (processors : UInt64) : List Event :=
  (s.attemptedPaths paths).map .loadingFragment ++
    match s.buildConfig paths with
    | .error _ => []
    | .ok config =>
      let advice := config.warnings.entries.map Event.advice
      match s.loadAndValidate paths processors with
      | .ok (config, warnings) => advice ++ [.loaded config.tasks.length warnings.size]
      | .error _ => advice

end Storage

/-! ### Runs -/

/-- Why a run fails. -/
inductive RunFailure where
  /-- The configuration cannot be loaded. -/
  | loading (failure : Failure)
  /-- There is advice, which is a failure. -/
  | strict (messages : List String)

/-- The text of why a run fails. -/
def RunFailure.report : RunFailure → String
  | loading failure => failure.report
  | strict messages =>
    toString messages.length ++ " warning(s) with --strict:\n  " ++ "\n  ".intercalate messages

/-- What the program leaves behind. -/
structure RunResult where
  exitCode : UInt8
  /-- What is printed. -/
  output : String := ""
  /-- What is reported as an error. -/
  error : Option String := none
  /-- The lines of the log. -/
  log : List String := []

namespace Arguments

/-- The configuration that is asked for. Advice is a failure if the arguments say so. -/
def load (a : Arguments) (s : Storage) (processors : UInt64) : Except RunFailure Config := do
  let (config, warnings) ← (s.loadAndValidate a.paths processors).mapError .loading
  if a.strict && !warnings.isEmpty then .error (.strict warnings.messages)
  else .ok config

/-- What is written to the log. -/
def events (a : Arguments) (s : Storage) (processors : UInt64) : List Event :=
  s.loadingEvents a.paths processors ++
    match a.load s processors with
    | .ok config => if a.inspect then [] else [.valid a.paths config.tasks.length]
    | .error _ => []

/-- The level of the log: that of the arguments, that of the environment or the middle one. -/
def level (a : Arguments) (environment : Option String) : LogLevel :=
  a.logLevel.getD ((environment.bind LogLevel.ofText?).getD .info)

/-- The lines of the log that are shown. -/
def log (a : Arguments) (environment : Option String) (s : Storage) (processors : UInt64) :
    List String :=
  ((a.events s processors).filter fun e =>
    e.level.fineness ≤ (a.level environment).fineness).map Event.line

/-- What the program does with its arguments. -/
def run (a : Arguments) (environment : Option String) (s : Storage) (processors : UInt64) :
    RunResult :=
  match a.load s processors with
  | .ok config => {
      exitCode := 0
      output := if a.inspect then (outline config).indented ++ "\n" else ""
      log := a.log environment s processors }
  | .error failure => {
      exitCode := 1
      error := some ("nia-config error: " ++ failure.report)
      log := a.log environment s processors }

end Arguments

/-- What the program does where its arguments are refused. -/
def Refusal.run : Refusal → RunResult
  | .displayHelp true => { exitCode := 0, output := Usage.full }
  | .displayHelp false => { exitCode := 0, output := Usage.summary }
  | .displayVersion => { exitCode := 0, output := Usage.version }
  | refusal => { exitCode := 2, error := some ("error: " ++ refusal.name) }

/-- What the program does, given its arguments, the level in its environment, its storage and the
number of processors. -/
def run (arguments : List String) (environment : Option String) (s : Storage)
    (processors : UInt64 := 1) : RunResult :=
  match Arguments.ofList arguments with
  | .ok a => a.run environment s processors
  | .error refusal => refusal.run

end AutomationConfig
