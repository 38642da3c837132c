import AutomationConfig.CommandLine.LogLevel
import AutomationConfig.Loading

/-! # Arguments

The arguments are read from left to right. An option takes its value from behind an equals sign or
from the next argument; a value of the second kind is looked at only when the next option or flag
has been recognised, so an unknown argument is reported first. -/

namespace AutomationConfig

/-- What the program is asked to do. -/
structure Arguments where
  /-- The paths to load, in order. -/
  paths : List Path := [defaultConfigPath]
  logLevel : Option LogLevel := none
  /-- Whether to print the configuration. -/
  inspect : Bool := false
  /-- Whether advice is a failure. -/
  strict : Bool := false
deriving DecidableEq, Repr, Inhabited

/-- Why the program does not start its work. -/
inductive Refusal where
  /-- An argument is not known. -/
  | unknownArgument
  /-- An option has no value, or one that it does not take. -/
  | invalidValue
  /-- A flag has a value. -/
  | tooManyValues
  /-- An argument is given twice. -/
  | argumentConflict
  /-- Help is asked for; the flag says whether in full. -/
  | displayHelp (full : Bool)
  /-- The version is asked for. -/
  | displayVersion
deriving DecidableEq, Repr

/-- The name of a refusal. -/
def Refusal.name : Refusal → String
  | unknownArgument => "UnknownArgument"
  | invalidValue => "InvalidValue"
  | tooManyValues => "TooManyValues"
  | argumentConflict => "ArgumentConflict"
  | displayHelp _ => "DisplayHelp"
  | displayVersion => "DisplayVersion"

namespace Arguments

/-- An option, which takes a value. -/
inductive ValueOption where
  | config
  | logLevel
deriving DecidableEq, Repr

/-- A flag, which takes none. -/
inductive Switch where
  | inspect
  | strict
  | help
  | version
deriving DecidableEq, Repr

/-- The option of a name. -/
def option? (name : String) : Option ValueOption :=
  if name = "config" then some .config
  else if name = "log-level" then some .logLevel
  else none

/-- The flag of a name. -/
def switch? (name : String) : Option Switch :=
  if name = "inspect" then some .inspect
  else if name = "strict" then some .strict
  else if name = "help" then some .help
  else if name = "version" then some .version
  else none

/-- How far the arguments have been read. -/
structure Progress where
  /-- The paths so far, backwards. -/
  paths : List Path := []
  logLevel : Option LogLevel := none
  inspect : Bool := false
  strict : Bool := false
  /-- An option whose value has not been looked at, and that value if it has come. -/
  pending : Option (ValueOption × Option String) := none
  /-- Whether all that follows stands for itself. -/
  escaped : Bool := false

namespace Progress

/-- Takes in the value of an option. -/
def take (p : Progress) (option : ValueOption) (value : String) : Except Refusal Progress :=
  match option with
  | .config =>
    if value.isEmpty then .error .invalidValue else .ok { p with paths := ⟨value⟩ :: p.paths }
  | .logLevel =>
    if p.logLevel.isSome then .error .argumentConflict
    else
      match LogLevel.ofArgument? value with
      | some level => .ok { p with logLevel := some level }
      | none => .error .invalidValue

/-- Takes in the value that has not been looked at. -/
def settle (p : Progress) : Except Refusal Progress :=
  match p.pending with
  | none => .ok p
  | some (_, none) => .error .invalidValue
  | some (option, some value) => { p with pending := none }.take option value

/-- Takes in a flag. -/
def turnOn (p : Progress) (fullHelp : Bool) : Switch → Except Refusal Progress
  | .inspect => if p.inspect then .error .argumentConflict else .ok { p with inspect := true }
  | .strict => if p.strict then .error .argumentConflict else .ok { p with strict := true }
  | .help => .error (.displayHelp fullHelp)
  | .version => .error .displayVersion

/-- Takes in an argument that starts with two dashes, without them. -/
def readLong (p : Progress) (text : List Char) : Except Refusal Progress :=
  let name := String.ofList (text.takeWhile (· != '='))
  let value? := match text.dropWhile (· != '=') with
    | [] => none
    | _ :: rest => some (String.ofList rest)
  match option? name, switch? name, value? with
  | some option, _, some value => do (← p.settle).take option value
  | some option, _, none => do return { (← p.settle) with pending := some (option, none) }
  | none, some _, some _ => .error .tooManyValues
  | none, some flag, none => do (← p.settle).turnOn true flag
  | none, none, _ => .error .unknownArgument

/-- Takes in an argument that starts with one dash, without it. -/
def readShort (p : Progress) : List Char → Except Refusal Progress
  | 'h' :: _ => do (← p.settle).turnOn false .help
  | 'V' :: _ => do (← p.settle).turnOn false .version
  | _ => .error .unknownArgument

/-- Takes in an argument that stands for itself: the value of the option before it. -/
def readPlain (p : Progress) (text : String) : Except Refusal Progress :=
  match p.pending with
  | some (option, none) => .ok { p with pending := some (option, some text) }
  | _ => .error .unknownArgument

/-- Takes in an argument. -/
def step (p : Progress) (argument : String) : Except Refusal Progress :=
  if p.escaped then .error .unknownArgument
  else
    match argument.toList with
    | ['-', '-'] => .ok { p with escaped := true }
    | '-' :: '-' :: rest => p.readLong rest
    | '-' :: c :: rest => p.readShort (c :: rest)
    | _ => p.readPlain argument

/-- What has been asked for. -/
def finish (p : Progress) : Arguments where
  paths := if p.paths.isEmpty then [defaultConfigPath] else p.paths.reverse
  logLevel := p.logLevel
  inspect := p.inspect
  strict := p.strict

end Progress

/-- What a list of arguments asks for. -/
def ofList (arguments : List String) : Except Refusal Arguments := do
  let p ← arguments.foldlM Progress.step {}
  return (← p.settle).finish

end Arguments

end AutomationConfig
