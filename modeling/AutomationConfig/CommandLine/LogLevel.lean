import AutomationConfig.Text.Blank
import AutomationConfig.Text.Case

/-! # Log levels

A line of the log is shown if its level is not finer than the chosen one. -/

namespace AutomationConfig

/-- How important a line of the log is. -/
inductive LogLevel where
  | error
  | warn
  | info
  | debug
  | trace
deriving DecidableEq, Repr, Inhabited

namespace LogLevel

/-- The levels from coarse to fine. -/
def all : List LogLevel := [error, warn, info, debug, trace]

/-- How fine a level is. -/
def fineness : LogLevel → Nat
  | error => 0
  | warn => 1
  | info => 2
  | debug => 3
  | trace => 4

/-- The name of a level in the log. -/
def name : LogLevel → String
  | error => "ERROR"
  | warn => "WARN"
  | info => "INFO"
  | debug => "DEBUG"
  | trace => "TRACE"

/-- The name of a level among the arguments. -/
def argument : LogLevel → String
  | error => "error"
  | warn => "warn"
  | info => "info"
  | debug => "debug"
  | trace => "trace"

/-- The level of an argument. -/
def ofArgument? (text : String) : Option LogLevel := all.find? fun l => l.argument == text

/-- The names of levels in the environment. -/
def spellings : List (String × LogLevel) :=
  [("error", error), ("err", error), ("warn", warn), ("warning", warn), ("info", info),
    ("debug", debug), ("trace", trace)]

/-- The level that a text names, in any case and with blanks around it. -/
def ofText? (text : String) : Option LogLevel :=
  (spellings.find? fun s => Text.lowersTo (Text.trim text.toList) s.1).map (·.2)

end LogLevel

end AutomationConfig
