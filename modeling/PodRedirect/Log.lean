import PodRedirect.Instant
import PodRedirect.Json.Text
import PodRedirect.Text.Lowercase

/-!
# The log

What a run says about itself. An entry has a level and the part of the program it comes from. Which
entries are written, and in which of two forms, is configured.

## Main definitions

* `Log.Level`, `Log.Source`, `Log.Entry`: what is logged
* `Log.plainLine`, `Log.jsonLine`: the two forms of an entry
* `Logged`: a computation that logs, and may fail
-/

namespace PodRedirect

namespace Log

/-- How much an entry matters. -/
inductive Level where
  | debug
  | info
  | warning
  | error
  | critical
  deriving DecidableEq, Repr

/-- The levels as numbers, ten apart. -/
def Level.number : Level → Nat
  | .debug => 10
  | .info => 20
  | .warning => 30
  | .error => 40
  | .critical => 50

/-- The name of a level. -/
def Level.name : Level → String
  | .debug => "DEBUG"
  | .info => "INFO"
  | .warning => "WARNING"
  | .error => "ERROR"
  | .critical => "CRITICAL"

/-- The parts of the program that log. -/
inductive Source where
  | policy
  | policyFile
  | portGroups
  | compiler
  | rules
  | backend
  | executor
  | run
  | commandLine
  deriving DecidableEq, Repr

/-- The name under which a part logs. -/
def Source.name : Source → String
  | .policy => "proxyinit.core._policy"
  | .policyFile => "proxyinit.core._yaml_reader"
  | .portGroups => "proxyinit.compiler._multiport"
  | .compiler => "proxyinit.compiler._base"
  | .rules => "proxyinit.compiler._nat_compiler"
  | .backend => "proxyinit.platforms.iptables._backend"
  | .executor => "proxyinit.platforms.iptables._executor"
  | .run => "proxyinit.driver._redirect_driver"
  | .commandLine => "proxyinit.cli.proxy_init"

/-- Something that was logged. There is no message where a value that it shows cannot be written. -/
structure Entry where
  source : Source
  level : Level
  message : Option String
  deriving DecidableEq, Repr

/-- An entry as a line of text: the time in universal time, the level and the message. There is none
for a time that cannot be written. -/
def plainLine (time : Instant) (level : Level) (message : String) : Option String :=
  time.logText.map fun t => t ++ " " ++ level.name ++ " " ++ message

/-- An entry as an object: time, level, source and message, and perhaps the text of an error. -/
def jsonLine (time : Instant) (level source message : String) (error : Option String) :
    Except ClockFault String := do
  return Json.object ([("time", ← time.isoText), ("level", Text.lowercase level),
    ("logger", source), ("msg", message)] ++ (error.map fun e => ("error", e)).toList)

end Log

/-- A computation that logs, and may fail with an `ε`. What was logged before a failure stays. -/
abbrev Logged (ε : Type) := ExceptT ε (StateM (Array Log.Entry))

/-- Adds an entry to the log. -/
def Logged.note {ε : Type} (source : Log.Source) (level : Log.Level) (message : Option String) :
    Logged ε Unit :=
  modify (·.push ⟨source, level, message⟩)

end PodRedirect
