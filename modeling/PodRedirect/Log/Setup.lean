import PodRedirect.Failure
import PodRedirect.Log

/-!
# Configuring the log

The log has a level, below which nothing is written, and a format. Both are given by name, in any
mixture of capitals and small letters.

## Main definitions

* `Log.Format`, `Log.Config`: how the log is written
* `Log.configure`: the configuration that two names ask for
* `Log.Config.lines`: what is written for entries
-/

namespace PodRedirect.Log

/-- The form of the entries that are written. -/
inductive Format where
  | plain
  | json
  deriving DecidableEq, Repr

/-- The least level that is written, and the form. -/
structure Config where
  level : Level
  format : Format
  deriving DecidableEq, Repr

/-- The names of levels, with those that other loggers use. -/
def levelNames : List (String × Level) :=
  [("trace", .debug), ("debug", .debug), ("info", .info), ("warn", .warning),
    ("warning", .warning), ("error", .error), ("fatal", .critical), ("panic", .critical),
    ("critical", .critical)]

/-- The names of formats. -/
def formatNames : List (String × Format) := [("plain", .plain), ("json", .json)]

/-- The configuration that two names ask for. -/
def configure (format level : Value) : Except Failure Config := do
  let level ← level.said
  match levelNames.lookup (Text.lower level) with
  | none => throw (.rejected (.logLevel level))
  | some l =>
    let format ← format.said
    match formatNames.lookup (Text.lower format) with
    | none => throw (.rejected (.logFormat format))
    | some f => return ⟨l, f⟩

/-- The line that is written for an entry, if one is: the level is high enough and the time can be
written. -/
def Config.line (c : Config) (time : Instant) (level : Level) (source message : String) :
    Option String :=
  if level.number < c.level.number then none
  else
    match c.format with
    | .plain => plainLine time level message
    | .json => (jsonLine time level.name source message none).toOption

/-- The line that is written for an entry. There is none for one without a message. -/
def Config.entryLine (c : Config) (time : Instant) (e : Entry) : Option String :=
  e.message.bind fun message => c.line time e.level e.source.name message

/-- What is written for entries of the same time, each on a line of its own. -/
def Config.lines (c : Config) (time : Instant) (entries : List Entry) : String :=
  String.join (entries.filterMap fun e => (c.entryLine time e).map (· ++ "\n"))

end PodRedirect.Log
