import PodRedirect.Port
import PodRedirect.Setting
import PodRedirect.Shell
import PodRedirect.Text.Utf8
import PodRedirect.Yaml.Failure

/-!
# Failures

What a run fails with. An expected failure names what is wrong with the input or with the host and
ends the run with a message; a mishap is a value of a kind that no rule of the program covers.

## Main definitions

* `Rejection`: why settings or a policy are not usable
* `ProcessFailure`: a process that did not start or did not succeed
* `Mishap`: a value that no rule covers
* `Failure`: all of these, with `Failure.message`
-/

namespace PodRedirect

/-- An error of the file system: its number and its text. -/
structure FileError where
  number : Nat
  text : String
  deriving DecidableEq, Repr

/-- An error of the file system about the file at a path. -/
def FileError.message (e : FileError) (path : String) : String :=
  "[Errno " ++ toString e.number ++ "] " ++ e.text ++ ": " ++ Text.quoted path

/-- Why settings or a policy are not usable: `stated` is for a reason given in words from
elsewhere. A value that is not usable is shown by its text, and a file that is not usable with the
detail of what is wrong in it. -/
inductive Rejection where
  | noFlag (key : Setting) (text : String)
  | noInteger (key : Setting) (text : String)
  | unreadable (path : String) (error : FileError)
  | unparsable (path detail : String)
  | noMapping (path : String) (kind : String)
  | proxyPort (key : Setting)
  | unpairedPaths
  | mode (text : String)
  | explicitMode
  | redirectPort (text : String)
  | network (text : String)
  | logLevel (text : String)
  | logFormat (text : String)
  | unwritable (path : String) (error : FileError)
  | stated (reason : String)
  deriving DecidableEq, Repr

/-- A rejection in words. -/
def Rejection.message : Rejection → String
  | noFlag key text => key.name ++ ": expected a boolean, got \"" ++ text ++ "\""
  | noInteger key text => key.name ++ ": expected an integer, got \"" ++ text ++ "\""
  | unreadable path e => "failed to read policy file " ++ path ++ ": " ++ e.message path
  | unparsable path detail => "failed to parse policy file " ++ path ++ ": " ++ detail
  | noMapping path kind => "policy file " ++ path ++ " must contain a mapping, not " ++ kind
  | proxyPort key => "--" ++ key.name ++ " must be a valid TCP port number"
  | unpairedPaths => "--firewall-bin-path and --firewall-save-bin-path must be given together"
  | mode text =>
    "--iptables-mode valid values are only \"legacy\", \"nft\", \"plain\" and \"auto\", got \"" ++
      text ++ "\""
  | explicitMode => "explicit mode requires binary paths"
  | redirectPort text => "\"" ++ text ++ "\" is not a valid port to redirect"
  | network text => text ++ " is not a valid CIDR address"
  | logLevel text => "not a valid log level: \"" ++ text ++ "\""
  | logFormat text =>
    "--log-format valid values are only \"plain\" and \"json\", got \"" ++ text ++ "\""
  | unwritable path e => "failed to write script " ++ path ++ ": " ++ e.message path
  | stated reason => reason

/-- A process that did not start, for the given reason, or ended with a status that is not zero. -/
structure ProcessFailure where
  argv : List String
  status : Option Int
  output : String
  reason : String
  deriving DecidableEq, Repr

/-- A failed process in words: the command, what became of it, and what it wrote. -/
def ProcessFailure.message (f : ProcessFailure) : String :=
  let status := f.status.elim "None" toString
  let detail := if f.reason.isEmpty then "exit status " ++ status else f.reason
  let output := Text.strip f.output
  "'" ++ Shell.join f.argv ++ "' failed: " ++ detail ++
    (if output.isEmpty then "" else ": " ++ output)

/-- A value of a kind that no rule of the program covers. -/
inductive Mishap where
  | wrongKind
  | noNumber
  | infinite
  | numeral (f : Numeral.Fault)
  | undecodable (f : Utf8.Fault)
  | document (f : Yaml.Fault)
  | mode (quoted : String)
  | commandKind (quoted : String)
  deriving DecidableEq, Repr

/-- A mishap in words. -/
def Mishap.message : Mishap → String
  | wrongKind => "a value of this kind cannot be used here"
  | noNumber => "cannot convert float NaN to integer"
  | infinite => "cannot convert float infinity to integer"
  | numeral f => f.message
  | undecodable f => f.message
  | document f => f.message
  | mode quoted => quoted ++ " is not a valid BackendMode"
  | commandKind quoted => quoted ++ " is not a valid CommandKind"

/-- What a run fails with: `stated` is for a failure given in words from elsewhere. -/
inductive Failure where
  | port (r : Port.Refusal)
  | rejected (r : Rejection)
  | noBinary (candidates : List String)
  | process (f : ProcessFailure)
  | stated (reason : String)
  | mishap (m : Mishap)
  deriving Repr

/-- A failure in words. -/
def Failure.message : Failure → String
  | port r => r.message
  | rejected r => r.message
  | noBinary candidates =>
    "failed to find iptables command; tried: " ++ ", ".intercalate candidates
  | process f => f.message
  | stated reason => reason
  | mishap m => m.message

/-- The failure is expected: all but mishaps are. -/
def Failure.isExpected : Failure → Bool
  | mishap _ => false
  | _ => true

/-- What reading or writing a number failed with. -/
def Failure.ofNumeral (f : Numeral.Fault) : Failure := .mishap (.numeral f)

/-- What reading a port failed with. -/
def Failure.ofPort : Port.Fault → Failure
  | .refused r => .port r
  | .numeral f => .ofNumeral f

/-- What taking a value for an integer failed with. -/
def Failure.ofInt : Value.IntFault → Failure
  | .wrongKind => .mishap .wrongKind
  | .notANumber => .mishap .noNumber
  | .infinite => .mishap .infinite
  | .numeral f => .ofNumeral f

/-- The text of a value, or the failure to write it. -/
def Value.said (v : Value) : Except Failure String := v.display.mapError Failure.ofNumeral

end PodRedirect
