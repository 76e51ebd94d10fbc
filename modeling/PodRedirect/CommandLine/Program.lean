import PodRedirect.CommandLine.Arguments
import PodRedirect.CommandLine.Help
import PodRedirect.Log.Setup
import PodRedirect.Policy.Build
import PodRedirect.Run
import PodRedirect.Setting.File

/-!
# The program

What the program does for its arguments. Settings come from three places: those of the command line
count before those of the policy file, and these before the usual ones. Then the redirection is
installed or removed for both families of addresses, or the commands for that are written as a
script.

## Main definitions

* `Environment`: what the program finds around it
* `CommandLine.settings`: the settings that count
* `CommandLine.policies`: the policies for the two families of addresses
* `CommandLine.redirect`, `CommandLine.run`: what is done to the rules, and the run that settings
  ask for
* `CommandLine.program`: the whole program
-/

namespace PodRedirect

/-- What the program finds around it: the time, files to read, and what becomes of a file that it
writes. -/
structure Environment where
  now : Instant
  read : String → FileContent
  write : String → String → Option FileError

/-- What the program has written: to its output, and into a file with the given path. -/
structure Written where
  output : String
  file : Option (String × String)
  deriving Repr

namespace CommandLine

variable {σ : Type}

/-- The settings that count. Removing a redirection goes on after errors. -/
def settings (a : Arguments) (read : String → FileContent) : Logged Failure Settings := do
  let file ←
    if a.config.isTruthy then
      let path := FilePath.tidy (← a.config.said)
      Settings.load path (read path)
    else pure []
  let s := (Settings.defaults.update file).update a.given
  return if a.cleanup then s.set .continueOnError (.flag true) else s

/-- The settings without paths of binaries, which are for version 4 only. -/
def withoutPaths (s : Settings) : Settings :=
  (s.set .firewallBinPath (.text "")).set .firewallSaveBinPath (.text "")

/-- The policies for the two families of addresses as settings give them, the second one only if it
is asked for. -/
def planned (s : Settings) : Logged Failure (Policy × Option Policy) := do
  let v4 ← Policy.build s false
  if Policy.flag s .ipv6 then return (v4, some (← Policy.build (withoutPaths s) true))
  else return (v4, none)

/-- Settles the binaries of a policy. -/
def settled (p : Policy) (mode : Value) (explicit : Bool) : Action σ Policy := do
  let (p, selection) ← Run.resolveBackend p mode explicit
  Action.note .commandLine .debug
    (Policy.familyName p.ipv6 ++ " backend: " ++ selection.text)
  return p

/-- The policies for the two families of addresses. Unless the host is left alone, it is asked which
binaries to use. -/
def policies (s : Settings) (detect : Bool) : Action σ (Policy × Option Policy) := do
  let (v4, v6) ← Action.ofLogged (planned s)
  if !detect then return (v4, v6)
  let mode := s.getD .iptablesMode .null
  let v4 ← settled v4 mode (Policy.flag s .firewallBinPath)
  match v6 with
  | none => return (v4, none)
  | some v6 => return (v4, some (← settled v6 mode false))

/-- The section of a script for a policy. -/
def scriptSection (p : Policy) (traceId : String) (cleanup : Bool) :
    Action σ Script.Section := do
  if cleanup then return Script.ofPolicy p Compiler.teardown []
  let result ← Run.plan p traceId ""
  return Script.ofPolicy p result.commands result.warnings

/-- Writes the commands for policies as a script, to the output if the path is a dash. -/
def writeScript (env : Environment) (path : String) (ps : List Policy) (traceId : String)
    (cleanup : Bool) : Action σ Written := do
  let sections ← ps.mapM fun p => scriptSection p traceId cleanup
  let script := Script.render sections traceId (ps.any Policy.simulate)
  if path = "-" then return ⟨script, none⟩
  let target := FilePath.tidy path
  match env.write target script with
  | some e => throw (.rejected (.unwritable target e))
  | none =>
    Action.note .commandLine .info ("wrote " ++ target)
    return ⟨"", some (target, script)⟩

/-- Sets the time that connections are remembered for, if that is asked for. -/
def setCloseWait (s : Settings) (planOnly : Bool) : Action σ Unit := do
  match s.getD .timeoutCloseWaitSecs .null with
  | .int n =>
    if n ≠ 0 then let _ ← Run.setCloseWait n (Policy.flag s .simulate || planOnly)
  | _ => return

/-- The run that settings ask for, but for the time that connections are remembered for: everything
that it does to the rules. -/
def redirect (env : Environment) (a : Arguments) (s : Settings) : Action σ Written := do
  let planOnly := a.script.isTruthy
  let traceId := toString env.now.wholeSeconds
  let (v4, v6) ← policies s !planOnly
  if planOnly then
    writeScript env (← a.script.said) (v4 :: v6.toList) traceId a.cleanup
  else
    let purpose : Run.Purpose := if a.cleanup then .cleanup else .configure
    let leg := fun p : Policy => Run.perform purpose p traceId
    let reports ← Run.dualStack purpose (leg v4) (v6.map leg)
    for r in reports do
      for f in r.errors do
        Action.note .commandLine .warning (r.family ++ ": " ++ f.message)
    return ⟨"", none⟩

/-- The run that settings ask for. -/
def run (env : Environment) (a : Arguments) (s : Settings) : Action σ Written := do
  setCloseWait s a.script.isTruthy
  redirect env a s

/-- What the program ends with: a status, or a failure that it does not expect; and what it has
written. -/
structure Result where
  ending : Except Failure Nat
  output : String
  errors : String
  files : List (String × String)

/-- The line about a failure that ends the program. -/
def failureLine (f : Failure) : String := "Error: " ++ f.message ++ "\n"

/-- The program ended by a failure, after it has written `errors`. -/
def failed (errors : String) (f : Failure) : Result :=
  if f.isExpected then ⟨.ok 1, "", errors ++ failureLine f, []⟩ else ⟨.error f, "", errors, []⟩

/-- The entries for the log in a journal. -/
def entries (journal : List Event) : List Log.Entry :=
  journal.filterMap fun
    | .logged e => some e
    | _ => none

/-- The program ended before anything is run. -/
def halted : Halt → Result
  | .help => ⟨.ok 0, help, "", []⟩
  | .version => ⟨.ok 0, versionText, "", []⟩
  | .usage e => ⟨.ok 2, "", usage ++ programName ++ ": error: " ++ e.message ++ "\n", []⟩

/-- The whole program, on a host with the given session. Nothing of the log is written before it is
configured. -/
def program (env : Environment) (argv : List String) (host : Host σ) (s : Session σ) :
    Result × Session σ :=
  match parse argv with
  | .error h => (halted h, s)
  | .ok a =>
    match ((settings a env.read).run #[]).1 with
    | .error f => (failed "" f, s)
    | .ok given =>
      match Log.configure (given.getD .logFormat .null) (given.getD .logLevel .null) with
      | .error f => (failed "" f, s)
      | .ok config =>
        let (ended, s') := (run env a given).perform host s
        let journal := s'.journal.toList.drop s.journal.size
        let errors := config.lines env.now (entries journal)
        match ended with
        | .ok w => (⟨.ok 0, w.output, errors, w.file.toList⟩, s')
        | .error f => (failed errors f, s')

end CommandLine

end PodRedirect
