import PodRedirect.Command
import PodRedirect.Host
import PodRedirect.Policy

/-!
# Executing commands

A command is run with one of the binaries of the policy, inside the policy's network namespace if
there is one. When a policy is only simulated, commands are logged but not run.

## Main definitions

* `Policy.wrap`, `Policy.argv`: the process for a command
* `Executor`: how the commands of a policy are run
* `Executor.run`, `Executor.execute`: run a process, or a command
* `Executor.apply`: runs commands in order
-/

namespace PodRedirect

namespace Policy

/-- The process inside the network namespace of the policy, if there is one. -/
def wrap (p : Policy) (argv : List String) : List String :=
  if p.netns.isEmpty then argv else ["nsenter", "--net=" ++ p.netns, "--"] ++ argv

/-- The process for a command. A command that changes rules waits for the lock on them if the policy
asks for that. -/
def argv (p : Policy) (c : Command) : List String :=
  p.wrap
    (if c.isDump then p.saveBinary :: c.args
    else p.binary :: c.args ++ if p.useWaitFlag then ["-w"] else [])

end Policy

/-- How the commands of a policy are run, on behalf of the run with the given identifier. -/
structure Executor where
  policy : Policy
  traceId : String
  deriving Repr

/-- A command that was applied: its process, what that wrote, and its failure if it failed. -/
structure ExecutionRecord where
  command : Command
  argv : List String
  output : String
  error : Option ProcessFailure
  skipped : Bool
  deriving Repr

namespace Executor

variable {σ : Type}

/-- The output of a process that ended as given, or its failure. -/
def judge (argv : List String) : Outcome → Except ProcessFailure String
  | .notStarted reason => .error ⟨argv, none, "", reason⟩
  | .exited status output =>
    if status = 0 then .ok (output.getD "")
    else .error ⟨argv, some status, output.getD "", ""⟩

/-- The text without line feeds at its end. -/
def trimFeeds (s : String) : String :=
  String.ofList (Text.trimEnd (· = '\n') s.toList)

/-- Runs a process: its output, or its failure. -/
def tryRun (x : Executor) (argv : List String) : Action σ (Except ProcessFailure String) := do
  let mark := if x.traceId.isEmpty then "" else "[" ++ x.traceId ++ "] "
  Action.note .executor .info (mark ++ ":; " ++ Shell.join argv)
  if x.policy.simulate then return .ok ""
  let outcome ← Action.start argv
  if let .exited _ (some output) := outcome then
    if !Text.isBlankText output then Action.note .executor .debug (trimFeeds output)
  return judge argv outcome

/-- Runs a process and fails if it does. -/
def run (x : Executor) (argv : List String) : Action σ String := do
  match ← x.tryRun argv with
  | .ok output => return output
  | .error f => throw (.process f)

/-- Runs a command. -/
def execute (x : Executor) (c : Command) : Action σ String :=
  x.run (x.policy.argv c)

/-- Runs a command: its record. If the policy does not go on after errors, an error is a failure. -/
def applyOne (x : Executor) (c : Command) : Action σ ExecutionRecord := do
  let argv := x.policy.argv c
  match ← x.tryRun argv with
  | .ok output => return ⟨c, argv, output, none, x.policy.simulate⟩
  | .error f =>
    if !x.policy.continueOnError then throw (.process f)
    Action.note .executor .debug ("continuing despite error: " ++ f.message)
    return ⟨c, argv, "", some f, x.policy.simulate⟩

/-- Runs commands in order: their records. -/
def apply (x : Executor) (cs : List Command) : Action σ (List ExecutionRecord) := do
  if x.policy.useWaitFlag then
    Action.note .executor .debug "iptables will wait for the xtables lock to become available"
  cs.mapM x.applyOne

end Executor

end PodRedirect
