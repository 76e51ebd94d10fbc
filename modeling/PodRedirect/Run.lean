import PodRedirect.Backend.Detect
import PodRedirect.Compiler
import PodRedirect.Executor

/-!
# Runs

A run installs the redirection of one policy or removes it. Before it installs anything, it lists
what is installed, and does nothing if that fails; after it has finished, it lists the result for
the report.

## Main definitions

* `Report`: what a run has done
* `Run.plan`, `Run.configure`, `Run.cleanup`: the runs for a policy
* `Run.dualStack`: the runs for both families of addresses
* `Run.resolveBackend`: the binaries that a policy is run with
* `Run.setCloseWait`: sets how long the kernel remembers connections that wait to be closed
-/

namespace PodRedirect

/-- What a run has done. -/
structure Report where
  family : String
  traceId : String
  binary : String
  saveBinary : String
  initialRules : String
  finalRules : String
  result : Option Compiler.Result
  records : List ExecutionRecord
  warnings : List String
  deriving Repr

/-- The failures of the commands that were applied. -/
def Report.errors (r : Report) : List ProcessFailure := r.records.filterMap ExecutionRecord.error

namespace Run

variable {σ : Type}

/-- The policy with binaries that the host knows. -/
def resolved (p : Policy) : Action σ Policy := do
  let (binary, saveBinary) ← Backend.fallback p.binary p.saveBinary
  return p.withBinaries binary saveBinary

/-- Lists the rules at the end of a run. A failure is only logged. -/
def finalListing (x : Executor) : Action σ String := do
  match ← (x.execute (Command.dump Rule.natTable)).attempt with
  | .ok rules => return rules
  | .error f =>
    Action.note .run .warning ("could not list the resulting rules: " ++ f.message)
    return ""

/-- Lists the rules at the start of a run. A failure ends the run. -/
def initialListing (x : Executor) : Action σ String := do
  match ← (x.execute (Command.dump Rule.natTable)).attempt with
  | .ok rules => return rules
  | .error f =>
    Action.note .run .error "aborting firewall configuration"
    throw f

/-- Compiles a policy against a listing. -/
def compile (p : Policy) (traceId listing : String) : Action σ Compiler.Result := do
  let (result, _, said) := (Compiler.new p traceId).compile listing
  for e in said do Action.record (.logged e)
  match result with
  | .ok result => return result
  | .error f => throw f

/-- What a run would do, given a listing of what is installed. -/
def plan (p : Policy) (traceId listing : String) : Action σ Compiler.Result :=
  compile p traceId listing

/-- Says which run this is. -/
def announce (traceId : String) : Action σ Unit :=
  Action.note .run .debug ("tracing script execution as [" ++ traceId ++ "]")

/-- Installs the redirection of a policy. -/
def configure (p : Policy) (traceId : String) : Action σ Report := do
  let p ← resolved p
  announce traceId
  let x : Executor := ⟨p, traceId⟩
  let initialRules ← initialListing x
  let result ← compile p traceId initialRules
  let records ← x.apply result.commands
  let finalRules ← finalListing x
  return {
    family := Policy.familyName p.ipv6, traceId, binary := p.binary, saveBinary := p.saveBinary
    initialRules, finalRules, result := some result, records, warnings := result.warnings }

/-- Removes a redirection. -/
def cleanup (p : Policy) (traceId : String) : Action σ Report := do
  let p ← resolved p
  announce traceId
  Action.note .run .debug ("using \"" ++ p.binary ++ "\" to clean up firewall rules")
  Action.note .run .debug ("using \"" ++ p.saveBinary ++ "\" to list all available rules")
  let x : Executor := ⟨p, traceId⟩
  let records ← x.apply Compiler.teardown
  let finalRules ← finalListing x
  return {
    family := Policy.familyName p.ipv6, traceId, binary := p.binary, saveBinary := p.saveBinary
    initialRules := "", finalRules, result := none, records, warnings := [] }

/-- The two things a run can be for. -/
inductive Purpose where
  | configure
  | cleanup
  deriving DecidableEq, Repr

/-- The name of a purpose. -/
def Purpose.name : Purpose → String
  | .configure => "configure"
  | .cleanup => "cleanup"

/-- The run of a policy for a purpose. -/
def perform (purpose : Purpose) (p : Policy) (traceId : String) : Action σ Report :=
  match purpose with
  | .configure => configure p traceId
  | .cleanup => cleanup p traceId

/-- The run for version 4 and then the one for version 6, if there is one. A failure of the second
run is only logged, unless the host lacks the binaries for it. -/
def dualStack (purpose : Purpose) (v4 : Action σ Report) (v6 : Option (Action σ Report)) :
    Action σ (List Report) := do
  let first ← v4
  match v6 with
  | none => return [first]
  | some v6 =>
    match ← v6.attempt with
    | .ok second => return [first, second]
    | .error (.noBinary candidates) => throw (.noBinary candidates)
    | .error (.mishap m) => throw (.mishap m)
    | .error f =>
      Action.note .run .warning
        ("ignoring failure of the ipv6 " ++ purpose.name ++ " run: " ++ f.message)
      return [first]

/-- Settles the binaries that a policy is run with. Those that are given by their paths are used as
they are; otherwise the flavour in use is found out, through processes that honour the network
namespace of the policy and that are not run when it is only simulated. Where that is not possible,
the flavour asked for is used as it is. -/
def resolveBackend (p : Policy) (requested : Value) (explicit : Bool) :
    Action σ (Policy × Selection) := do
  if explicit then
    let none_ : Backend.Probe σ := fun _ => throw (.mishap .wrongKind)
    let selection ← Backend.select none_ p.ipv6 (.text Mode.legacy.name) p.binary p.saveBinary
    return (p, selection)
  let some mode := Mode.ofValue? requested | do
    let quoted ← requested.quoted.mapError Failure.ofNumeral
    throw (.mishap (.mode quoted))
  let x : Executor := ⟨p, ""⟩
  let probe : Backend.Probe σ := fun argv => x.run (p.wrap argv)
  match ← (Backend.select probe p.ipv6 (.text mode.name) "" "").attempt with
  | .ok selection => return (p.withBinaries selection.binary selection.saveBinary, selection)
  | .error (.noBinary candidates) =>
    if mode = .auto then throw (.noBinary candidates)
    Action.note .run .warning
      ("cannot detect the iptables backend (" ++ (Failure.noBinary candidates).message ++
        "); using " ++ p.binary)
    return (p, ⟨mode, p.binary, p.saveBinary, none⟩)
  | .error f => throw f

/-- The setting of the kernel for connections that wait to be closed. -/
def closeWaitKey : String := "net.netfilter.nf_conntrack_tcp_timeout_close_wait"

/-- Sets how many seconds the kernel remembers connections that wait to be closed. -/
def setCloseWait (seconds : Int) (simulate : Bool) : Action σ String := do
  let seconds ← (Numeral.write seconds).mapError Failure.ofNumeral
  let argv := ["sysctl", "-w", closeWaitKey ++ "=" ++ seconds]
  Action.note .run .info (":; " ++ " ".intercalate argv)
  if simulate then return ""
  let outcome ← Action.start argv
  match Executor.judge argv outcome with
  | .ok output =>
    Action.note .run .info (Executor.trimFeeds output)
    return output
  | .error f =>
    if f.status.isSome then Action.note .run .error (Executor.trimFeeds f.output)
    throw (.process f)

end Run

end PodRedirect
