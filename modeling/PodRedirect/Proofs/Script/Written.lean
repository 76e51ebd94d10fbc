import PodRedirect.CommandLine.Program
import PodRedirect.Proofs.Run

/-!
# What is written as a script

The script for policies is made without a request to the host: the compilations that it needs go by
an empty listing. Its text depends on the policies, the identifier of the run and what the run is
for, and on nothing else.

## Main definitions

* `CommandLine.sectionFor`, `CommandLine.scriptFor`: the section of a script for a policy, and the
  script for policies
* `CommandLine.written`: what comes of writing a script

## Main results

* `CommandLine.computes_writeScript`: what is written, on every host
-/

namespace PodRedirect.CommandLine

open PodRedirect.Action

variable {σ : Type}

/-- The section of a script for a policy: the commands for what is not installed yet, or those that
remove everything. -/
def sectionFor (p : Policy) (traceId : String) (cleanup : Bool) : Except Failure Script.Section :=
  if cleanup then .ok (Script.ofPolicy p Compiler.teardown [])
  else do
    let result ← ((Compiler.new p traceId).compile "").1
    return Script.ofPolicy p result.commands result.warnings

/-- The script for policies. -/
def scriptFor (ps : List Policy) (traceId : String) (cleanup : Bool) : Except Failure String := do
  let sections ← ps.mapM fun p => sectionFor p traceId cleanup
  return Script.render sections traceId (ps.any Policy.simulate)

/-- What comes of writing a script to the given path, which is the output if it is a dash. -/
def written (env : Environment) (path script : String) : Except Failure Written :=
  if path = "-" then .ok ⟨script, none⟩
  else
    match env.write (FilePath.tidy path) script with
    | some e => .error (.rejected (.unwritable (FilePath.tidy path) e))
    | none => .ok ⟨"", some (FilePath.tidy path, script)⟩

theorem computes_scriptSection (p : Policy) (traceId : String) (cleanup : Bool) :
    (scriptSection p traceId cleanup : Action σ Script.Section).Computes
      (sectionFor p traceId cleanup) := by
  cases cleanup with
  | true => exact computes_pure _
  | false =>
    have hplan : (Run.plan p traceId "" : Action σ Compiler.Result).Computes
        ((Compiler.new p traceId).compile "").1 := Run.does_compile p traceId ""
    exact hplan.bind fun result => computes_pure _

/-- **The script is written without a request to the host**, and is the same on every host. -/
theorem computes_writeScript (env : Environment) (path : String) (ps : List Policy)
    (traceId : String) (cleanup : Bool) :
    (writeScript env path ps traceId cleanup : Action σ Written).Computes
      (scriptFor ps traceId cleanup >>= written env path) := by
  have hsections := computes_mapM (σ := σ) (fun p => computes_scriptSection p traceId cleanup) ps
  rw [scriptFor, bind_assoc]
  refine hsections.bind fun sections => ?_
  rw [pure_bind, written]
  dsimp only
  split
  · exact computes_pure _
  · cases env.write (FilePath.tidy path) _ with
    | some e => exact computes_throw _
    | none => exact (computes_note _ _ _).bind fun _ => computes_pure _

end PodRedirect.CommandLine
