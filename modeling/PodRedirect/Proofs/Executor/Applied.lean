import PodRedirect.Proofs.Executor

/-!
# Commands that are applied

Each command is tried on the host in the state that the commands before it have left, and its record
tells what became of its process. A policy that goes on after errors tries them all; another one
stops at the first that fails, with the failure of that one. Nothing is started for a policy that is
only simulated.

## Main definitions

* `Executor.Reports`: the record of a command, from what became of its process
* `Executor.Tried`: the records of commands that are tried one after the other
* `Executor.Applies`: what applying commands comes to

## Main results

* `Executor.tried_records`: what the records of commands tell
* `Executor.apply_exact`: applying commands
-/

namespace PodRedirect.Executor

open PodRedirect.Action

variable {σ : Type} (x : Executor) (host : Host σ)

/-! ## Records -/

/-- The record of a command, from what became of its process: the output of one that succeeded, and
the failure of another, which has what that one wrote. -/
inductive Reports (x : Executor) (c : Command) : Outcome → ExecutionRecord → Prop
  | succeeded (output : Option String) :
    Reports x c (.exited 0 output) ⟨c, x.policy.argv c, output.getD "", none, false⟩
  | exited {status : Int} (failed : status ≠ 0) (output : Option String) :
    Reports x c (.exited status output)
      ⟨c, x.policy.argv c, "", some ⟨x.policy.argv c, some status, output.getD "", ""⟩, false⟩
  | notStarted (reason : String) :
    Reports x c (.notStarted reason)
      ⟨c, x.policy.argv c, "", some ⟨x.policy.argv c, none, "", reason⟩, false⟩

/-- The commands are tried in order on a host in state `s`, each in the state that the one before it
has left, and have the records. The host is in state `t` in the end. -/
inductive Tried (x : Executor) (host : Host σ) : σ → List Command → List ExecutionRecord → σ → Prop
  | nil (s : σ) : Tried x host s [] [] s
  | cons {s t u : σ} {c : Command} {cs : List Command} {o : Outcome} {r : ExecutionRecord}
    {rs : List ExecutionRecord} (started : host.start s (x.policy.argv c) = (o, t))
    (reports : Reports x c o r) (rest : Tried x host t cs rs u) :
    Tried x host s (c :: cs) (r :: rs) u

theorem reports_judge (hrun : x.policy.simulate = false) (c : Command) (o : Outcome) :
    Reports x c o (x.record c (judge (x.policy.argv c) o)) := by
  cases o with
  | notStarted reason =>
    rw [judge, record, hrun]
    exact .notStarted reason
  | exited status output =>
    rw [judge]
    split
    next hzero =>
      rw [record, hrun, hzero]
      exact .succeeded output
    next hfailed =>
      rw [record, hrun]
      exact .exited hfailed output

/-- **The records of commands tell what became of them**, one after the other. -/
theorem tried_records (hrun : x.policy.simulate = false) (s : σ) (cs : List Command) :
    Tried x host s cs (x.records host s cs) (x.last host s cs) := by
  induction cs generalizing s with
  | nil => exact .nil s
  | cons c cs ih => exact .cons rfl (x.reports_judge hrun c _) (ih (x.next host s c))

theorem records_append (s : σ) (cs : List Command) (c : Command) :
    x.records host s (cs ++ [c]) =
      x.records host s cs ++ [x.record c (x.answer host (x.last host s cs) c)] := by
  induction cs generalizing s with
  | nil => rfl
  | cons d cs ih => exact congrArg (_ :: ·) (ih (x.next host s d))

/-! ## Applying commands -/

/-- The starts of the processes of commands, in order. -/
def starts (cs : List Command) : List Event := cs.map fun c => .started (x.policy.argv c)

/-- What applying commands comes to: the requests that are made, the result, and the state of the
host in the end. Commands that are simulated are skipped. Others are all tried if the policy goes on
after errors or none fails; otherwise no command is tried after the first that fails. -/
inductive Applies (x : Executor) (host : Host σ) (s : σ) (cs : List Command) :
    List Event → Except Failure (List ExecutionRecord) → σ → Prop
  | simulated (simulated : x.policy.simulate = true) :
    Applies x host s cs [] (.ok (cs.map fun c => ⟨c, x.policy.argv c, "", none, true⟩)) s
  | all {rs : List ExecutionRecord} {t : σ} (live : x.policy.simulate = false)
    (tried : Tried x host s cs rs t)
    (goesOn : x.policy.continueOnError = true ∨ ∀ r ∈ rs, r.error = none) :
    Applies x host s cs (x.starts cs) (.ok rs) t
  | stopped {pre post : List Command} {c : Command} {rs : List ExecutionRecord}
    {r : ExecutionRecord} {f : ProcessFailure} {t : σ} (live : x.policy.simulate = false)
    (stops : x.policy.continueOnError = false) (commands : cs = pre ++ c :: post)
    (tried : Tried x host s (pre ++ [c]) (rs ++ [r]) t) (before : ∀ r ∈ rs, r.error = none)
    (failed : r.error = some f) :
    Applies x host s cs (x.starts (pre ++ [c])) (.error (.process f)) t

/-- **Applying commands**, on every host, does one thing, and that is what `Applies` says. -/
theorem apply_exact (cs : List Command) (s : σ) :
    ∃ es r t, Applies x host s cs es r t ∧ (x.apply cs).Does host s es r t := by
  cases hsim : x.policy.simulate with
  | true => exact ⟨_, _, _, .simulated hsim, x.does_apply_simulated host hsim cs s⟩
  | false =>
    have hall (goesOn : x.policy.continueOnError = true ∨
        ∀ r ∈ x.records host s cs, r.error = none) :
        ∃ es r t, Applies x host s cs es r t ∧ (x.apply cs).Does host s es r t :=
      ⟨_, _, _, .all hsim (x.tried_records host hsim s cs) goesOn,
        x.does_apply host (x.does_mapM_applyOne host hsim goesOn)⟩
    cases hcontinue : x.policy.continueOnError with
    | true => exact hall (Or.inl hcontinue)
    | false =>
      rcases x.records_cases host s cs with hnone | ⟨pre, c, post, f, rfl, hpre, hc⟩
      · exact hall (Or.inr hnone)
      · have htried := x.tried_records host hsim s (pre ++ [c])
        rw [records_append, hc] at htried
        exact ⟨_, _, _, .stopped hsim hcontinue rfl htried hpre rfl,
          x.does_apply host (x.does_mapM_applyOne_of_error host hsim hcontinue post hpre hc)⟩

end PodRedirect.Executor
