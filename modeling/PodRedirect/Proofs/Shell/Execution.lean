import PodRedirect.Proofs.Executor
import PodRedirect.Proofs.Shell

/-!
# Running a shell's command lines

What a shell does with the commands that it reads: it starts them in order and waits for each to
end. A command that fails has no effect on those after it, unless the shell was told before to end
at the first failure.

## Main definitions

* `Shell.run`, `Shell.execute`: commands, and those of a script, on a host
* `Shell.reached`: the commands up to the first that fails
* `Shell.OnlyLastFails`: no command fails but perhaps the last one

## Main results

* `Shell.does_run_strict`: a shell that ends at the first failure starts what is reached
* `Shell.reached_prefix`, `Shell.reached_eq_iff`: how much of the commands that is
-/

namespace PodRedirect

/-- The process was started and has ended with status zero. -/
def Outcome.succeeded : Outcome → Bool
  | .exited status _ => status = 0
  | .notStarted _ => false

namespace Shell

open PodRedirect.Action

variable {σ : Type}

/-- The command that tells a shell to end at the first failure from then on. -/
def strictly : List String := ["set", "-e"]

/-- Runs commands in order, up to the first that fails if the shell was told so. -/
def run (strict : Bool) : List (List String) → Action σ Unit
  | [] => return
  | argv :: rest =>
    if argv = strictly then run true rest
    else do
      let outcome ← Action.start argv
      if strict && !outcome.succeeded then return
      run strict rest

/-- Runs the commands of a script. One that cannot be read is not run. -/
def execute (script : String) : Action σ Unit :=
  match read script with
  | some commands => run false commands
  | none => return

/-- The commands up to the first that fails on the host, and with it. -/
def reached (host : Host σ) (s : σ) : List (List String) → List (List String)
  | [] => []
  | argv :: rest =>
    argv :: if (host.start s argv).1.succeeded then reached host (host.start s argv).2 rest else []

/-- No command fails on the host but perhaps the last one. -/
def OnlyLastFails (host : Host σ) (s : σ) : List (List String) → Prop
  | [] => True
  | argv :: rest =>
    (rest ≠ [] → (host.start s argv).1.succeeded = true) ∧
      OnlyLastFails host (host.start s argv).2 rest

variable {host : Host σ} {argvs : List (List String)}

/-- A shell that ends at the first failure starts the commands up to there. -/
theorem does_run_strict (h : strictly ∉ argvs) (s : σ) :
    ∃ t, (run true argvs).Does host s ((reached host s argvs).map .started) (.ok ()) t := by
  induction argvs generalizing s with
  | nil => exact ⟨s, does_pure ()⟩
  | cons argv rest ih =>
    rw [List.mem_cons, not_or] at h
    have hstart : (Action.start argv).Does host s [.started argv] (.ok (host.start s argv).1)
        (host.start s argv).2 := does_start argv
    rw [run, if_neg (Ne.symm h.1), reached]
    by_cases hsucceeded : (host.start s argv).1.succeeded = true
    · obtain ⟨t, hrest⟩ := ih h.2 (host.start s argv).2
      rw [if_pos hsucceeded]
      -- the shell goes on from the state that the command leaves
      refine ⟨t, hstart.bind ?_⟩
      simp only [hsucceeded, Bool.not_true, Bool.and_false, Bool.false_eq_true, if_false]
      exact hrest
    · rw [if_neg hsucceeded]
      -- the shell ends here
      refine ⟨(host.start s argv).2, hstart.bind ?_⟩
      rw [Bool.not_eq_true] at hsucceeded
      simp only [hsucceeded, Bool.not_false, Bool.and_true, if_true]
      exact does_pure ()

/-- A script that starts with the command for it ends at the first failure. -/
theorem does_execute_strict (host : Host σ) {script : String}
    (hread : read script = some (strictly :: argvs))
    (h : strictly ∉ argvs) (s : σ) :
    ∃ t, (execute script).Does host s ((reached host s argvs).map .started) (.ok ()) t := by
  rw [execute, hread]
  simp only [run, if_true]
  exact does_run_strict h s

theorem reached_prefix (s : σ) (argvs : List (List String)) : reached host s argvs <+: argvs := by
  induction argvs generalizing s with
  | nil => exact List.prefix_rfl
  | cons argv rest ih =>
    rw [reached, List.cons_prefix_cons]
    refine ⟨rfl, ?_⟩
    split
    · exact ih _
    · exact List.nil_prefix

/-- All commands are reached if and only if none fails but perhaps the last one. -/
theorem reached_eq_iff (s : σ) (argvs : List (List String)) :
    reached host s argvs = argvs ↔ OnlyLastFails host s argvs := by
  induction argvs generalizing s with
  | nil => exact iff_of_true rfl trivial
  | cons argv rest ih =>
    rw [reached, OnlyLastFails, List.cons.injEq, ← ih]
    by_cases hsucceeded : (host.start s argv).1.succeeded = true
    · simp [hsucceeded]
    · -- nothing is reached after a failure, so nothing may be left
      simp only [hsucceeded, if_false, true_and, Bool.false_eq_true]
      constructor
      · rintro rfl
        exact ⟨fun h => absurd rfl h, rfl⟩
      · rintro ⟨h, -⟩
        exact (Classical.not_not.mp h).symm

/-- Where no process fails, all commands are reached. -/
theorem onlyLastFails_of_succeeds (succeeds : host.Succeeds) (s : σ) (argvs : List (List String)) :
    OnlyLastFails host s argvs := by
  induction argvs generalizing s with
  | nil => trivial
  | cons argv rest ih =>
    obtain ⟨output, houtput⟩ := succeeds s argv
    exact ⟨fun _ => by rw [houtput]; rfl, ih _⟩

end Shell

end PodRedirect
