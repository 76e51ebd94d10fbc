import PodRedirect.Proofs.CommandLine.Settled
import PodRedirect.Proofs.Policy.Families

/-!
# Settings that are rejected

The policies for the two families of addresses are rejected for the same reasons: what the second one
is rejected for is wrong with the first one too, unless that lacks one of two paths. A run whose
settings are rejected fails with that rejection. Before it comes to the policies it sets the time
that connections are remembered for, so that it has started a process by then if a time is given,
and does not come to the rejection if that process fails.

## Main definitions

* `CommandLine.LeavesTime`: nothing is set before the policies are built
* `CommandLine.SetsTime`: the ends of setting the time

## Main results

* `Policy.alike_build`: the policies for the two families
* `CommandLine.refusal_leaves_host_iff`: when settings that are rejected leave the host alone
-/

namespace PodRedirect

open PodRedirect.Action

variable {σ : Type} {host : Host σ}

/-! ## Both families of addresses -/

namespace Policy

section WithoutPaths

open CommandLine (withoutPaths sameBut_withoutPaths)

variable {s : Settings}

/-- **The policies for the two families of addresses are rejected for the same reasons**, if paths
are given for both binaries or for none. -/
theorem alike_build (paired : PairedPaths s) :
    (build s false).Alike (fun _ _ => True) (build (withoutPaths s) true) := by
  have same : SameBut paths s (withoutPaths s) := (sameBut_withoutPaths s).symm
  have without : PairedPaths (withoutPaths s) := pairedPaths_withPaths s Iff.rfl
  have hbinaries := endsAlike_paths same paired without false true
  exact (alike_build_of_binaries same hbinaries).mono fun _ _ _ => trivial

/-- With a path for one of the binaries only, the first policy fails with that, unless a port of the
proxy is at fault for both policies. -/
theorem build_of_unpaired (unpaired : ¬PairedPaths s) :
    ((build s false).run #[]).1 = .error (.rejected .unpairedPaths) ∨
      ∃ f, ((build s false).run #[]).1 = .error f ∧
        ((build (withoutPaths s) true).run #[]).1 = .error f := by
  have same := sameBut_withoutPaths s
  unfold build
  rw [binaries_of_unpaired unpaired, same.proxyPort (by decide), same.proxyPort (by decide)]
  cases proxyPort s .incomingProxyPort with
  | error f => exact Or.inr ⟨f, rfl, rfl⟩
  | ok inboundPort =>
    cases proxyPort s .outgoingProxyPort with
    | error f => exact Or.inr ⟨f, rfl, rfl⟩
    | ok outboundPort => exact Or.inl rfl

end WithoutPaths

end Policy

namespace CommandLine

/-- What the second policy is rejected for, the first one is rejected for too, unless it lacks one of
two paths. -/
theorem exists_rejected_of_second {s : Settings} {r : Rejection}
    (rejected : ((Policy.build (withoutPaths s) true).run #[]).1 = .error (.rejected r)) :
    ∃ r', ((Policy.build s false).run #[]).1 = .error (.rejected r') ∧
      (r' = r ∨ r' = .unpairedPaths) := by
  by_cases paired : Policy.PairedPaths s
  · exact ⟨r, (Policy.alike_build paired).error rejected, Or.inl rfl⟩
  · rcases Policy.build_of_unpaired paired with hfirst | ⟨f, hfirst, hsecond⟩
    · exact ⟨_, hfirst, Or.inr rfl⟩
    · rw [rejected] at hsecond
      cases hsecond
      exact ⟨r, hfirst, Or.inl rfl⟩

/-- There is no plan where the first policy is rejected. -/
theorem planned_of_rejected {s : Settings} {f : Failure}
    (rejected : ((Policy.build s false).run #[]).1 = .error f) :
    ((planned s).run #[]).1 = .error f := Logged.fst_run_bind_of_error rejected _

/-! ## The time that connections are remembered for -/

/-- The process that sets the time. -/
def closeWaitProcess (seconds : String) : List String :=
  ["sysctl", "-w", Run.closeWaitKey ++ "=" ++ seconds]

/-- Nothing is set before the policies are built: no time is given, or it is only said what it would
be set to. -/
def LeavesTime (s : Settings) (planOnly : Bool) : Prop :=
  ∀ n, s.getD .timeoutCloseWaitSecs .null = .int n → n ≠ 0 →
    (Policy.flag s .simulate || planOnly) = true ∧ Numeral.Writable n

/-- The processes that set the time, on a host in state `t`, and the end of that. -/
inductive SetsTime (s : Settings) (planOnly : Bool) (host : Host σ) (t : σ) :
    List (List String) → Except Failure Unit → Prop where
  | leaves (leaves : LeavesTime s planOnly) : SetsTime s planOnly host t [] (.ok ())
  /-- The time has too many digits to be written. -/
  | unwritable {n : Int} {f : Numeral.Fault}
    (given : s.getD .timeoutCloseWaitSecs .null = .int n) (nonzero : n ≠ 0)
    (written : Numeral.write n = .error f) :
    SetsTime s planOnly host t [] (.error (.mishap (.numeral f)))
  | sets {n : Int} {seconds : String} {output : String}
    (given : s.getD .timeoutCloseWaitSecs .null = .int n) (nonzero : n ≠ 0)
    (live : (Policy.flag s .simulate || planOnly) = false)
    (written : Numeral.write n = .ok seconds)
    (ended : Executor.judge (closeWaitProcess seconds)
      (host.start t (closeWaitProcess seconds)).1 = .ok output) :
    SetsTime s planOnly host t [closeWaitProcess seconds] (.ok ())
  | fails {n : Int} {seconds : String} {f : ProcessFailure}
    (given : s.getD .timeoutCloseWaitSecs .null = .int n) (nonzero : n ≠ 0)
    (live : (Policy.flag s .simulate || planOnly) = false)
    (written : Numeral.write n = .ok seconds)
    (ended : Executor.judge (closeWaitProcess seconds)
      (host.start t (closeWaitProcess seconds)).1 = .error f) :
    SetsTime s planOnly host t [closeWaitProcess seconds] (.error (.process f))

theorem does_setCloseWait_unwritable {n : Int} {f : Numeral.Fault}
    (written : Numeral.write n = .error f) (simulate : Bool) (t : σ) :
    (Run.setCloseWait n simulate).Does host t [] (.error (.mishap (.numeral f))) t := by
  unfold Run.setCloseWait
  rw [written]
  exact (does_throw _).bind_error

theorem does_setCloseWait_simulated {n : Int} {seconds : String}
    (written : Numeral.write n = .ok seconds) (t : σ) :
    (Run.setCloseWait n true).Does host t [] (.ok "") t := by
  unfold Run.setCloseWait
  rw [written]
  exact (does_pure seconds).bind ((does_note _ _ _).bind (does_pure ""))

theorem does_setCloseWait_live {n : Int} {seconds : String}
    (written : Numeral.write n = .ok seconds) (host : Host σ) (t : σ) :
    (Run.setCloseWait n false).Does host t [.started (closeWaitProcess seconds)]
      ((Executor.judge (closeWaitProcess seconds)
        (host.start t (closeWaitProcess seconds)).1).mapError .process)
      (host.start t (closeWaitProcess seconds)).2 := by
  unfold Run.setCloseWait
  rw [written]
  refine (does_pure seconds).bind ((does_note _ _ _).bind
    ((does_start (closeWaitProcess seconds)).bind_nil ?_))
  dsimp only [closeWaitProcess]
  cases Executor.judge _ _ with
  | ok output => exact (does_note _ _ _).bind (does_pure output)
  | error f =>
    dsimp only
    -- a failure is noted or not, and passed on in both cases
    split
    · exact (does_note _ _ _).bind (does_throw _)
    · exact does_throw _

/-- **Setting the time ends as `SetsTime` says**, on every host. -/
theorem exists_does_setCloseWait (s : Settings) (planOnly : Bool) (host : Host σ) (t : σ) :
    ∃ argvs r u, (setCloseWait s planOnly).Does host t (argvs.map .started) r u ∧
      SetsTime s planOnly host t argvs r := by
  by_cases given : ∃ n, s.getD .timeoutCloseWaitSecs .null = .int n ∧ n ≠ 0
  · obtain ⟨n, given, nonzero⟩ := given
    have hset : (setCloseWait s planOnly : Action σ Unit) =
        Run.setCloseWait n (Policy.flag s .simulate || planOnly) >>= fun _ => pure () := by
      unfold setCloseWait
      rw [given]
      exact if_pos nonzero
    rw [hset]
    cases written : Numeral.write n with
    | error f =>
      exact ⟨[], _, _, (does_setCloseWait_unwritable written _ t).bind_error,
        .unwritable given nonzero written⟩
    | ok seconds =>
      cases live : (Policy.flag s .simulate || planOnly) with
      | true =>
        refine ⟨[], .ok (), t,
          (does_setCloseWait_simulated written t).bind (does_pure ()), .leaves fun m hm _ => ?_⟩
        rw [given] at hm
        cases hm
        exact ⟨live, seconds, written⟩
      | false =>
        have hlive := does_setCloseWait_live written host t
        cases ended : Executor.judge (closeWaitProcess seconds)
          (host.start t (closeWaitProcess seconds)).1 with
        | ok output =>
          rw [ended] at hlive
          exact ⟨[closeWaitProcess seconds], .ok (), _, hlive.bind_nil (does_pure ()),
            .sets given nonzero live written ended⟩
        | error f =>
          rw [ended] at hlive
          exact ⟨[closeWaitProcess seconds], _, _, hlive.bind_error,
            .fails given nonzero live written ended⟩
  · have unset : ∀ n, s.getD .timeoutCloseWaitSecs .null = .int n → n = 0 :=
      fun n hn => not_not.mp fun nonzero => given ⟨n, hn, nonzero⟩
    rw [setCloseWait_eq_pure _ unset]
    exact ⟨[], .ok (), t, does_pure (), .leaves fun n hn nonzero => absurd (unset n hn) nonzero⟩

/-- Nothing is started, and nothing fails, exactly if the time is left alone. -/
theorem SetsTime.leaves_iff {s : Settings} {planOnly : Bool} {t : σ}
    {argvs : List (List String)} {r : Except Failure Unit} (h : SetsTime s planOnly host t argvs r) :
    (argvs = [] ∧ r = .ok ()) ↔ LeavesTime s planOnly := by
  cases h with
  | leaves leaves => exact iff_of_true ⟨rfl, rfl⟩ leaves
  | unwritable given nonzero written =>
    refine iff_of_false (fun h => nomatch h.2) fun leaves => ?_
    obtain ⟨-, seconds, hseconds⟩ := leaves _ given nonzero
    rw [written] at hseconds
    cases hseconds
  | sets given nonzero live written ended | fails given nonzero live written ended =>
    refine iff_of_false (fun h => nomatch h.1) fun leaves => ?_
    have idle := (leaves _ given nonzero).1
    rw [live] at idle
    cases idle

/-! ## Runs -/

/-- After the time was set, the run ends with the rejection of the first policy. -/
theorem does_run_of_rejected {s : Settings} {f : Failure}
    (rejected : ((Policy.build s false).run #[]).1 = .error f) (env : Environment) {a : Arguments}
    {es : List Event} {ended : Except Failure Unit} {t u : σ}
    (time : (setCloseWait s a.script.isTruthy).Does host t es ended u) :
    (run env a s).Does host t es (ended >>= fun _ => .error f) u := by
  have hpolicies (detect : Bool) :
      (policies s detect : Action σ (Policy × Option Policy)).Does host u [] (.error f) u := by
    have hplanned := computes_ofLogged (planned s) host u
    rw [planned_of_rejected rejected] at hplanned
    exact hplanned.bind_error
  unfold run
  cases ended with
  | error f => exact time.bind_error
  | ok _ => exact time.bind_nil (hpolicies _).bind_error

/-- **A rejection leaves the host alone exactly if no time is set before.** For all arguments, if
the settings are such that the policy for one of the two families is rejected, the first one is, and
the run ends with its rejection after the time was set, or with the failure to set it. So it has
started no process and ends with the rejection if no time is given or if nothing is run, and in no
other case. -/
theorem refusal_leaves_host_iff (env : Environment) (a : Arguments) {s : Settings} {r : Rejection}
    (rejected : ((Policy.build s false).run #[]).1 = .error (.rejected r) ∨
      ((Policy.build (withoutPaths s) true).run #[]).1 = .error (.rejected r))
    (host : Host σ) (t : σ) :
    ∃ r', ((Policy.build s false).run #[]).1 = .error (.rejected r') ∧
      (r' = r ∨ r' = .unpairedPaths) ∧
      ((∃ u, (run env a s).Does host t [] (.error (.rejected r')) u) ↔
        LeavesTime s a.script.isTruthy) ∧
      ∃ argvs ended u, SetsTime s a.script.isTruthy host t argvs ended ∧
        (run env a s).Does host t (argvs.map .started)
          (ended >>= fun _ => .error (.rejected r')) u := by
  have hfirst : ∃ r', ((Policy.build s false).run #[]).1 = .error (.rejected r') ∧
      (r' = r ∨ r' = .unpairedPaths) := by
    rcases rejected with hfirst | hsecond
    · exact ⟨r, hfirst, Or.inl rfl⟩
    · exact exists_rejected_of_second hsecond
  obtain ⟨r', hfirst, hr'⟩ := hfirst
  obtain ⟨argvs, ended, u, htime, hsets⟩ := exists_does_setCloseWait s a.script.isTruthy host t
  have hrun := does_run_of_rejected hfirst env htime
  refine ⟨r', hfirst, hr', ?_, argvs, ended, u, hsets, hrun⟩
  rw [← hsets.leaves_iff]
  constructor
  · rintro ⟨u', hidle⟩
    obtain ⟨hargvs, hended, -⟩ := hrun.unique hidle
    refine ⟨List.map_eq_nil_iff.mp hargvs, ?_⟩
    -- setting the time never fails with a rejection, so that it did not fail
    cases hsets with
    | leaves | sets => rfl
    | unwritable | fails => cases hended
  · rintro ⟨rfl, rfl⟩
    exact ⟨u, hrun⟩

/-- Without arguments there is no port to redirect traffic to, and nothing is started. -/
theorem refusal_leaves_host_iff_silent :
    ∃ u, (run alone .empty Settings.defaults).Does Host.quiet () []
      (.error (.rejected (.proxyPort .incomingProxyPort))) u := by
  obtain ⟨r, hr, -, hidle, -⟩ := refusal_leaves_host_iff alone .empty
    (Or.inl (rfl : ((Policy.build Settings.defaults false).run #[]).1 =
      .error (.rejected (.proxyPort .incomingProxyPort)))) Host.quiet ()
  cases hr
  exact hidle.mpr fun n hn nonzero => absurd (Value.int.inj hn).symm nonzero

/-- Arguments that give nothing but a time. -/
def timed : Arguments := { Arguments.empty with given := [(.timeoutCloseWaitSecs, .int 5)] }

/-- The settings with these arguments. -/
def timedSettings : Settings := Settings.defaults.update timed.given

/-- A host on which no process succeeds. -/
def failing : Host Unit where
  resolves _ _ := (true, ())
  start _ _ := (.exited 1 none, ())

/-- The time is set before the port that is missing is noticed. Where this fails, the run does not end
with the rejection. -/
theorem refusal_after_process :
    parse ["--timeout-close-wait-secs", "5"] = .ok timed ∧
      ((settings timed alone.read).run #[]).1 = .ok timedSettings ∧
      ((Policy.build timedSettings false).run #[]).1 =
        .error (.rejected (.proxyPort .incomingProxyPort)) ∧
      (run alone timed timedSettings).Does Host.quiet () [.started (closeWaitProcess "5")]
        (.error (.rejected (.proxyPort .incomingProxyPort))) () ∧
      ∃ f, (run alone timed timedSettings).Does failing () [.started (closeWaitProcess "5")]
        (.error (.process f)) () := by
  have hrejected : ((Policy.build timedSettings false).run #[]).1 =
      .error (.rejected (.proxyPort .incomingProxyPort)) := rfl
  have hlive (host : Host Unit) :=
    does_setCloseWait_live (rfl : Numeral.write 5 = .ok "5") host ()
  have hset : (setCloseWait timedSettings timed.script.isTruthy).Does Host.quiet ()
      [.started (closeWaitProcess "5")] (.ok ()) () := (hlive Host.quiet).bind_nil (does_pure ())
  have hfails : (setCloseWait timedSettings timed.script.isTruthy).Does failing ()
      [.started (closeWaitProcess "5")] _ () := (hlive failing).bind_error
  exact ⟨rfl, rfl, hrejected, does_run_of_rejected hrejected alone hset,
    _, does_run_of_rejected hrejected alone hfails⟩

end CommandLine

end PodRedirect
