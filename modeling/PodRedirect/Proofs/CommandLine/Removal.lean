import PodRedirect.Proofs.CommandLine.Settled

/-!
# Removing redirections through the command line

Settings to remove a redirection let the run go on after errors. Whatever the host answers, it then
attempts every command for every family of addresses, lists the rules of each, and ends well. The
report of a family names the commands that have failed, and no others.

## Main definitions

* `Run.Attempts`: commands that are all run, and the failures among them
* `Run.Removes`: the requests and the reports of removing the redirections of policies

## Main results

* `Run.exists_does_removals`: the runs for one family or for both
* `CommandLine.cleanup_attempts_all`: the whole run
-/

namespace PodRedirect

open PodRedirect.Action

variable {σ : Type} {host : Host σ}

namespace Run

/-! ## Commands that are all run -/

/-- The commands are run one after the other, from a state of the host, and leave it in another one.
The failures are those of the commands whose process does not end with a status of zero. -/
inductive Attempts (x : Executor) (host : Host σ) :
    σ → List Command → List ProcessFailure → σ → Prop where
  | nil (s : σ) : Attempts x host s [] [] s
  | succeeded {s t : σ} {c : Command} {cs : List Command} {fs : List ProcessFailure}
    {output : Option String} (ended : (host.start s (x.policy.argv c)).1 = .exited 0 output)
    (rest : Attempts x host (host.start s (x.policy.argv c)).2 cs fs t) :
    Attempts x host s (c :: cs) fs t
  | failed {s t : σ} {c : Command} {cs : List Command} {f : ProcessFailure}
    {fs : List ProcessFailure}
    (ended : ∀ output, (host.start s (x.policy.argv c)).1 ≠ .exited 0 output)
    (judged : Executor.judge (x.policy.argv c) (host.start s (x.policy.argv c)).1 = .error f)
    (rest : Attempts x host (host.start s (x.policy.argv c)).2 cs fs t) :
    Attempts x host s (c :: cs) (f :: fs) t

/-- A process counts as one that failed unless it ends with a status of zero. -/
theorem exited_of_judge {argv : List String} {ended : Outcome} {output : String}
    (h : Executor.judge argv ended = .ok output) : ∃ output, ended = .exited 0 output := by
  unfold Executor.judge at h
  split at h
  · cases h
  · split at h
    next hzero => exact ⟨_, by rw [hzero]⟩
    · cases h

theorem not_exited_of_judge {argv : List String} {ended : Outcome} {f : ProcessFailure}
    (h : Executor.judge argv ended = .error f) (output : Option String) :
    ended ≠ .exited 0 output := by
  rintro rfl
  cases h

/-- The records of commands hold the failures among them. -/
theorem attempts_records (x : Executor) (s : σ) (cs : List Command) :
    Attempts x host s cs ((x.records host s cs).filterMap ExecutionRecord.error)
      (x.last host s cs) := by
  induction cs generalizing s with
  | nil => exact .nil s
  | cons c cs ih =>
    have hrest := ih (x.next host s c)
    rw [Executor.records]
    cases hanswer : x.answer host s c with
    | ok output =>
      obtain ⟨output, hended⟩ := exited_of_judge hanswer
      exact .succeeded hended hrest
    | error f => exact .failed (not_exited_of_judge hanswer) hanswer hrest

/-! ## Runs that remove redirections -/

/-- The redirections of policies are removed one after the other, from a state of the host. For each
of them the host is asked for names until there is a pair of binaries. With these, all commands are
run and the rules are listed, and the report names the commands that have failed. -/
inductive Removes (traceId : String) (host : Host σ) :
    σ → List Policy → List Event → List Report → σ → Prop where
  | nil (s : σ) : Removes traceId host s [] [] [] s
  | cons {s t u v : σ} {p : Policy} {ps : List Policy} {names : List String}
    {b : String × String} {es : List Event} {r : Report} {rs : List Report}
    (found : (Backend.fallback p.binary p.saveBinary).Does host s (names.map .looked) (.ok b) t)
    (family : r.family = Policy.familyName p.ipv6)
    (attempts : Attempts ⟨p.withBinaries b.1 b.2, traceId⟩ host t Compiler.teardown r.errors u)
    (rest : Removes traceId host
      (host.start u ((p.withBinaries b.1 b.2).argv listRules)).2 ps es rs v) :
    Removes traceId host s (p :: ps)
      (names.map .looked ++ (removal (p.withBinaries b.1 b.2) ++
        [(p.withBinaries b.1 b.2).argv listRules]).map .started ++ es) (r :: rs) v

/-- A run that removes a redirection and goes on after errors has a report on every host, after all
of its commands. -/
theorem exists_does_cleanup {p : Policy} (persists : Persists p) (traceId : String)
    (host : Host σ) (s : σ) :
    ∃ (es : List Event) (r : Report) (t : σ), (cleanup p traceId).Does host s es (.ok r) t ∧
      ∀ {ps fs rs u}, Removes traceId host t ps fs rs u →
        Removes traceId host s (p :: ps) (es ++ fs) (r :: rs) u := by
  obtain ⟨names, b, t, hfallback⟩ := Backend.onlyLooks_fallback p.binary p.saveBinary s
  let x : Executor := ⟨p.withBinaries b.1 b.2, traceId⟩
  have hresolved : (resolved p).Does host s (names.map .looked) (.ok x.policy) t :=
    hfallback.bind_nil (does_pure _)
  have huninstall := does_uninstall (x := x) ⟨persists.live, persists.goesOn⟩ host t
  rw [cleanup_eq_uninstall]
  exact ⟨_, _, _, hresolved.bind huninstall,
    fun rest => .cons hfallback rfl (attempts_records x t _) rest⟩

/-- **Runs that remove redirections do so on every host**, for one family or for both. -/
theorem exists_does_removals {v4 : Policy} {v6 : Option Policy}
    (persists : ∀ p ∈ v4 :: v6.toList, Persists p) (traceId : String) (host : Host σ) (s : σ) :
    ∃ (es : List Event) (rs : List Report) (t : σ),
      (dualStack .cleanup (cleanup v4 traceId) (v6.map fun p => cleanup p traceId)).Does host s es
        (.ok rs) t ∧ Removes traceId host s (v4 :: v6.toList) es rs t := by
  obtain ⟨es, r, t, hfirst, hremoves⟩ :=
    exists_does_cleanup (persists v4 List.mem_cons_self) traceId host s
  cases v6 with
  | none =>
    have hboth := hremoves (.nil t)
    rw [List.append_nil] at hboth
    exact ⟨es, [r], t, hfirst.bind_nil (does_pure _), hboth⟩
  | some v6 =>
    -- the second run starts from the state that the first one leaves
    obtain ⟨fs, r', u, hsecond, hremoves'⟩ :=
      exists_does_cleanup (persists v6 (by simp)) traceId host t
    have hboth := hremoves (hremoves' (.nil u))
    rw [List.append_nil] at hboth
    exact ⟨es ++ fs, [r, r'], u,
      hfirst.bind (hsecond.attempt.bind_nil (does_pure _)), hboth⟩

/-- What such runs write to the journal. -/
theorem exists_writes_removals {v4 : Policy} {v6 : Option Policy}
    (persists : ∀ p ∈ v4 :: v6.toList, Persists p) (traceId : String) (host : Host σ) (s : σ) :
    ∃ (said : List Event) (rs : List Report) (t : σ),
      (dualStack .cleanup (perform .cleanup v4 traceId)
        (v6.map fun p => perform .cleanup p traceId)).Writes host s said (.ok rs) t ∧
      Removes traceId host s (v4 :: v6.toList) (said.filter Event.isRequest) rs t := by
  obtain ⟨es, rs, t, hdoes, hremoves⟩ := exists_does_removals persists traceId host s
  have hstarts {p : Policy} (hp : p ∈ v4 :: v6.toList) :
      (perform .cleanup p traceId).StartsOnlyIf host (false = false) := by
    have hperform : (perform .cleanup p traceId).StartsOnlyIf host (p.simulate = false) :=
      startsOnlyIf_perform .cleanup p traceId
    rwa [(persists p hp).live] at hperform
  have hboth : (dualStack .cleanup (perform .cleanup v4 traceId)
      (v6.map fun p => perform .cleanup p traceId)).StartsOnlyIf host (false = false) := by
    refine startsOnlyIf_dualStack (hstarts List.mem_cons_self) fun leg hleg => ?_
    obtain ⟨p, hp, rfl⟩ := Option.mem_map.mp hleg
    exact hstarts (List.mem_cons_of_mem _ (Option.mem_toList.mpr hp))
  obtain ⟨said, hsaid, rfl⟩ := hboth.exists_writes hdoes
  exact ⟨said, rs, t, hsaid, hremoves⟩

/-- Policies go on after errors with any binaries. -/
theorem persists_withBinaries {v4 : Policy} {v6 : Option Policy}
    (persists : ∀ p ∈ v4 :: v6.toList, Persists p) (b b' : String × String) :
    ∀ p ∈ v4.withBinaries b.1 b.2 :: (v6.map fun p => p.withBinaries b'.1 b'.2).toList,
      Persists p := by
  have hkept {p : Policy} (h : Persists p) (b : String × String) :
      Persists (p.withBinaries b.1 b.2) := ⟨h.live, h.goesOn⟩
  refine List.forall_mem_cons.mpr ⟨hkept (persists v4 List.mem_cons_self) b, fun p hp => ?_⟩
  obtain ⟨q, hq, rfl⟩ := Option.mem_map.mp (Option.mem_toList.mp hp)
  exact hkept (persists q (by simp [Option.mem_def.mp hq])) b'

end Run

namespace CommandLine

open Run (Removes Persists)

/-- What is said about the failures in reports. -/
def warnings (rs : List Report) : List Event :=
  rs.flatMap fun r => r.errors.map fun f =>
    .logged ⟨.commandLine, .warning, some (r.family ++ ": " ++ f.message)⟩

theorem writes_warnings (rs : List Report) (s : σ) :
    (forIn rs PUnit.unit fun r _ => do
      for f in r.errors do
        note .commandLine .warning (r.family ++ ": " ++ f.message)
      pure (ForInStep.yield PUnit.unit) : Action σ PUnit).Writes host s (warnings rs)
        (.ok .unit) s := by
  refine writes_forIn (fun r => ?_) rs
  have hround (f : ProcessFailure) : (do
      note .commandLine .warning (r.family ++ ": " ++ f.message)
      pure (ForInStep.yield PUnit.unit) : Action σ (ForInStep PUnit)).Writes host s
        [.logged ⟨.commandLine, .warning, some (r.family ++ ": " ++ f.message)⟩]
        (.ok (.yield .unit)) s := (writes_record _).bind (writes_pure _)
  -- a round of the outer loop is a whole inner loop
  have herrors : (forIn r.errors PUnit.unit fun f _ => do
      note .commandLine .warning (r.family ++ ": " ++ f.message)
      pure (ForInStep.yield PUnit.unit) : Action σ PUnit).Writes host s _ (.ok .unit) s :=
    writes_forIn hround r.errors
  rw [← List.map_eq_flatMap] at herrors
  rw [← List.append_nil (r.errors.map _)]
  exact herrors.bind (writes_pure _)

/-- Where no time is given, none is set. -/
theorem writes_setCloseWait_unset {s : Settings} {planOnly : Bool} {t : σ}
    (unset : Policy.flag s .timeoutCloseWaitSecs = false) :
    (setCloseWait s planOnly).Writes host t [] (.ok ()) t := by
  have hzero : ∀ n, s.getD .timeoutCloseWaitSecs .null = .int n → n = 0 := by
    intro n hn
    simpa [Policy.flag, hn, Value.isTruthy] using unset
  rw [setCloseWait_eq_pure planOnly hzero]
  exact writes_pure ()

/-- **Removing redirections attempts everything, on every host.** With settings to remove a
redirection that are neither simulated nor for a script, that set no time and name a flavour, the run
ends well whenever there is a plan. After the binaries of the planned policies are settled, it makes
the requests of `Run.Removes`, family by family: all commands that remove a redirection and a
listing, whatever becomes of them. What it says at the end is about the commands that have failed. -/
theorem cleanup_attempts_all {argv : List String} {env : Environment} {a : Arguments}
    {s : Settings} (parsed : parse argv = .ok a)
    (merged : ((settings a env.read).run #[]).1 = .ok s) (asked : a.cleanup = true)
    (live : Policy.flag s .simulate = false) (unscripted : a.script.isTruthy = false)
    (unset : Policy.flag s .timeoutCloseWaitSecs = false) {m : Mode} (usual : m ∈ Backend.flavours)
    (named : s.getD .iptablesMode .null = .text m.name) {v4 : Policy} {v6 : Option Policy}
    {session : Session σ} (planned : ((policies s false).perform host session).1 = .ok (v4, v6))
    (t : σ) :
    let traceId := toString env.now.wholeSeconds
    ∃ (b b' : String × String) (probes said : List Event) (reports : List Report) (t' u : σ),
      let v4 := v4.withBinaries b.1 b.2
      let v6 := v6.map fun p => p.withBinaries b'.1 b'.2
      (policies s true).Writes host t probes (.ok (v4, v6)) t' ∧
      (Run.dualStack .cleanup (Run.perform .cleanup v4 traceId)
        (v6.map fun p => Run.perform .cleanup p traceId)).Writes host t' said (.ok reports) u ∧
      Removes traceId host t' (v4 :: v6.toList) (said.filter Event.isRequest) reports u ∧
      (run env a s).Writes host t (probes ++ said ++ warnings reports) (.ok ⟨"", none⟩) u := by
  intro traceId
  have built := planned_of_policies planned
  have hpersists := persists_of_gives_planned
    (flag_continueOnError (Logged.gives_of_run merged) asked) live (Logged.gives_of_run built)
  obtain ⟨probes, r, t', hprobes, -, hsettles⟩ :=
    ensures_policies_settles parsed (Logged.gives_of_run merged) built host t
  have htruthy : (s.getD .iptablesMode .null).isTruthy = true := by
    rw [named]
    cases m <;> rfl
  cases hsettles with
  | unnamed undetectable => exact absurd (Or.inl htruthy) undetectable
  | missing auto =>
    -- the flavour in use is not asked for
    have hall : ∀ m ∈ Backend.flavours, m.name ≠ Mode.auto.name := by decide
    rw [named] at auto
    exact absurd (Value.text.inj auto) (hall m usual)
  | settled _ b b' =>
    obtain ⟨said, reports, u, hsaid, hremoves⟩ :=
      Run.exists_writes_removals (Run.persists_withBinaries hpersists b b') traceId host t'
    refine ⟨b, b', probes, said, reports, t', u, hprobes, hsaid, hremoves, ?_⟩
    unfold run redirect
    rw [unscripted, asked, List.append_assoc probes said]
    -- the end of the run only says what has failed
    refine (writes_setCloseWait_unset unset).bind (hprobes.bind (hsaid.bind ?_))
    rw [← List.append_nil (warnings reports)]
    exact (writes_warnings reports u).bind (writes_pure _)

/-- The processes that remove a redirection with a binary. -/
def removedBy (binary : String) : List (List String) :=
  [[binary, "-t", "nat", "-D", "PREROUTING", "-j", "PROXY_INIT_REDIRECT", "-m", "comment",
      "--comment", "proxy-init/install-proxy-init-prerouting"],
    [binary, "-t", "nat", "-D", "OUTPUT", "-j", "PROXY_INIT_OUTPUT", "-m", "comment",
      "--comment", "proxy-init/install-proxy-init-output"],
    [binary, "-t", "nat", "-F", "PROXY_INIT_OUTPUT"],
    [binary, "-t", "nat", "-F", "PROXY_INIT_REDIRECT"],
    [binary, "-t", "nat", "-X", "PROXY_INIT_OUTPUT"],
    [binary, "-t", "nat", "-X", "PROXY_INIT_REDIRECT"]]

/-- Where nothing is installed, so that all commands fail, the run ends well after all of them. For
each family these are the six processes that remove a redirection, and then a listing. The reports
name the six. -/
theorem cleanup_attempts_all_untouched :
    ∃ (probes said : List Event) (reports : List Report),
      (run alone { removing with script := .text "" } removingSettings).Writes untouched ()
        (probes ++ said ++ warnings reports) (.ok ⟨"", none⟩) () ∧
      Removes "1700000000" untouched () [removed false, removed true]
        (said.filter Event.isRequest) reports () ∧
      Event.processes said =
        removedBy "iptables-legacy" ++ [["iptables-legacy-save", "-t", "nat"]] ++
          (removedBy "ip6tables-legacy" ++ [["ip6tables-legacy-save", "-t", "nat"]]) ∧
      reports.map (fun r => (r.family, r.errors.map ProcessFailure.argv)) =
        [("ipv4", removedBy "iptables-legacy"), ("ipv6", removedBy "ip6tables-legacy")] := by
  have hparsed : parse ["-p", "4143", "-o", "4140", "--cleanup"] =
      .ok { removing with script := .text "" } := rfl
  have hmerged : ((settings { removing with script := .text "" } alone.read).run #[]).1 =
      .ok removingSettings := rfl
  have hplanned : ((policies removingSettings false).perform untouched ⟨(), #[]⟩).1 =
      .ok (removed false, some (removed true)) := rfl
  obtain ⟨b, b', probes, said, reports, ⟨⟩, ⟨⟩, hpolicies, hsaid, hremoves, hrun⟩ :=
    cleanup_attempts_all hparsed hmerged rfl rfl rfl rfl
      (by decide : Mode.legacy ∈ Backend.flavours) rfl hplanned ()
  -- the flavour that is named is settled on, which is that of the planned policies
  have hsettled : ((policies removingSettings true).perform untouched ⟨(), #[]⟩).1 =
      .ok (removed false, some (removed true)) := rfl
  rw [hpolicies] at hsettled
  obtain ⟨hfirst, hsecond⟩ := Prod.mk.inj (Except.ok.inj hsettled)
  rw [hfirst, hsecond] at hsaid hremoves
  have hmem {P : Policy → Prop} (h : ∀ six, P (removed six)) :
      ∀ p ∈ removed false :: (some (removed true)).toList, P p := by simp [h]
  obtain ⟨fs, _, _, hdoes, hprocesses⟩ := Run.exists_does_cleanups
    (hmem fun six => (⟨rfl, rfl⟩ : Persists (removed six)))
    (hmem fun six => (fun _ => ⟨rfl, rfl⟩ : untouched.Knows (removed six))) "1700000000" ()
  obtain ⟨hrequests, -, -⟩ := hsaid.does.unique hdoes
  have hreports := congrArg (fun ended => ended.1.map fun rs =>
    rs.map fun r => (r.family, r.errors.map ProcessFailure.argv)) (hsaid #[])
  refine ⟨probes, said, reports, hrun, hremoves, ?_, Except.ok.inj hreports.symm⟩
  rw [← Event.processes_filter_isRequest, hrequests, hprocesses]
  decide

end CommandLine

end PodRedirect
