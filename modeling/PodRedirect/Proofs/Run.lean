import PodRedirect.Proofs.Compilation
import PodRedirect.Proofs.Executor
import PodRedirect.Run

/-!
# What a run does

A run that installs a policy asks for names until it has a pair of binaries, and from then on starts
processes only: a listing, the commands of the compilation, and a closing listing. It may end after
the first listing, if that or the compilation fails, or after a command that fails. Nothing is
changed before a listing has succeeded.

## Main definitions

* `Run.Configures`: the processes and the end of a run whose binaries are settled

## Main results

* `Run.configure_shape`: the requests of a run that installs a policy, and what it gives
-/

namespace PodRedirect.Run

open PodRedirect.Action
open Rule (natTable)

variable {σ : Type}

/-- The command that lists the rules. -/
abbrev listRules : Command := Command.dump natTable

/-! ## Listings -/

section Listings

variable {x : Executor}

/-- The rules of a listing at the end of a run, or none if it has failed. -/
def closing : Except ProcessFailure String → String
  | .ok rules => rules
  | .error _ => ""

theorem does_initialListing (hrun : x.policy.simulate = false) (host : Host σ) (s : σ) :
    (initialListing x).Does host s [.started (x.policy.argv listRules)]
      ((x.answer host s listRules).mapError .process)
      (x.next host s listRules) := by
  refine (x.does_execute host hrun _ s).attempt.bind_nil ?_
  cases x.answer host s listRules with
  | ok rules => exact does_pure rules
  | error f => exact (does_note _ _ _).bind (does_throw _)

theorem does_finalListing (hrun : x.policy.simulate = false) (host : Host σ) (s : σ) :
    (finalListing x).Does host s [.started (x.policy.argv listRules)]
      (.ok (closing (x.answer host s listRules)))
      (x.next host s listRules) := by
  refine (x.does_execute host hrun _ s).attempt.bind_nil ?_
  cases x.answer host s listRules with
  | ok rules => exact does_pure rules
  | error f => exact (does_note _ _ _).bind (does_pure _)

end Listings

/-- The binaries of a policy stay as they are on a host that knows them. -/
theorem does_resolved {p : Policy} {host : Host σ} (knows : host.Knows p) (s : σ) :
    (resolved p).Does host s [.looked p.binary, .looked p.saveBinary] (.ok p) (host.asked p s) :=
  (Backend.does_fallback knows s).bind_nil (does_pure _)

/-- A compilation makes no request. -/
theorem does_compile (p : Policy) (traceId listing : String) (host : Host σ) (s : σ) :
    (compile p traceId listing).Does host s [] ((Compiler.new p traceId).compile listing).1 s := by
  unfold compile
  rcases (Compiler.new p traceId).compile listing with ⟨result, c, said⟩
  refine (does_forIn_logged said).bind ?_
  cases result with
  | ok result => exact does_pure result
  | error f => exact does_throw f

/-! ## Runs that install a policy -/

/-- The report of a run that has come to its end. -/
def report (x : Executor) (initialRules : String) (result : Compiler.Result)
    (records : List ExecutionRecord) (finalRules : String) : Report where
  family := Policy.familyName x.policy.ipv6
  traceId := x.traceId
  binary := x.policy.binary
  saveBinary := x.policy.saveBinary
  initialRules := initialRules
  finalRules := finalRules
  result := some result
  records := records
  warnings := result.warnings

/-- The processes of a run on behalf of `x`, which finds the host in state `s`, and its end. The
rules are listed first, and the commands are those of the compilation against that listing. -/
inductive Configures (x : Executor) (host : Host σ) (s : σ) :
    List (List String) → Except Failure Report → Prop where
  /-- The listing fails, and nothing else is started. -/
  | unlisted {f : ProcessFailure} (listed : x.answer host s listRules = .error f) :
      Configures x host s [x.policy.argv listRules] (.error (.process f))
  /-- The compilation fails, and nothing else is started. A token or a number is too long for it. -/
  | uncompiled {rules : String} {f : Failure}
      (listed : x.answer host s listRules = .ok rules)
      (compiled : ((Compiler.new x.policy x.traceId).compile rules).1 = .error f)
      (tooLong : ¬((∀ token ∈ x.policy.inboundIgnored ++ x.policy.outboundIgnored,
          Port.Legible token) ∧ (0 < x.policy.uid → Numeral.Writable x.policy.uid) ∧
        (0 < x.policy.gid → Numeral.Writable x.policy.gid))) :
      Configures x host s [x.policy.argv listRules] (.error f)
  /-- A command fails, and the run does not go on after errors: the commands before it have not
  failed, and nothing is started after it. -/
  | stopped {rules : String} {result : Compiler.Result} {pre post : List Command} {c : Command}
      {f : ProcessFailure}
      (listed : x.answer host s listRules = .ok rules)
      (compiled : ((Compiler.new x.policy x.traceId).compile rules).1 = .ok result)
      (stops : x.policy.continueOnError = false) (commands : result.commands = pre ++ c :: post)
      (before : ∀ r ∈ x.records host (x.next host s listRules) pre, r.error = none)
      (failed : x.answer host (x.last host (x.next host s listRules) pre) c =
        .error f) :
      Configures x host s (x.policy.argv listRules :: (pre ++ [c]).map x.policy.argv)
        (.error (.process f))
  /-- All commands are run, since none fails or the run goes on after errors, and a listing after
  them, whose failure does not matter. -/
  | finished {rules : String} {result : Compiler.Result}
      (listed : x.answer host s listRules = .ok rules)
      (compiled : ((Compiler.new x.policy x.traceId).compile rules).1 = .ok result)
      (goesOn : x.policy.continueOnError = true ∨
        ∀ r ∈ x.records host (x.next host s listRules) result.commands,
          r.error = none) :
      Configures x host s
        (x.policy.argv listRules :: result.commands.map x.policy.argv ++
          [x.policy.argv listRules])
        (.ok (report x rules result
          (x.records host (x.next host s listRules) result.commands)
          (closing (x.answer host (x.last host (x.next host s listRules) result.commands)
            listRules))))

/-- The run of a policy whose binaries are settled, after the first listing. -/
def conclude (x : Executor) (initialRules : String) (result : Compiler.Result) :
    Action σ Report := do
  let records ← x.apply result.commands
  let finalRules ← finalListing x
  return report x initialRules result records finalRules

/-- The run of a policy whose binaries are settled. -/
def install (x : Executor) : Action σ Report := do
  announce x.traceId
  let initialRules ← initialListing x
  let result ← compile x.policy x.traceId initialRules
  conclude x initialRules result

theorem configure_eq_install (p : Policy) (traceId : String) :
    (configure p traceId : Action σ Report) = resolved p >>= fun p => install ⟨p, traceId⟩ := rfl

variable {x : Executor} {host : Host σ} {s : σ}

/-- Commands of which none fails, or all of which are run, are followed by a listing. -/
theorem does_conclude (hrun : x.policy.simulate = false) (rules : String) {result : Compiler.Result}
    (goesOn : x.policy.continueOnError = true ∨
      ∀ r ∈ x.records host s result.commands, r.error = none) :
    (conclude x rules result).Does host s
      ((result.commands.map x.policy.argv ++ [x.policy.argv listRules]).map .started)
      (.ok (report x rules result (x.records host s result.commands)
        (closing (x.answer host (x.last host s result.commands) listRules))))
      (x.next host (x.last host s result.commands) listRules) := by
  have happly := x.does_apply host (x.does_mapM_applyOne host hrun goesOn)
  have hclosing := does_finalListing hrun host (x.last host s result.commands)
  rw [List.map_append, List.map_map]
  exact happly.bind (hclosing.bind_nil (does_pure _))

/-- A command that fails is the last process, if the run does not go on after errors. -/
theorem does_conclude_of_error (hrun : x.policy.simulate = false) (rules : String)
    {result : Compiler.Result} (stops : x.policy.continueOnError = false)
    {pre post : List Command} {c : Command} (commands : result.commands = pre ++ c :: post)
    (before : ∀ r ∈ x.records host s pre, r.error = none) {f : ProcessFailure}
    (failed : x.answer host (x.last host s pre) c = .error f) :
    (conclude x rules result).Does host s (((pre ++ [c]).map x.policy.argv).map .started)
      (.error (.process f)) (x.last host s (pre ++ [c])) := by
  have hmapM := x.does_mapM_applyOne_of_error host hrun stops post before failed
  rw [← commands] at hmapM
  rw [List.map_map]
  exact (x.does_apply host hmapM).bind_error

/-- A run whose binaries are settled starts processes only, as the phases of such a run say. -/
theorem exists_does_install (hrun : x.policy.simulate = false) (host : Host σ) (s : σ) :
    ∃ argvs r t, (install x).Does host s (argvs.map .started) r t ∧
      Configures x host s argvs r := by
  have hlisting := does_initialListing hrun host s
  -- what is answered to the listing decides first, and then each phase of the run
  cases hlisted : x.answer host s listRules with
  | error f =>
    rw [hlisted] at hlisting
    refine ⟨[x.policy.argv listRules], .error (.process f), x.next host s listRules, ?_,
      .unlisted hlisted⟩
    exact (does_note _ _ _).bind hlisting.bind_error
  | ok rules =>
    rw [hlisted] at hlisting
    have hcompile := does_compile x.policy x.traceId rules host (x.next host s listRules)
    cases hcompiled : ((Compiler.new x.policy x.traceId).compile rules).1 with
    | error f =>
      rw [hcompiled] at hcompile
      refine ⟨[x.policy.argv listRules], .error f, x.next host s listRules, ?_,
        .uncompiled hlisted hcompiled ?_⟩
      · exact (does_note _ _ _).bind (hlisting.bind_nil hcompile.bind_error)
      · intro h
        obtain ⟨result, hresult⟩ := (Compiler.exists_compile_iff _ _ rules).mpr h
        rw [hcompiled] at hresult
        cases hresult
    | ok result =>
      rw [hcompiled] at hcompile
      have hinstall {argvs : List (List String)} {r : Except Failure Report} {t : σ}
          (h : (conclude x rules result).Does host (x.next host s listRules)
            (argvs.map .started) r t) :
          (install x).Does host s ((x.policy.argv listRules :: argvs).map .started) r t :=
        (does_note _ _ _).bind (hlisting.bind (hcompile.bind h))
      by_cases hgoesOn : x.policy.continueOnError = true ∨
          ∀ r ∈ x.records host (x.next host s listRules) result.commands, r.error = none
      · exact ⟨_, _, _, hinstall (does_conclude hrun rules hgoesOn),
          .finished hlisted hcompiled hgoesOn⟩
      · rw [not_or, Bool.not_eq_true] at hgoesOn
        obtain ⟨hstops, hfails⟩ := hgoesOn
        -- there is a first command that fails
        rcases x.records_cases host (x.next host s listRules) result.commands with
          hall | ⟨pre, c, post, f, hcommands, hbefore, hfailed⟩
        · exact absurd hall hfails
        · exact ⟨_, _, _,
            hinstall (does_conclude_of_error hrun rules hstops hcommands hbefore hfailed),
            .stopped hlisted hcompiled hstops hcommands hbefore hfailed⟩

/-- **What a run that installs a policy does**, on any host: it asks for names until it has a pair
of binaries, and then it starts the processes of `Run.Configures`, in order, and ends as that says.
The records of a report are those of the commands, one for each and in order. -/
theorem configure_shape {p : Policy} (hrun : p.simulate = false) (traceId : String) (host : Host σ)
    (s : σ) :
    ∃ (names : List String) (binary saveBinary : String) (t : σ) (argvs : List (List String))
        (r : Except Failure Report) (u : σ),
      (Backend.fallback p.binary p.saveBinary).Does host s (names.map .looked)
        (.ok (binary, saveBinary)) t ∧
      (configure p traceId).Does host s (names.map .looked ++ argvs.map .started) r u ∧
      Configures ⟨p.withBinaries binary saveBinary, traceId⟩ host t argvs r ∧
      ∀ report, r = .ok report → ∃ result, report.result = some result ∧
        report.records.map ExecutionRecord.command = result.commands ∧
        report.records.map ExecutionRecord.argv =
          result.commands.map (p.withBinaries binary saveBinary).argv := by
  obtain ⟨names, ⟨binary, saveBinary⟩, t, hfallback⟩ :=
    Backend.onlyLooks_fallback p.binary p.saveBinary s
  let x : Executor := ⟨p.withBinaries binary saveBinary, traceId⟩
  have hresolved : (resolved p).Does host s (names.map .looked)
      (.ok (p.withBinaries binary saveBinary)) t := hfallback.bind_nil (does_pure _)
  obtain ⟨argvs, r, u, hinstall, hshape⟩ := exists_does_install (x := x) hrun host t
  refine ⟨names, binary, saveBinary, t, argvs, r, u, hfallback, ?_, hshape, ?_⟩
  · rw [configure_eq_install]
    exact hresolved.bind hinstall
  · rintro report rfl
    cases hshape with
    | finished listed compiled goesOn =>
      exact ⟨_, rfl, x.map_command_records host _ _, x.map_argv_records host _ _⟩

/-- A host that knows all names and counts processes, of which the third one fails. -/
def thirdFails : Host Nat where
  resolves n _ := (true, n)
  start n _ := (.exited (if n = 2 then 1 else 0) none, n + 1)

/-- A run that ends after three processes: the listing, a command, and one that fails. -/
theorem configure_shape_sidecar :
    ∃ binary saveBinary t r,
      Configures ⟨Policy.sidecar.withBinaries binary saveBinary, "1700000000"⟩ thirdFails t
        [["iptables-save", "-t", "nat"], ["iptables", "-t", "nat", "-N", "PROXY_INIT_REDIRECT"],
          ["iptables", "-t", "nat", "-A", "PROXY_INIT_REDIRECT", "-p", "tcp", "--match",
            "multiport", "--dports", "4190,4191:4199", "-j", "RETURN", "-m", "comment",
            "--comment", "proxy-init/ignore-port-4190,4191:4199/1700000000"]] r := by
  obtain ⟨names, binary, saveBinary, t, argvs, r, u, -, hdoes, hshape, -⟩ :=
    configure_shape (rfl : Policy.sidecar.simulate = false) "1700000000" thirdFails 0
  have hprocesses := hdoes.processes_perform
  rw [Event.processes_append, Event.processes_map_looked, Event.processes_map_started,
    List.nil_append] at hprocesses
  refine ⟨binary, saveBinary, t, r, ?_⟩
  rw [← hprocesses] at hshape
  have hjournal : Event.processes (Event.requests
      ((configure Policy.sidecar "1700000000").perform thirdFails ⟨0, #[]⟩).2.journal) =
        [["iptables-save", "-t", "nat"], ["iptables", "-t", "nat", "-N", "PROXY_INIT_REDIRECT"],
          ["iptables", "-t", "nat", "-A", "PROXY_INIT_REDIRECT", "-p", "tcp", "--match",
            "multiport", "--dports", "4190,4191:4199", "-j", "RETURN", "-m", "comment",
            "--comment", "proxy-init/ignore-port-4190,4191:4199/1700000000"]] := by
    decide +kernel
  rwa [hjournal] at hshape

end PodRedirect.Run
