import PodRedirect.Proofs.Backend.Pair
import PodRedirect.Proofs.CommandLine.Given
import PodRedirect.Proofs.Script
import PodRedirect.Proofs.Script.Written
import PodRedirect.Proofs.Shell.Execution

/-!
# Removing a redirection

A run that removes redirections goes on after errors, so that it starts every command for every
family of addresses, whatever becomes of them. The script for it has the same commands in the same
order, but a shell ends it at the first command that fails. The two start the same commands only
where nothing fails before the last one.

## Main definitions

* `Run.removal`: the processes that remove the redirection of a policy
* `CommandLine.removalScript`: the script of them

## Main results

* `Run.does_uninstall`, `Run.exists_does_cleanups`: a run that removes redirections starts all of
  them
* `CommandLine.does_writeScript`, `CommandLine.read_removalScript`: what is written, and the
  commands of it
* `CommandLine.removals_agree_iff`: when the script and the run start the same commands
* `CommandLine.removals_disagree`: a host on which they do not
-/

namespace PodRedirect

open PodRedirect.Action

variable {σ : Type} {host : Host σ}

/-! ## Runs -/

namespace Run

/-- The processes that remove the redirection of a policy. -/
def removal (p : Policy) : List (List String) := Compiler.teardown.map p.argv

/-- A policy whose commands are run, and all of them even after errors. -/
structure Persists (p : Policy) : Prop where
  live : p.simulate = false
  goesOn : p.continueOnError = true

/-- The report of a run that has removed a redirection. -/
def removalReport (x : Executor) (records : List ExecutionRecord) (finalRules : String) :
    Report where
  family := Policy.familyName x.policy.ipv6
  traceId := x.traceId
  binary := x.policy.binary
  saveBinary := x.policy.saveBinary
  initialRules := ""
  finalRules := finalRules
  result := none
  records := records
  warnings := []

/-- The run of a policy whose binaries are settled. -/
def uninstall (x : Executor) : Action σ Report := do
  announce x.traceId
  Action.note .run .debug ("using \"" ++ x.policy.binary ++ "\" to clean up firewall rules")
  Action.note .run .debug
    ("using \"" ++ x.policy.saveBinary ++ "\" to list all available rules")
  let records ← x.apply Compiler.teardown
  let finalRules ← finalListing x
  return removalReport x records finalRules

theorem cleanup_eq_uninstall (p : Policy) (traceId : String) :
    (cleanup p traceId : Action σ Report) = resolved p >>= fun p => uninstall ⟨p, traceId⟩ := rfl

/-- Where it goes on after errors, such a run starts all of its processes, and lists the rules. -/
theorem does_uninstall {x : Executor} (persists : Persists x.policy) (host : Host σ) (s : σ) :
    (uninstall x).Does host s ((removal x.policy ++ [x.policy.argv listRules]).map .started)
      (.ok (removalReport x (x.records host s Compiler.teardown)
        (closing (x.answer host (x.last host s Compiler.teardown) listRules))))
      (x.next host (x.last host s Compiler.teardown) listRules) := by
  have hmapM : (Compiler.teardown.mapM x.applyOne).Does host s _ _ _ :=
    x.does_mapM_applyOne host persists.live (Or.inl persists.goesOn)
  have happly := x.does_apply host hmapM
  have hlisting := does_finalListing (x := x) persists.live host (x.last host s Compiler.teardown)
  rw [List.map_append, removal, List.map_map]
  -- what is noted before the processes is no request
  refine (does_note _ _ _).bind ((does_note _ _ _).bind ((does_note _ _ _).bind ?_))
  exact happly.bind (hlisting.bind_nil (does_pure _))

/-- On a host that knows the binaries, a run that removes a redirection and goes on after errors
starts all of its processes, and lists the rules. -/
theorem does_cleanup {x : Executor} (persists : Persists x.policy) (knows : host.Knows x.policy)
    (s : σ) :
    let t := x.last host (host.asked x.policy s) Compiler.teardown
    (cleanup x.policy x.traceId).Does host s
      ([.looked x.policy.binary, .looked x.policy.saveBinary] ++
        (removal x.policy ++ [x.policy.argv listRules]).map .started)
      (.ok (removalReport x (x.records host (host.asked x.policy s) Compiler.teardown)
        (closing (x.answer host t listRules))))
      (x.next host t listRules) := by
  rw [cleanup_eq_uninstall]
  exact (does_resolved knows s).bind (does_uninstall persists host _)

/-- **A run for one family of addresses or for both starts all processes**, one family after the
other. -/
theorem exists_does_cleanups {v4 : Policy} {v6 : Option Policy}
    (persists : ∀ p ∈ v4 :: v6.toList, Persists p) (knows : ∀ p ∈ v4 :: v6.toList, host.Knows p)
    (traceId : String) (s : σ) :
    ∃ es reports t,
      (dualStack .cleanup (cleanup v4 traceId) (v6.map fun p => cleanup p traceId)).Does host s es
        (.ok reports) t ∧
      Event.processes es =
        (v4 :: v6.toList).flatMap fun p => removal p ++ [p.argv listRules] := by
  have hfirst := does_cleanup (x := ⟨v4, traceId⟩) (persists v4 List.mem_cons_self)
    (knows v4 List.mem_cons_self) s
  -- a look-up is no process
  have hprocesses (p : Policy) : Event.processes ([.looked p.binary, .looked p.saveBinary] ++
      (removal p ++ [p.argv listRules]).map .started) = removal p ++ [p.argv listRules] := by
    rw [Event.processes_append, Event.processes_map_started]
    rfl
  cases v6 with
  | none =>
    refine ⟨_, _, _, hfirst.bind_nil (does_pure _), ?_⟩
    simp only [Option.toList_none, List.flatMap_cons, List.flatMap_nil, List.append_nil]
    exact hprocesses v4
  | some v6 =>
    have hmem : v6 ∈ v4 :: (some v6).toList := by simp
    have hsecond := does_cleanup (x := ⟨v6, traceId⟩) (persists v6 hmem) (knows v6 hmem)
    -- the second run starts from the state that the first one leaves
    refine ⟨_, _, _, hfirst.bind ((hsecond _).attempt.bind_nil (does_pure _)), ?_⟩
    rw [Event.processes_append, hprocesses, hprocesses]
    simp

end Run

/-! ## Scripts -/

namespace CommandLine

open Run (removal Persists)

/-- The script that removes the redirections of policies. -/
def removalScript (ps : List Policy) (traceId : String) : String :=
  Script.render (ps.map fun p => Script.ofPolicy p Compiler.teardown []) traceId
    (ps.any Policy.simulate)

theorem scriptFor_cleanup (ps : List Policy) (traceId : String) :
    scriptFor ps traceId true = .ok (removalScript ps traceId) := by
  have hsections : (ps.mapM fun p => sectionFor p traceId true) =
      .ok (ps.map fun p => Script.ofPolicy p Compiler.teardown []) := List.mapM_pure
  rw [scriptFor, hsections]
  rfl

/-- The script that removes redirections is written without a request to the host. -/
theorem does_writeScript (env : Environment) (path : String) (ps : List Policy) (traceId : String)
    (s : σ) :
    (writeScript env path ps traceId true).Does host s []
      (written env path (removalScript ps traceId)) s := by
  have hwrite := computes_writeScript (σ := σ) env path ps traceId true
  rw [scriptFor_cleanup] at hwrite
  exact hwrite host s

/-- A shell reads the script as the processes of the policies, one after the other. -/
theorem read_removalScript {ps : List Policy} (oneLine : ∀ p ∈ ps, p.OneLine .cleanup)
    {traceId : String} (htrace : '\n' ∉ traceId.toList) :
    Shell.read (removalScript ps traceId) = some (Shell.strictly :: ps.flatMap removal) := by
  have hsections : ∀ s ∈ ps.map (fun p => Script.ofPolicy p Compiler.teardown []), s.OneLine := by
    intro s hs
    obtain ⟨p, hp, rfl⟩ := List.mem_map.mp hs
    exact Script.oneLine_ofPolicy (oneLine p hp) _ fun w hw => absurd hw List.not_mem_nil
  have hsays := Script.says_render (fun s hs => (hsections s hs).isComment_summary)
    (fun s hs => (hsections s hs).says_lines) htrace (ps.any Policy.simulate)
  rw [List.flatMap_map] at hsays
  exact hsays.read

/-- None of the processes is the command that tells a shell to end at the first failure. -/
theorem strictly_not_mem_removal (ps : List Policy) : Shell.strictly ∉ ps.flatMap removal := by
  intro h
  obtain ⟨p, -, hp⟩ := List.mem_flatMap.mp h
  obtain ⟨c, hc, heq⟩ := List.mem_map.mp hp
  -- the process has more words than the command
  have hlength := congrArg List.length heq
  simp only [Compiler.teardown, List.mem_cons, List.not_mem_nil, or_false] at hc
  rcases hc with rfl | rfl | rfl | rfl | rfl | rfl <;>
    simp [Policy.argv, Policy.wrap, Shell.strictly, Rule.deleteJump, Rule.jumpSpec, Rule.flushChain,
      Rule.deleteChain, Command.commentArgs, Command.isDump] at hlength <;>
    split at hlength <;> simp at hlength

/-! ## Settings -/

/-- Settings to remove a redirection say that the run goes on after errors. -/
theorem flag_continueOnError {a : Arguments} {read : String → FileContent} {s : Settings}
    (merged : (settings a read).Gives s) (asked : a.cleanup = true) :
    Policy.flag s .continueOnError = true := by
  obtain ⟨file, -, rfl⟩ := exists_file_of_merged merged
  rw [mergedWith, if_pos asked, Policy.flag, Settings.getD, Settings.get?_set, if_pos rfl]
  rfl

/-- The settings without paths are the same but for the paths. -/
theorem sameBut_withoutPaths (s : Settings) : Policy.SameBut Policy.paths (withoutPaths s) s :=
  Policy.sameBut_withPaths s "" ""

/-- The policies are built from the settings, the second one without the paths of binaries. -/
theorem built_of_gives_planned {s : Settings} {v4 : Policy} {v6 : Option Policy}
    (h : (planned s).Gives (v4, v6)) :
    Policy.Built s false v4 ∧ ∀ p ∈ v6, Policy.Built (withoutPaths s) true p := by
  obtain ⟨first, hfirst, h⟩ := h.of_bind
  split at h
  · obtain ⟨second, hsecond, h⟩ := h.of_bind
    cases h.of_pure
    refine ⟨Policy.built_of_gives hfirst, fun p hp => ?_⟩
    exact Option.mem_some.mp hp ▸ Policy.built_of_gives hsecond
  · cases h.of_pure
    exact ⟨Policy.built_of_gives hfirst, fun p hp => absurd hp (Option.not_mem_none p)⟩

/-- The policies are simulated, and go on after errors, if the settings say so. -/
theorem flags_of_gives_planned {s : Settings} {v4 : Policy} {v6 : Option Policy}
    (h : (planned s).Gives (v4, v6)) : ∀ p ∈ v4 :: v6.toList,
      p.simulate = Policy.flag s .simulate ∧
      p.continueOnError = Policy.flag s .continueOnError := by
  obtain ⟨hfirst, hsecond⟩ := built_of_gives_planned h
  intro p hp
  rcases List.mem_cons.mp hp with rfl | hp
  · exact ⟨hfirst.simulate, hfirst.continueOnError⟩
  · have hbuilt := hsecond p (Option.mem_toList.mp hp)
    have same := sameBut_withoutPaths s
    exact ⟨hbuilt.simulate.trans (same.flag (by decide)),
      hbuilt.continueOnError.trans (same.flag (by decide))⟩

/-- The policies go on after errors and are run, if the settings say so. -/
theorem persists_of_gives_planned {s : Settings} {v4 : Policy} {v6 : Option Policy}
    (goesOn : Policy.flag s .continueOnError = true) (live : Policy.flag s .simulate = false)
    (h : (planned s).Gives (v4, v6)) : ∀ p ∈ v4 :: v6.toList, Persists p := by
  intro p hp
  obtain ⟨hsimulate, hcontinue⟩ := flags_of_gives_planned h p hp
  exact ⟨hsimulate.trans live, hcontinue.trans goesOn⟩

/-- The names of a pair have no line end. -/
theorem newline_not_mem_pair (six : Bool) (m : Mode) :
    '\n' ∉ (Backend.pair six m).1.toList ∧ '\n' ∉ (Backend.pair six m).2.toList := by
  cases m <;> cases six <;> decide

/-- Without paths the binaries are the usual ones, so that their names stay on a line. -/
theorem oneLine_of_withoutPaths {s : Settings} {six : Bool} {p : Policy}
    (h : Policy.Built (withoutPaths s) six p) : p.OneLine .cleanup := by
  -- a path that is empty stands for the usual name
  have hpaths : ∀ k, k = .firewallBinPath ∨ k = .firewallSaveBinPath →
      Policy.flag (withoutPaths s) k = false := by
    rintro k (rfl | rfl) <;> simp [withoutPaths, Policy.flag, Settings.getD, Settings.get?_set,
      Value.isTruthy]
  obtain ⟨mode, hbinaries⟩ :=
    h.exists_defaultBinaries (hpaths _ (Or.inl rfl)) (hpaths _ (Or.inr rfl))
  obtain ⟨m, hpair⟩ := Backend.exists_of_defaultBinaries hbinaries
  obtain ⟨hbinary, hsave⟩ := Prod.mk.inj hpair
  obtain ⟨hline, hline'⟩ := newline_not_mem_pair six m
  exact ⟨hbinary ▸ hline, hsave ▸ hline', by rintro ⟨⟩⟩

/-! ## Both -/

/-- **The script and the run start the same commands where nothing fails but perhaps the last one.**
Settings to remove a redirection let the run go on after errors, so that it starts all commands, and
a listing for each family. The script starts those up to the first that fails, whatever the
settings say. -/
theorem removals_agree_iff {env : Environment} {a : Arguments} {s : Settings}
    (merged : ((settings a env.read).run #[]).1 = .ok s) (asked : a.cleanup = true)
    (live : Policy.flag s .simulate = false) {v4 : Policy} {v6 : Option Policy}
    (built : ((planned s).run #[]).1 = .ok (v4, v6)) (oneLine : v4.OneLine .cleanup)
    (knows : ∀ p ∈ v4 :: v6.toList, host.Knows p) (path : String) (t : σ) :
    let traceId := toString env.now.wholeSeconds
    let script := removalScript (v4 :: v6.toList) traceId
    let removals := (v4 :: v6.toList).flatMap removal
    ∃ es reports u v,
      (writeScript env path (v4 :: v6.toList) traceId a.cleanup).Does host t []
        (written env path script) t ∧
      (Shell.execute script).Does host t ((Shell.reached host t removals).map .started) (.ok ()) u ∧
      (Run.dualStack .cleanup (Run.perform .cleanup v4 traceId)
        (v6.map fun p => Run.perform .cleanup p traceId)).Does host t es (.ok reports) v ∧
      Event.processes es = ((v4 :: v6.toList).flatMap fun p =>
        removal p ++ [p.argv Run.listRules]) ∧
      Shell.reached host t removals <+: removals ∧
      (Shell.reached host t removals = removals ↔ Shell.OnlyLastFails host t removals) := by
  intro traceId script removals
  have planned := Logged.gives_of_run built
  have persists := persists_of_gives_planned
    (flag_continueOnError (Logged.gives_of_run merged) asked) live planned
  have oneLines : ∀ p ∈ v4 :: v6.toList, p.OneLine .cleanup := by
    intro p hp
    rcases List.mem_cons.mp hp with rfl | hp
    · exact oneLine
    · -- the paths of binaries are for the first policy only
      exact oneLine_of_withoutPaths
        ((built_of_gives_planned planned).2 p (Option.mem_toList.mp hp))
  have htrace : '\n' ∉ traceId.toList := fun hmem => by
    rcases Text.isDigit_of_mem_toString hmem with h | h <;> simp at h
  -- the template has the shell end at the first failure, whatever the policies say
  obtain ⟨u, hscript⟩ := Shell.does_execute_strict host (read_removalScript oneLines htrace)
    (strictly_not_mem_removal _) t
  obtain ⟨es, reports, v, hrun, hprocesses⟩ :=
    Run.exists_does_cleanups persists knows traceId t
  refine ⟨es, reports, u, v, ?_, hscript, hrun, hprocesses, Shell.reached_prefix t removals,
    Shell.reached_eq_iff t removals⟩
  rw [asked]
  exact does_writeScript env path _ traceId t

/-- Arguments to remove a redirection, or to write the script for that to the output. -/
def removing : Arguments where
  given := [(.incomingProxyPort, .int 4143), (.outgoingProxyPort, .int 4140)]
  cleanup := true
  config := .text ""
  script := .text "-"

/-- The settings with these arguments. -/
def removingSettings : Settings :=
  (Settings.defaults.update removing.given).set .continueOnError (.flag true)

/-- A policy with these settings. -/
def removed (six : Bool) : Policy where
  inboundPort := 4143
  outboundPort := 4140
  ipv6 := six
  redirect := .all
  uid := -1
  gid := -1
  redirectPorts := []
  inboundIgnored := []
  outboundIgnored := []
  subnets := []
  netns := ""
  simulate := false
  useWaitFlag := false
  continueOnError := true
  binary := if six then "ip6tables-legacy" else "iptables-legacy"
  saveBinary := if six then "ip6tables-legacy-save" else "iptables-legacy-save"
  proxyLoopback := false
  dropFin := false

/-- A program without files around it. -/
def alone : Environment where
  now := .ofInt 1700000000
  read _ := .error ⟨2, "No such file or directory"⟩
  write _ _ := none

theorem settings_removing : ((settings removing alone.read).run #[]).1 = .ok removingSettings := rfl

theorem planned_removing :
    ((planned removingSettings).run #[]).1 = .ok (removed false, some (removed true)) := rfl

/-- Where no process fails, the script and the run remove both redirections. -/
theorem removals_agree_quiet :
    ∃ es reports u v,
      (Shell.execute (removalScript [removed false, removed true] "1700000000")).Does Host.quiet ()
        (([removed false, removed true].flatMap removal).map .started) (.ok ()) u ∧
      (Run.dualStack .cleanup (Run.perform .cleanup (removed false) "1700000000")
        (some (Run.perform .cleanup (removed true) "1700000000"))).Does Host.quiet () es
          (.ok reports) v ∧
      Event.processes es = [removed false, removed true].flatMap fun p =>
        removal p ++ [p.argv Run.listRules] := by
  have oneLine : (removed false).OneLine .cleanup := ⟨by decide, by decide, fun h => nomatch h⟩
  have knows : ∀ p ∈ [removed false, removed true], Host.quiet.Knows p := fun _ _ _ => ⟨rfl, rfl⟩
  obtain ⟨es, reports, u, v, -, hscript, hrun, hprocesses, -, hiff⟩ :=
    removals_agree_iff settings_removing rfl rfl planned_removing oneLine knows "-" ()
  have hreached := hiff.mpr (Shell.onlyLastFails_of_succeeds (fun _ _ => ⟨none, rfl⟩) () _)
  rw [hreached] at hscript
  exact ⟨es, reports, u, v, hscript, hrun, hprocesses⟩

/-- A host that knows all names and has nothing to remove: a process that deletes or empties
something fails. -/
def untouched : Host Unit where
  resolves _ _ := (true, ())
  start _ argv := (.exited (if ["-D", "-F", "-X"].any argv.contains then 1 else 0) none, ())

/-- The script starts one process where there is nothing to remove, and the run starts them all. -/
theorem removals_disagree :
    ∃ es fs reports u v,
      ((settings removing alone.read).run #[]).1 = .ok removingSettings ∧
      ((planned removingSettings).run #[]).1 = .ok (removed false, some (removed true)) ∧
      (writeScript alone "-" [removed false, removed true] "1700000000" true).Does untouched () []
        (.ok ⟨removalScript [removed false, removed true] "1700000000", none⟩) () ∧
      (Shell.execute (removalScript [removed false, removed true] "1700000000")).Does untouched ()
        es (.ok ()) u ∧
      (Run.dualStack .cleanup (Run.perform .cleanup (removed false) "1700000000")
        (some (Run.perform .cleanup (removed true) "1700000000"))).Does untouched () fs
          (.ok reports) v ∧
      Event.processes es = [["iptables-legacy", "-t", "nat", "-D", "PREROUTING", "-j",
        "PROXY_INIT_REDIRECT", "-m", "comment", "--comment",
        "proxy-init/install-proxy-init-prerouting"]] ∧
      (Event.processes fs).filter (fun argv => ["-D", "-F", "-X"].any argv.contains) =
        [removed false, removed true].flatMap removal ∧
      ([removed false, removed true].flatMap removal).length = 12 := by
  have oneLine (six : Bool) : (removed six).OneLine .cleanup := by
    cases six <;> exact ⟨by decide, by decide, fun h => nomatch h⟩
  have persists (six : Bool) : Persists (removed six) := ⟨rfl, rfl⟩
  have hmem {P : Policy → Prop} (h : ∀ six, P (removed six)) :
      ∀ p ∈ removed false :: (some (removed true)).toList, P p := by simp [h]
  have knows (six : Bool) : untouched.Knows (removed six) := fun _ => ⟨rfl, rfl⟩
  obtain ⟨u, hscript⟩ := Shell.does_execute_strict untouched
    (read_removalScript (hmem oneLine) (by decide : '\n' ∉ "1700000000".toList))
    (strictly_not_mem_removal _) ()
  obtain ⟨fs, reports, v, hrun, hprocesses⟩ :=
    Run.exists_does_cleanups (hmem persists) (hmem knows) "1700000000" ()
  refine ⟨_, fs, reports, u, v, settings_removing, planned_removing, ?_, hscript, hrun, ?_, ?_,
    by decide⟩
  · exact does_writeScript alone "-" _ "1700000000" ()
  · rw [Event.processes_map_started]
    decide
  · rw [hprocesses]
    decide

end CommandLine

end PodRedirect
