import PodRedirect.Proofs.Run
import PodRedirect.Script

/-!
# Previews

What a run will do can be seen beforehand in two ways: in the script of its plan, and in the records
of a simulated run. On a host where nothing is installed yet and no process fails, both show the
processes that the run starts between its two listings, argument for argument.

## Main results

* `Run.compile_congr`: a compilation looks at nothing of a listing but what is installed
* `Run.does_configure`, `Run.does_configure_simulated`: what a run does, and what a simulated one
  does
* `Run.previews_agree`: the processes, the script and the records are the same
-/

namespace PodRedirect

/-- The policy, simulated or not. -/
def Policy.simulated (p : Policy) (simulate : Bool) : Policy := { p with simulate := simulate }

namespace Run

open PodRedirect.Action

variable {σ : Type} {p : Policy} {traceId : String} {host : Host σ} {result : Compiler.Result}

/-- A compilation looks at nothing of a listing but what is installed. -/
theorem compile_congr {listing listing' : String}
    (h : Installed.scan listing = Installed.scan listing') :
    ((Compiler.new p traceId).compile listing).1 =
      ((Compiler.new p traceId).compile listing').1 := by
  simp only [Compiler.compile, h]

/-- Where nothing fails, a run lists the rules, runs the commands of its compilation, and lists the
rules again. -/
theorem does_configure (hrun : p.simulate = false) (knows : host.Knows p)
    (succeeds : host.Succeeds) (s : σ)
    (compiled : ∀ rules,
      Executor.answer ⟨p, traceId⟩ host (host.asked p s) listRules = .ok rules →
        ((Compiler.new p traceId).compile rules).1 = .ok result) :
    ∃ report t, (configure p traceId).Does host s
      ([.looked p.binary, .looked p.saveBinary] ++
        (p.argv listRules :: result.commands.map p.argv ++ [p.argv listRules]).map .started)
      (.ok report) t := by
  let x : Executor := ⟨p, traceId⟩
  -- the parts of the run in order, each from the state that the one before it leaves
  obtain ⟨rules, hrules⟩ := x.exists_answer succeeds (host.asked p s) listRules
  have hlisting := does_initialListing (x := x) hrun host (host.asked p s)
  have hcompile := does_compile p traceId rules host (x.next host (host.asked p s) listRules)
  rw [hrules] at hlisting
  rw [compiled rules hrules] at hcompile
  have hconclude : (conclude x rules result).Does host (x.next host (host.asked p s) listRules)
      _ _ _ := does_conclude hrun rules (Or.inr (x.error_of_succeeds succeeds))
  have hinstall : (install x).Does host (host.asked p s) _ _ _ :=
    (does_note _ _ _).bind (hlisting.bind (hcompile.bind hconclude))
  rw [configure_eq_install]
  exact ⟨_, _, (does_resolved knows s).bind hinstall⟩

section Simulated

variable {x : Executor} (host)

/-- The first listing of a simulated run is empty. -/
theorem does_initialListing_simulated (hsim : x.policy.simulate = true) (s : σ) :
    (initialListing x).Does host s [] (.ok "") s :=
  (x.does_execute_simulated host hsim listRules s).attempt.bind (does_pure "")

/-- So is the listing at its end. -/
theorem does_finalListing_simulated (hsim : x.policy.simulate = true) (s : σ) :
    (finalListing x).Does host s [] (.ok "") s :=
  (x.does_execute_simulated host hsim listRules s).attempt.bind (does_pure "")

end Simulated

/-- A simulated run only looks for its binaries, and takes it that nothing is installed. -/
theorem does_configure_simulated (hsim : p.simulate = true) (knows : host.Knows p) (s : σ)
    (compiled : ((Compiler.new p traceId).compile "").1 = .ok result) :
    ∃ report, report.records = result.commands.map (Executor.skipped ⟨p, traceId⟩) ∧
      (configure p traceId).Does host s [.looked p.binary, .looked p.saveBinary] (.ok report)
        (host.asked p s) := by
  let x : Executor := ⟨p, traceId⟩
  have hcompile := does_compile p traceId "" host (host.asked p s)
  rw [compiled] at hcompile
  have happly := x.does_apply_simulated host hsim result.commands (host.asked p s)
  have hfinal := does_finalListing_simulated (x := x) host hsim (host.asked p s)
  have hinitial := does_initialListing_simulated (x := x) host hsim (host.asked p s)
  have hconclude : (conclude x "" result).Does host (host.asked p s) []
      (.ok (report x "" result (result.commands.map x.skipped) "")) (host.asked p s) :=
    happly.bind (hfinal.bind (does_pure _))
  have hinstall : (install x).Does host (host.asked p s) [] _ (host.asked p s) :=
    (does_note _ _ _).bind (hinitial.bind (hcompile.bind hconclude))
  rw [configure_eq_install]
  exact ⟨_, rfl, (does_resolved knows s).bind_nil hinstall⟩

/-- **Previews are faithful**: on a host that knows the binaries of a policy, on which no process
fails and where the first listing shows nothing of a redirection, the processes between the two
listings of the run are the commands of the script of its plan, and those in the records of a
simulated run. The latter starts nothing, and all of its records are marked so. -/
theorem previews_agree
    (compiles : ∃ listing r, ((Compiler.new p traceId).compile listing).1 = .ok r)
    (knows : host.Knows p) (succeeds : host.Succeeds) (s : σ)
    (bare : ∀ output,
      (host.start (host.asked p s) (p.argv listRules)).1 = .exited 0 output →
        Installed.scan (output.getD "") = ⟨false, false, false, false⟩) :
    ∃ (result : Compiler.Result) (report preview : Report) (t u : σ),
      (plan p traceId "").Does host s [] (.ok result) s ∧
      (configure (p.simulated false) traceId).Does host s
        ([.looked p.binary, .looked p.saveBinary] ++ (p.argv listRules ::
          (Script.ofPolicy p result.commands result.warnings).commands ++
            [p.argv listRules]).map .started) (.ok report) t ∧
      (configure (p.simulated true) traceId).Does host s [.looked p.binary, .looked p.saveBinary]
        (.ok preview) u ∧
      preview.records.map ExecutionRecord.argv =
        (Script.ofPolicy p result.commands result.warnings).commands ∧
      ∀ r ∈ preview.records, r.skipped = true := by
  -- whether a policy compiles does not depend on the listing
  obtain ⟨result, compiled⟩ : ∃ r, ((Compiler.new p traceId).compile "").1 = .ok r := by
    obtain ⟨listing, hlisting⟩ := compiles
    exact (Compiler.exists_compile_iff p traceId "").mpr
      ((Compiler.exists_compile_iff p traceId listing).mp hlisting)
  have hplan := does_compile p traceId "" host s
  rw [compiled] at hplan
  -- the listing that the run is answered with shows nothing, as an empty one does
  have hlisted : ∀ rules,
      Executor.answer ⟨p.simulated false, traceId⟩ host (host.asked p s) listRules = .ok rules →
        ((Compiler.new (p.simulated false) traceId).compile rules).1 = .ok result := by
    intro rules hrules
    obtain ⟨output, houtput⟩ := succeeds (host.asked p s) (p.argv listRules)
    have hscan := bare output houtput
    obtain rfl : output.getD "" = rules := by
      have hanswer : Executor.judge (p.argv listRules)
          (host.start (host.asked p s) (p.argv listRules)).1 = .ok rules := hrules
      rw [houtput] at hanswer
      exact Except.ok.inj hanswer
    exact (compile_congr hscan).trans compiled
  -- neither the binaries of a policy nor its commands depend on whether it is simulated
  have hknows (simulate : Bool) : host.Knows (p.simulated simulate) := knows
  obtain ⟨report, t, hreal⟩ := does_configure rfl (hknows false) succeeds s hlisted
  have hplanned : ((Compiler.new (p.simulated true) traceId).compile "").1 = .ok result := compiled
  obtain ⟨preview, hrecords, hpreview⟩ := does_configure_simulated rfl (hknows true) s hplanned
  refine ⟨result, report, preview, t, _, hplan, hreal, hpreview, ?_, ?_⟩
  · rw [hrecords, List.map_map]
    rfl
  · rw [hrecords]
    intro r hr
    obtain ⟨c, -, rfl⟩ := List.mem_map.mp hr
    rfl

/-- A policy for another network namespace, whose commands wait for the lock on the rules. -/
def namespaced : Policy :=
  { Policy.sidecar with netns := "/proc/1/ns/net", useWaitFlag := true, continueOnError := true }

/-- The previews of a policy with rules of every kind, all of them run in another namespace. -/
theorem previews_agree_namespaced :
    ∃ (result : Compiler.Result) (report preview : Report) (t u : Unit),
      (configure (namespaced.simulated false) "1700000000").Does Host.quiet ()
        ([.looked "iptables", .looked "iptables-save"] ++ (namespaced.argv listRules ::
          (Script.ofPolicy namespaced result.commands result.warnings).commands ++
            [namespaced.argv listRules]).map .started) (.ok report) t ∧
      (configure (namespaced.simulated true) "1700000000").Does Host.quiet ()
        [.looked "iptables", .looked "iptables-save"] (.ok preview) u ∧
      preview.records.map ExecutionRecord.argv =
        (Script.ofPolicy namespaced result.commands result.warnings).commands ∧
      ["nsenter", "--net=/proc/1/ns/net", "--", "iptables", "-t", "nat", "-N", "PROXY_INIT_OUTPUT",
        "-w"] ∈ preview.records.map ExecutionRecord.argv := by
  have compiles : ∃ listing r, ((Compiler.new namespaced "1700000000").compile listing).1 = .ok r :=
    ⟨"", (Compiler.exists_compile_iff _ _ _).mpr
      ⟨by decide +kernel, fun _ => ⟨_, rfl⟩, fun _ => ⟨_, rfl⟩⟩⟩
  have knows : Host.quiet.Knows namespaced := fun _ => ⟨rfl, rfl⟩
  obtain ⟨result, report, preview, t, u, hplan, hreal, hpreview, hargvs, -⟩ :=
    previews_agree compiles knows (fun _ _ => ⟨none, rfl⟩) ()
      (fun output houtput => by cases houtput; decide)
  refine ⟨result, report, preview, t, u, hreal, hpreview, hargvs, ?_⟩
  obtain ⟨-, hresult, -⟩ := hplan.unique (does_compile namespaced "1700000000" "" Host.quiet ())
  obtain ⟨-, rfl⟩ := (Compiler.compile_eq_ok_iff _ _).mp hresult.symm
  rw [hargvs]
  decide +kernel

end Run

end PodRedirect
