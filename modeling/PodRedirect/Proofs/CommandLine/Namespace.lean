import PodRedirect.Proofs.CommandLine.Rejection
import PodRedirect.Proofs.Namespace

/-!
# Runs inside a network namespace

Where the settings name a network namespace, everything that a run lists or changes of the rules is
listed and changed inside it, for both families of addresses and both purposes. The time that
connections are remembered for is a setting of the kernel: it is set before that, with a process
that does not enter the namespace.

## Main results

* `CommandLine.confined_redirect`: a run without the time stays inside the namespace
* `CommandLine.run_inside_namespace`: the processes of a whole run
-/

namespace PodRedirect

open PodRedirect.Action

open Policy (Inside)

variable {σ : Type} {host : Host σ} {s : Settings} {ns : String}

namespace CommandLine

/-! ## Policies -/

/-- The policies that are planned have the namespace that is given. -/
theorem netns_of_gives_planned (given : s.getD .netns .null = .text ns) {v4 : Policy}
    {v6 : Option Policy} (planned : (planned s).Gives (v4, v6)) :
    ∀ p ∈ v4 :: v6.toList, p.netns = ns := by
  obtain ⟨hfirst, hsecond⟩ := built_of_gives_planned planned
  intro p hp
  rcases List.mem_cons.mp hp with rfl | hp
  · exact hfirst.netns.trans (Policy.text_of_getD given)
  · -- the paths that the second policy does without have no part in it
    have given' : (withoutPaths s).getD .netns .null = .text ns :=
      ((sameBut_withoutPaths s).getD (by decide) .null).trans given
    have hnetns := (hsecond p (Option.mem_toList.mp hp)).netns
    exact hnetns.trans (Policy.text_of_getD given')

theorem confined_settled {p : Policy} (inside : p.netns ≠ "") (mode : Value) (explicit : Bool) :
    (settled p mode explicit).Confined host (Inside p.netns) :=
  (Run.confined_resolveBackend inside mode explicit).bind fun _ =>
    Confined.after_note (confined_pure _)

/-- The binaries of policies are settled inside the namespace that is given. -/
theorem confined_policies (given : s.getD .netns .null = .text ns) (nonempty : ns ≠ "") :
    (policies s true).Confined host (Inside ns) := by
  have hplanned : (ofLogged (planned s) : Action σ (Policy × Option Policy)).Ensures host False
      fun r => r = ((planned s).run #[]).1 := ensures_ofLogged (planned s)
  rw [policies_eq]
  refine hplanned.confined_bind ?_
  rintro ⟨v4, v6⟩ hp
  have hnetns := netns_of_gives_planned given (Logged.gives_of_run hp.symm)
  have hsettles {p : Policy} (hp : p ∈ v4 :: v6.toList) (mode : Value) (explicit : Bool) :
      (settled p mode explicit).Confined host (Inside ns) := by
    rw [← hnetns p hp]
    exact confined_settled (hnetns p hp ▸ nonempty) mode explicit
  refine (hsettles List.mem_cons_self _ _).bind fun v4' => ?_
  cases v6 with
  | none => exact confined_pure _
  | some v6 => exact (hsettles (by simp) _ _).bind fun v6' => confined_pure _

/-! ## Runs -/

/-- The process that sets the time does not enter a namespace. -/
theorem not_inside_closeWaitProcess (ns seconds : String) :
    ¬Inside ns (closeWaitProcess seconds) := by
  rintro ⟨inner, h, -⟩
  have hcommand : "sysctl" = "nsenter" := (List.cons.inj h).1
  exact absurd hcommand (by decide)

theorem SetsTime.not_inside {planOnly : Bool} {t : σ} {time : List (List String)}
    {ended : Except Failure Unit} (h : SetsTime s planOnly host t time ended) {argv : List String}
    (hargv : argv ∈ time) : ¬Inside ns argv := by
  cases h with
  | leaves | unwritable => cases hargv
  | sets | fails =>
    rw [List.mem_singleton.mp hargv]
    exact not_inside_closeWaitProcess ns _

/-- **Everything that a run does to the rules is done inside the namespace** that is given, whatever
the run is for. -/
theorem confined_redirect (given : s.getD .netns .null = .text ns) (nonempty : ns ≠ "")
    (env : Environment) (a : Arguments) (host : Host σ) :
    (redirect env a s).Confined host (Inside ns) := by
  unfold redirect
  cases a.script.isTruthy with
  | true =>
    -- a script is written without a request
    refine Confined.bind (computes_policies s).confined fun policies => ?_
    refine Confined.bind (computes_except _).confined fun path => ?_
    exact (computes_writeScript env path _ _ _).confined
  | false =>
    have hnetns : (policies s true).Ensures host (Policy.flag s .simulate = false)
        fun r => ∀ v4 v6, r = .ok (v4, v6) → ∀ p ∈ v4 :: v6.toList, p.netns = ns :=
      ensures_policies s (fun _ _ h => h) fun _ _ => netns_of_gives_planned given
    refine (confined_policies given nonempty).bind_ensures hnetns ?_
    rintro ⟨v4, v6⟩ hpolicies
    have hleg {p : Policy} (hp : p ∈ v4 :: v6.toList) (purpose : Run.Purpose) (traceId : String) :
        (Run.perform purpose p traceId).Confined host (Inside ns) := by
      have hns := hpolicies v4 v6 rfl p hp
      rw [← hns]
      exact Run.confined_perform (hns ▸ nonempty) purpose traceId
    refine Confined.bind (Run.confined_dualStack (hleg List.mem_cons_self _ _) ?_) fun reports => ?_
    · intro leg hmem
      obtain ⟨p, hp, rfl⟩ := Option.mem_map.mp hmem
      exact hleg (List.mem_cons_of_mem _ (Option.mem_toList.mpr hp)) _ _
    · -- what has failed in a run is only logged
      refine Ensures.confined_bind (returns_forIn (fun r => ?_) reports) fun _ _ => confined_pure _
      refine Returns.bind (returns_forIn (fun f => ?_) r.errors) fun _ _ => returns_pure trivial
      exact Ensures.after_note (returns_pure trivial)

/-- **A run acts inside the namespace that is given, but for the time.** On every host, it first sets
the time as `SetsTime` says, with at most one process, which does not enter the namespace. Every
process after that enters it, and does so once: those that find out the flavour in use, that list
rules and that change them, for both families of addresses. So all processes of the run are inside
the namespace exactly if no time is set. -/
theorem run_inside_namespace (given : s.getD .netns .null = .text ns) (nonempty : ns ≠ "")
    (env : Environment) (a : Arguments) (host : Host σ) (t : σ) :
    ∃ (time : List (List String)) (ended : Except Failure Unit) (es : List Event)
      (r : Except Failure Written) (u : σ),
      SetsTime s a.script.isTruthy host t time ended ∧ (run env a s).Does host t es r u ∧
      (∃ rest, Event.processes es = time ++ rest ∧ ∀ argv ∈ rest, Inside ns argv) ∧
      ((∀ argv ∈ Event.processes es, Inside ns argv) ↔ time = []) := by
  obtain ⟨time, ended, u, hset, hsets⟩ := exists_does_setCloseWait s a.script.isTruthy host t
  have hrun : ∃ es r v, (run env a s).Does host t es r v ∧
      ∃ rest, Event.processes es = time ++ rest ∧ ∀ argv ∈ rest, Inside ns argv := by
    unfold run
    cases ended with
    | error f =>
      refine ⟨_, _, u, hset.bind_error, [], ?_, nofun⟩
      rw [Event.processes_map_started, List.append_nil]
    | ok _ =>
      obtain ⟨es, r, v, hdoes, hinside⟩ := confined_redirect given nonempty env a host u
      refine ⟨_, r, v, hset.bind hdoes, Event.processes es, ?_, hinside⟩
      rw [Event.processes_append, Event.processes_map_started]
  obtain ⟨es, r, v, hdoes, rest, hes, hinside⟩ := hrun
  refine ⟨time, ended, es, r, v, hsets, hdoes, ⟨rest, hes, hinside⟩, ?_⟩
  rw [hes]
  constructor
  · intro hall
    by_contra hne
    obtain ⟨argv, hmem⟩ := List.exists_mem_of_ne_nil time hne
    exact hsets.not_inside hmem (hall argv (List.mem_append_left rest hmem))
  · rintro rfl
    exact hinside

/-- Arguments to install a redirection for version 4 of the addresses inside a namespace. -/
def enclosed : Arguments where
  given := [(.incomingProxyPort, .int 4143), (.outgoingProxyPort, .int 4140), (.ipv6, .flag false),
    (.netns, .text "/proc/1/ns/net")]
  cleanup := false
  config := .text ""
  script := .text ""

/-- The same, with a time that is set before. -/
def enclosedTimed : Arguments :=
  { enclosed with given := enclosed.given ++ [(.timeoutCloseWaitSecs, .int 3600)] }

/-- Without a time, all processes are inside the namespace. -/
theorem run_inside_namespace_enclosed :
    ∃ es r u, (run alone enclosed (Settings.defaults.update enclosed.given)).Does Host.quiet () es r
      u ∧ ∀ argv ∈ Event.processes es, Inside "/proc/1/ns/net" argv := by
  obtain ⟨time, ended, es, r, u, hsets, hdoes, -, hiff⟩ := run_inside_namespace
    (rfl : (Settings.defaults.update enclosed.given).getD .netns .null = .text "/proc/1/ns/net")
    (by decide) alone enclosed Host.quiet ()
  have hleaves : LeavesTime (Settings.defaults.update enclosed.given) enclosed.script.isTruthy :=
    fun n hn nonzero => absurd (Value.int.inj hn).symm nonzero
  exact ⟨es, r, u, hdoes, hiff.mpr (hsets.leaves_iff.mpr hleaves).1⟩

/-- With one, the process that sets it is not. -/
theorem closeWait_outside_namespace :
    parse ["-p", "4143", "-o", "4140", "--no-ipv6", "--netns", "/proc/1/ns/net",
      "--timeout-close-wait-secs", "3600"] = .ok enclosedTimed ∧
    ((settings enclosedTimed alone.read).run #[]).1 =
      .ok (Settings.defaults.update enclosedTimed.given) ∧
    ∃ es r u, (run alone enclosedTimed (Settings.defaults.update enclosedTimed.given)).Does Host.quiet
      () es r u ∧ ∃ argv ∈ Event.processes es, ¬Inside "/proc/1/ns/net" argv := by
  refine ⟨rfl, rfl, ?_⟩
  have hset : (setCloseWait (Settings.defaults.update enclosedTimed.given)
      enclosedTimed.script.isTruthy).Does Host.quiet ()
        [.started (closeWaitProcess "3600")] (.ok ()) () :=
    (does_setCloseWait_live (rfl : Numeral.write 3600 = .ok "3600") Host.quiet ()).bind_nil
      (does_pure ())
  obtain ⟨es, r, u, hrest, -⟩ := confined_redirect
    (rfl : (Settings.defaults.update enclosedTimed.given).getD .netns .null =
      .text "/proc/1/ns/net") (by decide) alone enclosedTimed Host.quiet ()
  exact ⟨_, r, u, hset.bind hrest, _, List.mem_cons_self, not_inside_closeWaitProcess _ "3600"⟩

end CommandLine

end PodRedirect
