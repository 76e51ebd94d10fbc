import PodRedirect.Proofs.Backend.Detect
import PodRedirect.Proofs.Cleanup
import PodRedirect.Proofs.DualStack

/-!
# Runs that leave the host alone

A run starts processes at four places: to set the time that connections are remembered for, to find
out the flavour in use, to list rules and to change them. At none of them is one started if the run
is simulated, and a run that writes a script comes to the first of them only. Such a run asks the
host for nothing at all.

## Main definitions

* `CommandLine.scripted`: the script that a run writes

## Main results

* `CommandLine.startsOnlyIf_run`: a run starts processes only if it is neither simulated nor for a
  script
* `CommandLine.computes_run`: a run for a script has the same script on every host
* `CommandLine.dryRun_leaves_host`: both of them
-/

namespace PodRedirect

open PodRedirect.Action

variable {σ : Type} {host : Host σ} {live : Prop}

namespace Run

/-- Two runs start processes only if one of them does. -/
theorem startsOnlyIf_dualStack {purpose : Purpose} {v4 : Action σ Report}
    {v6 : Option (Action σ Report)} (first : v4.StartsOnlyIf host live)
    (second : ∀ leg ∈ v6, leg.StartsOnlyIf host live) :
    (dualStack purpose v4 v6).StartsOnlyIf host live := by
  refine first.bind fun report => ?_
  cases v6 with
  | none => exact ensures_pure trivial
  | some leg =>
    refine Returns.bind (second leg rfl).attempt fun r _ => ?_
    -- whatever the second run ends with, nothing is started after it
    cases r with
    | ok report' => exact ensures_pure trivial
    | error f =>
      cases f with
      | noBinary _ | mishap _ => exact ensures_throw trivial
      | port _ | rejected _ | process _ | stated _ =>
        exact Ensures.after_note (ensures_pure trivial)

theorem startsOnlyIf_setCloseWait (seconds : Int) (simulate : Bool) :
    (setCloseWait seconds simulate).StartsOnlyIf host (simulate = false) := by
  refine Ensures.bind (ensures_except _) (fun text _ => Ensures.after_note ?_) fun _ _ => trivial
  cases simulate with
  | true => exact ensures_pure trivial
  | false =>
    refine (returns_start _ rfl).bind fun outcome _ => ?_
    cases Executor.judge _ outcome with
    | ok output => exact Ensures.after_note (ensures_pure trivial)
    | error f =>
      dsimp only
      split
      · exact Ensures.after_note (ensures_throw trivial)
      · exact ensures_throw trivial

/-- A simulated run only says what it would set the time to. -/
theorem computes_setCloseWait (seconds : Int) :
    (setCloseWait seconds true : Action σ String).Computes
      ((Numeral.write seconds).mapError Failure.ofNumeral >>= fun _ => .ok "") :=
  (computes_except _).bind fun _ => (computes_note _ _ _).bind fun _ => computes_pure ""

/-- The policy is the one before its binaries were settled but for these. -/
theorem Resolves.exists_withBinaries {p q : Policy} {requested : Value} {explicit : Bool}
    {selection : Selection} (h : Resolves host p requested explicit (.ok (q, selection))) :
    ∃ b : String × String, q = p.withBinaries b.1 b.2 := by
  cases h with
  | given | missing => exact ⟨(p.binary, p.saveBinary), rfl⟩
  | selected => exact ⟨(_, _), rfl⟩

end Run

namespace CommandLine

/-! ## Processes -/

theorem startsOnlyIf_setCloseWait (s : Settings) (planOnly : Bool) :
    (setCloseWait s planOnly).StartsOnlyIf host
      ((Policy.flag s .simulate || planOnly) = false) := by
  unfold setCloseWait
  split
  · split
    · exact (Run.startsOnlyIf_setCloseWait _ _).bind fun _ => ensures_pure trivial
    · exact ensures_pure trivial
  · exact ensures_pure trivial

/-- Without a time to set, nothing is done about it. -/
theorem setCloseWait_eq_pure {s : Settings} (planOnly : Bool)
    (unset : ∀ n, s.getD .timeoutCloseWaitSecs .null = .int n → n = 0) :
    (setCloseWait s planOnly : Action σ Unit) = pure () := by
  unfold setCloseWait
  split
  next n hn => exact if_neg (not_not_intro (unset n hn))
  next => rfl

/-- Settling the binaries of a policy changes nothing else of it. -/
theorem ensures_settled (p : Policy) (mode : Value) (explicit : Bool) :
    (settled p mode explicit).Ensures host (p.simulate = false)
      fun r => ∀ q, r = .ok q → ∃ b : String × String, q = p.withBinaries b.1 b.2 := by
  refine (Run.ensures_resolveBackend p mode explicit).bind ?_ fun _ _ _ hq => nomatch hq
  rintro ⟨q, selection⟩ hresolves
  refine Ensures.after_note (ensures_pure ?_)
  rintro _ ⟨⟩
  exact hresolves.exists_withBinaries

/-- The policies that are run are the planned ones but for their binaries. -/
theorem ensures_policies_withBinaries (s : Settings) :
    (policies s true).Ensures host (Policy.flag s .simulate = false)
      fun r => ∀ q, r = .ok q → ∃ (v4 : Policy) (v6 : Option Policy) (b b' : String × String),
        (planned s).Gives (v4, v6) ∧
        q = (v4.withBinaries b.1 b.2, v6.map fun p => p.withBinaries b'.1 b'.2) := by
  refine (ensures_ofLogged (planned s)).bind ?_ fun f _ _ hf => nomatch hf
  rintro ⟨v4, v6⟩ hplanned
  have hgives := Logged.gives_of_run hplanned.symm
  have hsettles {p : Policy} (hp : p ∈ v4 :: v6.toList) (mode : Value) (explicit : Bool) :
      (settled p mode explicit).Ensures host (Policy.flag s .simulate = false)
        fun r => ∀ q, r = .ok q → ∃ b : String × String, q = p.withBinaries b.1 b.2 := by
    rw [← (flags_of_gives_planned hgives p hp).1]
    exact ensures_settled p mode explicit
  refine (hsettles List.mem_cons_self _ _).bind (fun v4' hv4 => ?_) fun f _ _ hf => nomatch hf
  obtain ⟨b, rfl⟩ := hv4 v4' rfl
  cases v6 with
  | none =>
    refine ensures_pure ?_
    rintro _ ⟨⟩
    exact ⟨v4, none, b, b, hgives, rfl⟩
  | some v6 =>
    refine (hsettles (by simp) _ _).bind (fun v6' hv6 => ?_) fun f _ _ hf => nomatch hf
    obtain ⟨b', rfl⟩ := hv6 v6' rfl
    refine ensures_pure ?_
    rintro _ ⟨⟩
    exact ⟨v4, some v6, b, b', hgives, rfl⟩

/-- A property of all planned policies that does not depend on their binaries is one of the policies
that are run. -/
theorem ensures_policies {C : Policy → Prop} (s : Settings)
    (kept : ∀ (p : Policy) (b : String × String), C p → C (p.withBinaries b.1 b.2))
    (holds : ∀ v4 v6, (planned s).Gives (v4, v6) → ∀ p ∈ v4 :: v6.toList, C p) :
    (policies s true).Ensures host (Policy.flag s .simulate = false)
      fun r => ∀ v4 v6, r = .ok (v4, v6) → ∀ p ∈ v4 :: v6.toList, C p := by
  refine (ensures_policies_withBinaries s).mono ?_
  rintro r hr v4' v6' rfl
  obtain ⟨v4, v6, b, b', hgives, heq⟩ := hr _ rfl
  obtain ⟨rfl, rfl⟩ := Prod.mk.inj heq
  have hall := holds v4 v6 hgives
  refine List.forall_mem_cons.mpr ⟨kept v4 b (hall v4 List.mem_cons_self), fun p hp => ?_⟩
  obtain ⟨q, hq, rfl⟩ := Option.mem_map.mp (Option.mem_toList.mp hp)
  exact kept q b' (hall q (List.mem_cons_of_mem _ (Option.mem_toList.mpr hq)))

/-- What is done to the rules starts processes only if it is not simulated. -/
theorem startsOnlyIf_redirect (env : Environment) {a : Arguments}
    (unscripted : a.script.isTruthy = false) (s : Settings) :
    (redirect env a s).StartsOnlyIf host (Policy.flag s .simulate = false) := by
  unfold redirect
  rw [unscripted]
  -- binaries are settled first, and all policies that are run come from these
  have hsimulate : (policies s true).Ensures host (Policy.flag s .simulate = false)
      fun r => ∀ v4 v6, r = .ok (v4, v6) →
        ∀ p ∈ v4 :: v6.toList, p.simulate = Policy.flag s .simulate :=
    ensures_policies s (fun _ _ h => h) fun v4 v6 h p hp => (flags_of_gives_planned h p hp).1
  refine Ensures.bind hsimulate ?_ fun _ _ => trivial
  rintro ⟨v4, v6⟩ hpolicies
  have hleg {p : Policy} (hp : p ∈ v4 :: v6.toList) (purpose : Run.Purpose) (traceId : String) :
      (Run.perform purpose p traceId).StartsOnlyIf host (Policy.flag s .simulate = false) :=
    hpolicies v4 v6 rfl p hp ▸ Run.startsOnlyIf_perform purpose p traceId
  refine StartsOnlyIf.bind (Run.startsOnlyIf_dualStack (hleg List.mem_cons_self _ _) ?_)
    fun reports => ?_
  · intro leg hmem
    obtain ⟨p, hp, rfl⟩ := Option.mem_map.mp hmem
    exact hleg (List.mem_cons_of_mem _ (Option.mem_toList.mpr hp)) _ _
  · -- what has failed in a run is only logged
    refine Returns.bind (returns_forIn (fun r => ?_) reports) fun _ _ => ensures_pure trivial
    refine Returns.bind (returns_forIn (fun f => ?_) r.errors) fun _ _ => returns_pure trivial
    exact Ensures.after_note (returns_pure trivial)

/-- A run that is not for a script starts processes only if it is not simulated. -/
theorem startsOnlyIf_run (env : Environment) {a : Arguments}
    (unscripted : a.script.isTruthy = false) (s : Settings) :
    (run env a s).StartsOnlyIf host (Policy.flag s .simulate = false) := by
  have hwait : (setCloseWait s false).StartsOnlyIf host (Policy.flag s .simulate = false) :=
    Bool.or_false (Policy.flag s .simulate) ▸ startsOnlyIf_setCloseWait s false
  unfold run
  rw [unscripted]
  exact hwait.bind fun _ => startsOnlyIf_redirect env unscripted s

/-! ## Scripts -/

/-- What a run for a script finds out about the time that connections are remembered for: nothing
but that the number can be written. -/
def closeWaitChecked (s : Settings) : Except Failure Unit :=
  match s.getD .timeoutCloseWaitSecs .null with
  | .int n =>
    if n ≠ 0 then do
      let _ ← (Numeral.write n).mapError Failure.ofNumeral
      return
    else return
  | _ => return

/-- The script that a run writes, and its path. -/
def scripted (a : Arguments) (s : Settings) (traceId : String) :
    Except Failure (String × String) := do
  closeWaitChecked s
  let (v4, v6) ← ((planned s).run #[]).1
  let path ← a.script.said
  let script ← scriptFor (v4 :: v6.toList) traceId a.cleanup
  return (path, script)

theorem computes_setCloseWait (s : Settings) :
    (setCloseWait s true : Action σ Unit).Computes (closeWaitChecked s) := by
  unfold setCloseWait closeWaitChecked
  rw [Bool.or_true]
  cases s.getD .timeoutCloseWaitSecs .null with
  | int n =>
    dsimp only
    split
    · have h := (Run.computes_setCloseWait (σ := σ) n).bind fun _ => computes_pure ()
      rw [bind_assoc] at h
      exact h
    · exact computes_pure ()
  | _ => exact computes_pure ()

theorem computes_policies (s : Settings) :
    (policies s false : Action σ (Policy × Option Policy)).Computes ((planned s).run #[]).1 := by
  have hplanned : (policies s false : Action σ (Policy × Option Policy)) = ofLogged (planned s) :=
    bind_pure _
  rw [hplanned]
  exact computes_ofLogged (planned s)

/-- A run for a script writes the same script on every host, without a request. -/
theorem computes_run (env : Environment) {a : Arguments} (asked : a.script.isTruthy = true)
    (s : Settings) : (run env a s : Action σ Written).Computes
      (scripted a s (toString env.now.wholeSeconds) >>= fun script =>
        written env script.1 script.2) := by
  unfold run redirect scripted
  rw [asked]
  -- the parts of the run and those of its result go together once neither is nested
  simp only [bind_assoc, pure_bind]
  refine (computes_setCloseWait s).bind fun _ => (computes_policies s).bind fun policies => ?_
  exact (computes_except _).bind fun path => computes_writeScript env path _ _ _

/-- **A simulated run and a run for a script leave the host alone.** With all settings, for both
purposes and whatever it ends with, such a run starts no process. One for a script does not even
look for a binary, and what it writes is `scripted`, which depends on the arguments, the settings
and the identifier of the run only, so that it is the same on every host. -/
theorem dryRun_leaves_host {a : Arguments} {s : Settings}
    (dry : Policy.flag s .simulate = true ∨ a.script.isTruthy = true) (env : Environment)
    (host : Host σ) (t : σ) :
    (∃ es r u, (run env a s).Does host t es r u ∧ Event.processes es = []) ∧
    (a.script.isTruthy = true →
      (run env a s).Does host t []
        (scripted a s (toString env.now.wholeSeconds) >>= fun script =>
          written env script.1 script.2) t) := by
  refine ⟨?_, fun asked => computes_run env asked s host t⟩
  cases hscript : a.script.isTruthy with
  | true => exact ⟨[], _, t, computes_run env hscript s host t, rfl⟩
  | false =>
    -- the run is for no script, so that it is a simulated one
    have hsimulate : Policy.flag s .simulate = true := by simpa [hscript] using dry
    exact (startsOnlyIf_run env hscript s).exists_does (by simp [hsimulate]) t

/-- On a host where nothing is installed: a simulated run that removes a redirection, and the script
for that. -/
theorem dryRun_leaves_host_removing :
    (∃ es r u, (run alone { removing with script := .null }
        (removingSettings.set .simulate (.flag true))).Does untouched () es r u ∧
      Event.processes es = []) ∧
    (run alone removing removingSettings).Does untouched () []
      (.ok ⟨removalScript [removed false, removed true] "1700000000", none⟩) () :=
  ⟨(dryRun_leaves_host (Or.inl rfl) alone untouched ()).1,
    (dryRun_leaves_host (Or.inr rfl) alone untouched ()).2 rfl⟩

end CommandLine

end PodRedirect
