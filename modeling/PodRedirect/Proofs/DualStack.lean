import PodRedirect.Proofs.Backend.Pair
import PodRedirect.Proofs.Direction

/-!
# Runs for both families of addresses

The run for version 4 of the addresses is the same with a run for version 6 after it as without one:
what the second one does comes after all that the first one does, and it does nothing if the first
one fails. Its own failure does not undo the report of the first one, unless the host lacks the
binaries for it or the failure is not an expected one.

## Main definitions

* `Run.Leg`: the runs for one family of addresses
* `Run.Joins`: what comes of the second run, and of both

## Main results

* `Run.startsOnlyIf_perform`: a run of a simulated policy starts no process
* `Run.dualStack_isolates`: the first run is not affected by the second
-/

namespace PodRedirect.Run

open PodRedirect.Action

variable {σ : Type} {host : Host σ} {live : Prop}

/-! ## Single runs -/

/-- The policy that is run differs in its binaries only. -/
theorem returns_resolved_withBinaries (p : Policy) :
    (resolved p).Returns host live fun q =>
      ∃ binary saveBinary, q = p.withBinaries binary saveBinary :=
  Returns.bind (Backend.returns_fallback p.binary p.saveBinary).of_idle fun b _ =>
    returns_pure ⟨b.1, b.2, rfl⟩

theorem startsOnlyIf_initialListing (x : Executor) :
    (initialListing x).StartsOnlyIf host (x.policy.simulate = false) := by
  refine (x.ensures_run _).attempt.bind fun r _ => ?_
  cases r with
  | ok rules => exact ensures_pure trivial
  | error f => exact Ensures.after_note (ensures_throw trivial)

theorem startsOnlyIf_finalListing (x : Executor) :
    (finalListing x).StartsOnlyIf host (x.policy.simulate = false) := by
  refine (x.ensures_run _).attempt.bind fun r _ => ?_
  cases r with
  | ok rules => exact ensures_pure trivial
  | error f => exact Ensures.after_note (ensures_pure trivial)

theorem startsOnlyIf_compile (p : Policy) (traceId listing : String) :
    (compile p traceId listing).StartsOnlyIf host live := by
  unfold compile
  rcases (Compiler.new p traceId).compile listing with ⟨result, c, said⟩
  refine (returns_forIn_logged said).bind fun _ _ => ?_
  cases result with
  | ok result => exact ensures_pure trivial
  | error f => exact ensures_throw trivial

theorem startsOnlyIf_configure (p : Policy) (traceId : String) :
    (configure p traceId).StartsOnlyIf host (p.simulate = false) := by
  refine (returns_resolved_withBinaries p).bind ?_
  rintro _ ⟨binary, saveBinary, rfl⟩
  let x : Executor := ⟨p.withBinaries binary saveBinary, traceId⟩
  refine Ensures.after_note ?_
  refine (startsOnlyIf_initialListing x).bind fun rules => ?_
  refine (startsOnlyIf_compile _ _ _).bind fun result => ?_
  refine (x.startsOnlyIf_apply _).bind fun records => ?_
  exact (startsOnlyIf_finalListing x).bind fun rules' => ensures_pure trivial

theorem startsOnlyIf_cleanup (p : Policy) (traceId : String) :
    (cleanup p traceId).StartsOnlyIf host (p.simulate = false) := by
  refine (returns_resolved_withBinaries p).bind ?_
  rintro _ ⟨binary, saveBinary, rfl⟩
  let x : Executor := ⟨p.withBinaries binary saveBinary, traceId⟩
  refine Ensures.after_note (Ensures.after_note (Ensures.after_note ?_))
  refine (x.startsOnlyIf_apply _).bind fun records => ?_
  exact (startsOnlyIf_finalListing x).bind fun rules => ensures_pure trivial

/-- A run of a policy that is simulated starts no process, whatever it is for. -/
theorem startsOnlyIf_perform (purpose : Purpose) (p : Policy) (traceId : String) :
    (perform purpose p traceId).StartsOnlyIf host (p.simulate = false) := by
  cases purpose with
  | configure => exact startsOnlyIf_configure p traceId
  | cleanup => exact startsOnlyIf_cleanup p traceId

/-! ## Both runs -/

/-- The runs for one family of addresses, one for each purpose. Each of them only adds to the
journal, and does the same whatever is in it. -/
structure Leg (σ : Type) where
  run : Purpose → Action σ Report
  journals : ∀ purpose host s, ∃ es r t, (run purpose).Writes host s es r t

/-- The runs of a policy. -/
def Leg.ofPolicy (p : Policy) (traceId : String) : Leg σ where
  run purpose := perform purpose p traceId
  journals purpose host s := by
    obtain ⟨es, r, t, hwrites, -⟩ := startsOnlyIf_perform purpose p traceId s
    exact ⟨es, r, t, hwrites⟩

/-- What comes of two runs, by the end of the second one, after the first one has given a report:
the entry for the log, and the end of both. -/
inductive Joins (purpose : Purpose) (first : Report) :
    Except Failure Report → List Event → Except Failure (List Report) → Prop where
  /-- Both have given reports. -/
  | both (second : Report) : Joins purpose first (.ok second) [] (.ok [first, second])
  /-- The second one has failed, which is only logged. -/
  | alone {f : Failure} (expected : f.isExpected = true)
    (found : ∀ candidates, f ≠ .noBinary candidates) :
    Joins purpose first (.error f)
      [.logged ⟨.run, .warning,
        "ignoring failure of the ipv6 " ++ purpose.name ++ " run: " ++ f.message⟩]
      (.ok [first])
  /-- The host lacks the binaries for the second one. -/
  | missing (candidates : List String) :
    Joins purpose first (.error (.noBinary candidates)) [] (.error (.noBinary candidates))
  /-- The second one has failed in a way that is not expected. -/
  | unexpected {f : Failure} (unexpected : f.isExpected = false) :
    Joins purpose first (.error f) [] (.error f)

section Both

variable {purpose : Purpose} {v4 v6 : Action σ Report} {s t u : σ} {es fs : List Event}

/-- After a first run that has failed there is no second one. -/
theorem writes_dualStack_of_error {f : Failure} (failed : v4.Writes host s es (.error f) t)
    (v6 : Option (Action σ Report)) : (dualStack purpose v4 v6).Writes host s es (.error f) t :=
  failed.bind_error

/-- After a first run that has given a report, the second one goes on where that has ended. -/
theorem exists_writes_dualStack {first : Report} {r : Except Failure Report}
    (given : v4.Writes host s es (.ok first) t) (second : v6.Writes host t fs r u) :
    ∃ said ends, Joins purpose first r said ends ∧
      (dualStack purpose v4 (some v6)).Writes host s (es ++ fs ++ said) ends u := by
  have hboth {said : List Event} {ends : Except Failure (List Report)}
      {join : Report → Except Failure Report → Action σ (List Report)}
      (h : (join first r).Writes host u said ends u) :
      (v4 >>= fun first => v6.attempt >>= join first).Writes host s (es ++ fs ++ said) ends u := by
    rw [List.append_assoc]
    exact given.bind (second.attempt.bind h)
  -- one case for each constructor of `Joins`
  cases r with
  | ok report => exact ⟨_, _, .both report, hboth (writes_pure _)⟩
  | error f =>
    cases f with
    | noBinary candidates => exact ⟨_, _, .missing candidates, hboth (writes_throw _)⟩
    | mishap m => exact ⟨_, _, .unexpected rfl, hboth (writes_throw _)⟩
    | port _ | rejected _ | process _ | stated _ =>
      refine ⟨_, _, .alone rfl fun _ => Failure.noConfusion, hboth ?_⟩
      exact (writes_record _).bind (writes_pure _)

end Both

/-- **The first run is not affected by the second.** Together with any second leg, the first one
does what it does alone, with the same result. If it fails, that is the end, and the second one does
nothing. Otherwise the second one does what it does alone on the host as the first one leaves it,
after all that the first one has done, and the report of the first one is lost only as
`Joins.missing` and `Joins.unexpected` say. -/
theorem dualStack_isolates (purpose : Purpose) (v4 v6 : Leg σ) (host : Host σ) (s : σ) :
    ∃ es r t, (v4.run purpose).Writes host s es r t ∧
      (∀ f, r = .error f →
        (dualStack purpose (v4.run purpose) (v6.run purpose)).Writes host s es (.error f) t) ∧
      ∀ first, r = .ok first → ∃ fs r' u said ends,
        (v6.run purpose).Writes host t fs r' u ∧ Joins purpose first r' said ends ∧
        (dualStack purpose (v4.run purpose) (v6.run purpose)).Writes host s (es ++ fs ++ said)
          ends u := by
  obtain ⟨es, r, t, hfirst⟩ := v4.journals purpose host s
  refine ⟨es, r, t, hfirst, ?_, ?_⟩
  · rintro f rfl
    exact writes_dualStack_of_error hfirst _
  · rintro first rfl
    obtain ⟨fs, r', u, hsecond⟩ := v6.journals purpose host t
    obtain ⟨said, ends, hjoins, hboth⟩ := exists_writes_dualStack hfirst hsecond
    exact ⟨fs, r', u, said, ends, hsecond, hjoins, hboth⟩

/-- A host that knows all names and on which no process for version 6 succeeds. -/
def firstOnly : Host Unit where
  resolves _ _ := (true, ())
  start _ argv := (.exited (if argv.head? = some "ip6tables-save" then 1 else 0) none, ())

/-- A policy for either family of addresses. -/
def sidecarFor (six : Bool) : Policy :=
  { Policy.sidecar.withBinaries (Backend.pair six .plain).1 (Backend.pair six .plain).2 with
    ipv6 := six }

/-- Where the second listing fails, the report of the first run is left, after a warning. -/
theorem dualStack_isolates_firstOnly :
    ∃ es fs first f, (configure (sidecarFor false) "1700000000").Writes firstOnly () es
        (.ok first) () ∧
      (configure (sidecarFor true) "1700000000").Writes firstOnly () fs (.error f) () ∧
      (dualStack .configure (configure (sidecarFor false) "1700000000")
        (some (configure (sidecarFor true) "1700000000"))).Writes firstOnly ()
          (es ++ fs ++ [.logged ⟨.run, .warning,
            "ignoring failure of the ipv6 configure run: " ++ f.message⟩]) (.ok [first]) () := by
  let v4 : Leg Unit := .ofPolicy (sidecarFor false) "1700000000"
  let v6 : Leg Unit := .ofPolicy (sidecarFor true) "1700000000"
  obtain ⟨es, r, ⟨⟩, hfirst, -, hsecond⟩ := dualStack_isolates .configure v4 v6 firstOnly ()
  have hgiven : ((v4.run .configure).perform firstOnly ⟨(), #[]⟩).1.isOk = true := by
    decide +kernel
  have hfailed : ((v6.run .configure).perform firstOnly ⟨(), #[]⟩).1.isOk = false := by
    decide +kernel
  have hkept : ((dualStack .configure (v4.run .configure) (v6.run .configure)).perform firstOnly
      ⟨(), #[]⟩).1.isOk = true := by decide +kernel
  rw [hfirst #[]] at hgiven
  cases r with
  | error f => cases hgiven
  | ok first =>
    obtain ⟨fs, r', ⟨⟩, said, ends, hthen, hjoins, hboth⟩ := hsecond first rfl
    rw [hthen #[]] at hfailed
    rw [hboth #[]] at hkept
    cases hjoins with
    | both second => cases hfailed
    | missing | unexpected => cases hkept
    | alone expected found => exact ⟨es, fs, first, _, hfirst, hthen, hboth⟩

end PodRedirect.Run
