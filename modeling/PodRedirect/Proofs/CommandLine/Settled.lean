import PodRedirect.Proofs.CommandLine.Given
import PodRedirect.Proofs.DryRun

/-!
# Planned policies and policies that are run

Before policies are run, their binaries are settled on the host. This changes nothing else of them,
and it fails only if the flavour in use is asked for and cannot be found out, or if no flavour is
named. A plan does not need one: settings that name none are planned with the usual flavour, but
cannot be run, unless paths of binaries are given and there is no second family of addresses.

## Main definitions

* `Run.Finds`: the ends of finding binaries for one policy
* `CommandLine.Detectable`: the settings let binaries be settled
* `CommandLine.Settles`: the ends of settling the binaries of planned policies

## Main results

* `CommandLine.ensures_policies_settles`: these are all ends, on every host
* `CommandLine.policies_settle_iff`: when a plan can be run
-/

namespace PodRedirect

open PodRedirect.Action

variable {σ : Type} {host : Host σ}

/-! ## The flavour that is asked for -/

namespace Mode

theorem eq_name_of_ofName? {name : String} {m : Mode} (h : ofName? name = some m) :
    name = m.name := by
  have hname := List.find?_some h
  exact (of_decide_eq_true hname).symm

theorem eq_text_of_ofValue? {v : Value} {m : Mode} (h : ofValue? v = some m) :
    v = .text m.name := by
  cases v with
  | text name => rw [eq_name_of_ofName? h]
  | _ => cases h

end Mode

namespace Backend

/-- Usual binaries are those of a flavour that is named. -/
theorem exists_mode_of_defaultBinaries {mode : Value} {six : Bool} {b : String × String}
    (h : defaultBinaries mode six = .ok b) : ∃ m, Mode.ofValue? mode = some m ∧ m ≠ .explicit := by
  unfold defaultBinaries at h
  split at h
  · cases hsaid : mode.said <;> rw [hsaid] at h <;> cases h
  · cases h
  next m hexplicit hm => exact ⟨m, hm, hexplicit⟩

end Backend

namespace Policy

variable {s : Settings} {six : Bool} {p : Policy}

/-- What is given for a flavour names one. -/
theorem Built.exists_mode (h : Built s six p)
    (given : (s.getD .iptablesMode .null).isTruthy = true) :
    ∃ m, Mode.ofValue? (s.getD .iptablesMode .null) = some m ∧ m ≠ .explicit := by
  have hbinaries := h.binaries
  simp only [Policy.binaries, given, if_true] at hbinaries
  split at hbinaries
  · cases hbinaries
  · obtain ⟨b, hdefault, -⟩ := of_bind_ok hbinaries
    exact Backend.exists_mode_of_defaultBinaries hdefault

/-- The paths of binaries, if they are given. -/
theorem Built.paths (h : Built s six p) (given : flag s .firewallBinPath = true) :
    flag s .firewallSaveBinPath = true ∧ p.binary = text s .firewallBinPath ∧
      p.saveBinary = text s .firewallSaveBinPath := by
  have hbinaries := h.binaries
  simp only [Policy.binaries, given, if_true] at hbinaries
  split at hbinaries
  · cases hbinaries
  next hpaired =>
    obtain ⟨usual, -, hbinaries⟩ := of_bind_ok hbinaries
    obtain ⟨hbinary, hsave⟩ := Prod.mk.inj (Except.ok.inj hbinaries)
    exact ⟨by simpa using hpaired, hbinary.symm, hsave.symm⟩

end Policy

namespace Run

/-! ## A single policy -/

/-- Binaries that are given are kept. -/
theorem returns_resolveBackend_given {p : Policy} (requested : Value)
    (binary : p.binary.isEmpty = false) (saveBinary : p.saveBinary.isEmpty = false) :
    (resolveBackend p requested true).Returns host (p.simulate = false) fun r => r.1 = p := by
  unfold resolveBackend Backend.select
  rw [binary, saveBinary]
  refine Returns.bind (P := fun _ => True) ?_ fun selection _ => returns_pure rfl
  exact Ensures.after_note (returns_pure trivial)

/-- The ends of finding binaries for a policy with a flavour that is named: there are some, unless
the one in use is asked for and a binary to list its rules is missing. -/
inductive Finds (p : Policy) (m : Mode) : Except Failure Policy → Prop where
  | found (b : String × String) : Finds p m (.ok (p.withBinaries b.1 b.2))
  | missing (auto : m = .auto) (candidates : List String) :
    Finds p m (.error (.noBinary candidates))

/-- **A flavour that is named is used**, unless it is the one in use and that cannot be found out. -/
theorem ensures_resolveBackend_named (p : Policy) {requested : Value} {m : Mode}
    (named : Mode.ofValue? requested = some m) (usual : m ≠ .explicit) :
    (resolveBackend p requested false).Ensures host (p.simulate = false)
      fun r => Finds p m (r.map Prod.fst) := by
  have hprobe : Backend.Probe.Expected (fun argv => Executor.run ⟨p, ""⟩ (p.wrap argv)) host
      (p.simulate = false) False :=
    fun argv => (Executor.ensures_run ⟨p, ""⟩ _).mono fun r hr f hf => Or.inl (hr f hf)
  unfold resolveBackend
  rw [if_neg Bool.false_ne_true, named]
  refine (Backend.ensures_detect hprobe p.ipv6 m).attempt.bind fun r hr => ?_
  -- of what detection may end with, only a missing binary is passed on, and not for every flavour
  cases hr with
  | @selected selection _ =>
    exact ensures_pure (.found (selection.binary, selection.saveBinary))
  | missing =>
    dsimp only
    split
    next hauto => exact ensures_throw_bind (.missing hauto _)
    next => exact Ensures.after_note (ensures_pure (.found (p.binary, p.saveBinary)))
  | explicit hexplicit => exact absurd hexplicit usual
  | unlisted h => exact h.elim

/-- Where no flavour is named, that is not expected. -/
theorem ensures_resolveBackend_unnamed (p : Policy) {requested : Value} {quoted : String}
    (unnamed : Mode.ofValue? requested = none) (written : requested.quoted = .ok quoted) :
    (resolveBackend p requested false).Ensures host (p.simulate = false) fun r =>
      r = .error (.mishap (.mode quoted)) := by
  unfold resolveBackend
  rw [if_neg Bool.false_ne_true, unnamed, written]
  refine (ensures_except (.ok quoted)).bind ?_ fun f hf => nomatch hf
  rintro _ ⟨⟩
  exact ensures_throw rfl

end Run

namespace CommandLine

open Run (Finds)

theorem returns_settled_given {p : Policy} (mode : Value) (binary : p.binary.isEmpty = false)
    (saveBinary : p.saveBinary.isEmpty = false) :
    (settled p mode true).Returns host (p.simulate = false) fun q => q = p := by
  refine (Run.returns_resolveBackend_given mode binary saveBinary).bind ?_
  rintro ⟨q, selection⟩ rfl
  exact Ensures.after_note (returns_pure rfl)

theorem ensures_settled_named (p : Policy) {mode : Value} {m : Mode}
    (named : Mode.ofValue? mode = some m) (usual : m ≠ .explicit) :
    (settled p mode false).Ensures host (p.simulate = false) (Finds p m) :=
  (Run.ensures_resolveBackend_named p named usual).bind
    (fun _ hfinds => Ensures.after_note (ensures_pure hfinds)) fun _ hfinds => hfinds

theorem ensures_settled_unnamed (p : Policy) {mode : Value} {quoted : String}
    (unnamed : Mode.ofValue? mode = none) (written : mode.quoted = .ok quoted) :
    (settled p mode false).Ensures host (p.simulate = false) fun r =>
      r = .error (.mishap (.mode quoted)) := by
  refine (Run.ensures_resolveBackend_unnamed p unnamed written).bind ?_ ?_
  · rintro _ ⟨⟩
  · rintro f ⟨⟩
    rfl

/-! ## Both policies -/

/-- The settings let the binaries of policies be settled: a flavour is named, or none is needed. -/
def Detectable (s : Settings) (v6 : Option Policy) : Prop :=
  (s.getD .iptablesMode .null).isTruthy = true ∨
    Policy.flag s .firewallBinPath = true ∧ v6 = none

/-- The ends of settling the binaries of planned policies. -/
inductive Settles (s : Settings) (v4 : Policy) (v6 : Option Policy) :
    Except Failure (Policy × Option Policy) → Prop where
  /-- The policies are the planned ones but for their binaries. -/
  | settled (detectable : Detectable s v6) (b b' : String × String) :
    Settles s v4 v6 (.ok (v4.withBinaries b.1 b.2, v6.map fun p => p.withBinaries b'.1 b'.2))
  /-- The flavour in use is asked for, and a binary to list its rules is missing. -/
  | missing (auto : s.getD .iptablesMode .null = .text Mode.auto.name)
    (candidates : List String) : Settles s v4 v6 (.error (.noBinary candidates))
  /-- A flavour is needed, and none is named. -/
  | unnamed (undetectable : ¬Detectable s v6) (quoted : String) :
    Settles s v4 v6 (.error (.mishap (.mode quoted)))

/-- The binaries of planned policies as they are settled on the host. -/
def settledBoth (s : Settings) (v4 : Policy) (v6 : Option Policy) :
    Action σ (Policy × Option Policy) := do
  let mode := s.getD .iptablesMode .null
  let v4 ← settled v4 mode (Policy.flag s .firewallBinPath)
  match v6 with
  | none => return (v4, none)
  | some v6 => return (v4, some (← settled v6 mode false))

theorem policies_eq (s : Settings) : (policies s true : Action σ (Policy × Option Policy)) =
    ofLogged (planned s) >>= fun p => settledBoth s p.1 p.2 := rfl

/-- A plan is the same on every host. -/
theorem planned_of_policies {s : Settings} {session : Session σ} {p : Policy × Option Policy}
    (h : ((policies s false).perform host session).1 = .ok p) :
    ((planned s).run #[]).1 = .ok p := by
  obtain ⟨journal, hrun, -⟩ := computes_policies s host session.state session.journal
  rw [hrun] at h
  exact h

section Merged

variable {argv : List String} {a : Arguments} {read : String → FileContent} {s : Settings}
  {v4 : Policy} {v6 : Option Policy}

/-- Both policies are simulated if the settings say so. -/
theorem simulate_of_gives_planned (planned : (planned s).Gives (v4, v6)) {p : Policy}
    (hp : p ∈ v4 :: v6.toList) : p.simulate = Policy.flag s .simulate :=
  (flags_of_gives_planned planned p hp).1

/-- Nothing names no flavour. -/
theorem unnamed_of_merged (parsed : parse argv = .ok a) (merged : (settings a read).Gives s)
    (nothing : (s.getD .iptablesMode .null).isTruthy = false) :
    Mode.ofValue? (s.getD .iptablesMode .null) = none ∧
      ∃ quoted, (s.getD .iptablesMode .null).quoted = .ok quoted := by
  rcases getD_text_of_merged parsed merged (rfl : Setting.iptablesMode.kind = .text) with
    ⟨t, ht⟩ | hnil
  · rw [ht] at nothing ⊢
    obtain rfl : t = "" := by simpa [Value.isTruthy] using nothing
    exact ⟨rfl, _, rfl⟩
  · rw [hnil]
    exact ⟨rfl, _, rfl⟩

/-- The first policy keeps the binaries that are given. -/
theorem returns_settled_paths (parsed : parse argv = .ok a) (merged : (settings a read).Gives s)
    (built : Policy.Built s false v4) (given : Policy.flag s .firewallBinPath = true)
    (mode : Value) :
    (settled v4 mode true).Returns host (v4.simulate = false) fun q => q = v4 := by
  obtain ⟨given', hbinary, hsave⟩ := built.paths given
  -- the paths are the texts of the settings, and so not empty
  have hne := isEmpty_text_of_merged parsed merged (k := .firewallBinPath) rfl given
  have hne' := isEmpty_text_of_merged parsed merged (k := .firewallSaveBinPath) rfl given'
  rw [← hbinary] at hne
  rw [← hsave] at hne'
  exact returns_settled_given mode hne hne'

/-- Where a flavour is named, the binaries of both policies are settled, or a binary is missing. -/
theorem ensures_settledBoth_named (parsed : parse argv = .ok a)
    (merged : (settings a read).Gives s) (planned : (planned s).Gives (v4, v6))
    (given : (s.getD .iptablesMode .null).isTruthy = true) :
    (settledBoth s v4 v6).Ensures host (Policy.flag s .simulate = false) (Settles s v4 v6) := by
  have hbuilt := (built_of_gives_planned planned).1
  obtain ⟨m, named, usual⟩ := hbuilt.exists_mode given
  have hmissing {candidates : List String} (hauto : m = .auto) :
      Settles s v4 v6 (.error (.noBinary candidates)) :=
    .missing (hauto ▸ Mode.eq_text_of_ofValue? named) _
  have hnamed {p : Policy} (hp : p ∈ v4 :: v6.toList) :
      (settled p (s.getD .iptablesMode .null) false).Ensures host
        (Policy.flag s .simulate = false) (Finds p m) := by
    rw [← simulate_of_gives_planned planned hp]
    exact ensures_settled_named p named usual
  have hfirst : (settled v4 (s.getD .iptablesMode .null)
      (Policy.flag s .firewallBinPath)).Ensures host (Policy.flag s .simulate = false)
        (Finds v4 m) := by
    cases hpaths : Policy.flag s .firewallBinPath with
    | true =>
      -- binaries that are given are kept, and so count as found
      rw [← simulate_of_gives_planned planned List.mem_cons_self]
      refine (returns_settled_paths parsed merged hbuilt hpaths _).mono ?_
      rintro _ ⟨_, rfl, rfl⟩
      exact .found (_, _)
    | false => exact hnamed List.mem_cons_self
  refine hfirst.bind (fun v4' hfinds => ?_) fun f hfinds => ?_
  · cases hfinds with
    | found b =>
      cases v6 with
      | none => exact ensures_pure (.settled (Or.inl given) b b)
      | some v6 =>
        refine (hnamed (by simp)).bind (fun v6' hfinds => ?_) fun f hfinds => ?_
        · cases hfinds with
          | found b' => exact ensures_pure (.settled (Or.inl given) b b')
        · cases hfinds with
          | missing hauto candidates => exact hmissing hauto
  · cases hfinds with
    | missing hauto candidates => exact hmissing hauto

/-- Where no flavour is named, only the first policy can be settled, and only if its paths are
given. -/
theorem ensures_settledBoth_unnamed (parsed : parse argv = .ok a)
    (merged : (settings a read).Gives s) (planned : (planned s).Gives (v4, v6))
    (nothing : (s.getD .iptablesMode .null).isTruthy = false) :
    (settledBoth s v4 v6).Ensures host (Policy.flag s .simulate = false) (Settles s v4 v6) := by
  have hbuilt := (built_of_gives_planned planned).1
  obtain ⟨unnamed, quoted, written⟩ := unnamed_of_merged parsed merged nothing
  have hneeded (h : ¬(Policy.flag s .firewallBinPath = true ∧ v6 = none)) : ¬Detectable s v6 :=
    not_or.mpr ⟨by simp [nothing], h⟩
  have hfails {p : Policy} (hp : p ∈ v4 :: v6.toList) :
      (settled p (s.getD .iptablesMode .null) false).Ensures host
        (Policy.flag s .simulate = false) fun r => r = .error (.mishap (.mode quoted)) := by
    rw [← simulate_of_gives_planned planned hp]
    exact ensures_settled_unnamed p unnamed written
  cases hpaths : Policy.flag s .firewallBinPath with
  | true =>
    -- the first policy needs no flavour, and a second one does
    have hfirst : (settled v4 (s.getD .iptablesMode .null) true).Returns host
        (Policy.flag s .simulate = false) fun q => q = v4 := by
      rw [← simulate_of_gives_planned planned List.mem_cons_self]
      exact returns_settled_paths parsed merged hbuilt hpaths _
    unfold settledBoth
    rw [hpaths]
    refine hfirst.bind ?_
    rintro _ rfl
    cases v6 with
    | none => exact ensures_pure (.settled (Or.inr ⟨hpaths, rfl⟩) (_, _) ("", ""))
    | some v6 =>
      refine (hfails (by simp)).bind ?_ ?_
      · rintro _ ⟨⟩
      · rintro f ⟨⟩
        exact .unnamed (hneeded (by simp)) quoted
  | false =>
    unfold settledBoth
    rw [hpaths]
    refine (hfails List.mem_cons_self).bind ?_ ?_
    · rintro _ ⟨⟩
    · rintro f ⟨⟩
      exact .unnamed (hneeded (by simp [hpaths])) quoted

/-- **Settling the binaries of planned policies ends as `Settles` says**, on every host. -/
theorem ensures_policies_settles (parsed : parse argv = .ok a)
    (merged : (settings a read).Gives s) (built : ((planned s).run #[]).1 = .ok (v4, v6))
    (host : Host σ) :
    (policies s true).Ensures host (Policy.flag s .simulate = false) (Settles s v4 v6) := by
  rw [policies_eq]
  refine (ensures_ofLogged (planned s)).bind ?_ fun f hf => by rw [built] at hf; cases hf
  rintro _ hp
  rw [built] at hp
  cases hp
  have hplanned := Logged.gives_of_run built
  cases given : (s.getD .iptablesMode .null).isTruthy with
  | true => exact ensures_settledBoth_named parsed merged hplanned given
  | false => exact ensures_settledBoth_unnamed parsed merged hplanned given

/-- **What is planned can be run exactly if the settings name a flavour, or need none.** The policies
that are run are then the planned ones but for their binaries, unless the flavour in use is asked for
and a binary to list its rules is missing. Otherwise the run ends in a mishap. -/
theorem policies_settle_iff (parsed : parse argv = .ok a)
    (merged : ((settings a read).run #[]).1 = .ok s) {session : Session σ}
    (planned : ((policies s false).perform host session).1 = .ok (v4, v6))
    (session' : Session σ) :
    let r := ((policies s true).perform host session').1
    (((∃ b b' : String × String,
        r = .ok (v4.withBinaries b.1 b.2, v6.map fun p => p.withBinaries b'.1 b'.2)) ∨
      (s.getD .iptablesMode .null = .text Mode.auto.name ∧
        ∃ candidates, r = .error (.noBinary candidates))) ↔ Detectable s v6) ∧
    ((∃ quoted, r = .error (.mishap (.mode quoted))) ↔ ¬Detectable s v6) := by
  intro r
  have hsettles : Settles s v4 v6 r :=
    (ensures_policies_settles parsed (Logged.gives_of_run merged)
      (planned_of_policies planned) host).perform session'
  generalize r = r at hsettles
  cases hsettles with
  | settled detectable b b' =>
    exact ⟨iff_of_true (Or.inl ⟨b, b', rfl⟩) detectable,
      iff_of_false (fun ⟨_, h⟩ => nomatch h) (not_not_intro detectable)⟩
  | missing auto candidates =>
    have detectable : Detectable s v6 := Or.inl (by rw [auto]; rfl)
    exact ⟨iff_of_true (Or.inr ⟨auto, candidates, rfl⟩) detectable,
      iff_of_false (fun ⟨_, h⟩ => nomatch h) (not_not_intro detectable)⟩
  | unnamed undetectable quoted =>
    refine ⟨iff_of_false ?_ undetectable, iff_of_true ⟨quoted, rfl⟩ undetectable⟩
    rintro (⟨_, _, h⟩ | ⟨_, _, h⟩) <;> cases h

end Merged

/-! ## Settings that name no flavour -/

/-- Arguments to install a redirection, with a policy file. -/
def configured : Arguments where
  given := [(.incomingProxyPort, .int 4143), (.outgoingProxyPort, .int 4140)]
  cleanup := false
  config := .text "policy.yml"
  script := .text ""

/-- A policy that is planned with these arguments, whether a flavour is named or not. -/
def installed (six : Bool) : Policy := { removed six with continueOnError := false }

/-- Without a policy file the usual flavour is named, so that the plan can be run. -/
theorem policies_settle_iff_usual :
    ∃ b b' : String × String,
      ((policies (Settings.defaults.update configured.given) true).perform Host.quiet
        ⟨(), #[]⟩).1 = .ok ((installed false).withBinaries b.1 b.2,
          some ((installed true).withBinaries b'.1 b'.2)) := by
  have hsettle := policies_settle_iff
    (rfl : parse ["-p", "4143", "-o", "4140"] = .ok { configured with config := .text "" })
    (rfl : ((settings { configured with config := .text "" } alone.read).run #[]).1 =
      .ok (Settings.defaults.update configured.given))
    (rfl : ((policies (Settings.defaults.update configured.given) false).perform Host.quiet
      ⟨(), #[]⟩).1 = .ok (installed false, some (installed true))) ⟨(), #[]⟩
  -- the usual flavour is not the one that the host uses
  refine (hsettle.1.mpr (Or.inl rfl)).resolve_right fun h => ?_
  exact absurd (Value.text.inj h.1) (by decide)

/-- A policy file that says nothing for the flavour. -/
def unnamedFile : FileContent := Settings.ascii "iptables-mode:\n"

/-- The settings give nothing for the flavour, and for no other setting. -/
def isUnnamed : Except Failure Settings → Bool
  | .ok [(.iptablesMode, .text t)] => t.isEmpty
  | _ => false

theorem load_unnamedFile :
    ((Settings.load "policy.yml" unnamedFile).run #[]).1 = .ok [(.iptablesMode, .text "")] := by
  have hload : isUnnamed ((Settings.load "policy.yml" unnamedFile).run #[]).1 = true := by
    decide +kernel
  unfold isUnnamed at hload
  split at hload
  next t heq =>
    obtain rfl := String.isEmpty_iff.mp hload
    exact heq
  next => cases hload

/-- The settings with this policy file. -/
def unnamedSettings : Settings :=
  (Settings.defaults.set .iptablesMode (.text "")).update configured.given

theorem settings_unnamedFile :
    ((settings configured fun _ => unnamedFile).run #[]).1 = .ok unnamedSettings := by
  have hsettings : (settings configured fun _ => unnamedFile) =
      Settings.load "policy.yml" unnamedFile >>= fun file =>
        pure ((Settings.defaults.update file).update configured.given) := rfl
  obtain ⟨log, hrun⟩ := Logged.fst_run_bind_of_ok load_unnamedFile fun file =>
    pure ((Settings.defaults.update file).update configured.given)
  rw [hsettings, hrun]
  rfl

/-- A plan is made with a policy file that says nothing for the flavour, but it cannot be run: the
program ends in a mishap, on a host that knows all names and where no process fails. -/
theorem policies_unnamed :
    ∃ a s v4 v6, parse ["-p", "4143", "-o", "4140", "--config", "policy.yml"] = .ok a ∧
      ((settings a fun _ => unnamedFile).run #[]).1 = .ok s ∧
      ((policies s false).perform Host.quiet ⟨(), #[]⟩).1 = .ok (v4, v6) ∧
      ((policies s true).perform Host.quiet ⟨(), #[]⟩).1 = .error (.mishap (.mode "''")) ∧
      (program { alone with read := fun _ => unnamedFile }
        ["-p", "4143", "-o", "4140", "--config", "policy.yml"] Host.quiet ⟨(), #[]⟩).1.ending =
          .error (.mishap (.mode "''")) := by
  refine ⟨configured, unnamedSettings, installed false, some (installed true), rfl,
    settings_unnamedFile, rfl, Settings.eq_of_mishap? ?_, Settings.eq_of_mishap? ?_⟩
  · decide +kernel
  · decide +kernel

end CommandLine

end PodRedirect
