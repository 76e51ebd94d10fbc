import PodRedirect.Proofs.Session
import PodRedirect.Backend.Detect
import PodRedirect.Executor

/-!
# What a run of commands does

The processes of commands are started in their order. A command that fails ends the run or leaves
its failure in a record, as the policy says. Before that, a pair of binaries is looked for, without
any process.

## Main definitions

* `Action.OnlyLooks`: an action that asks for names only
* `Host.Knows`, `Host.Succeeds`: a host that knows binaries, and one on which no process fails
* `Executor.answer`, `Executor.records`: what commands end with, and the records of all of them

## Main results

* `Backend.onlyLooks_fallback`: a pair of binaries is always found
* `Backend.does_fallback`: a pair that the host knows is kept
* `Executor.does_mapM_applyOne`, `Executor.does_mapM_applyOne_of_error`: a run of commands that
  comes to its end, and one that does not
* `Executor.records_cases`: these are all cases
* `Executor.does_apply_simulated`: commands that are only simulated
-/

namespace PodRedirect

namespace Action

variable {σ α β : Type} {host : Host σ}

/-- The action asks for names only, and does not fail. -/
def OnlyLooks (a : Action σ α) (host : Host σ) : Prop :=
  ∀ s, ∃ (names : List String) (x : α) (t : σ), a.Does host s (names.map .looked) (.ok x) t

theorem onlyLooks_pure (x : α) : OnlyLooks (pure x : Action σ α) host := fun s =>
  ⟨[], x, s, does_pure x⟩

theorem onlyLooks_note (source : Log.Source) (level : Log.Level) (message : String) :
    OnlyLooks (note source level message : Action σ Unit) host := fun s =>
  ⟨[], (), s, does_note source level message⟩

theorem onlyLooks_look (name : String) : OnlyLooks (look name : Action σ Bool) host := fun s =>
  ⟨[name], (host.resolves s name).1, (host.resolves s name).2, does_look name⟩

theorem OnlyLooks.bind {a : Action σ α} {f : α → Action σ β} (h : OnlyLooks a host)
    (h' : ∀ x, OnlyLooks (f x) host) : OnlyLooks (a >>= f) host := by
  intro s
  obtain ⟨names, x, t, hdoes⟩ := h s
  obtain ⟨names', y, u, hdoes'⟩ := h' x t
  refine ⟨names ++ names', y, u, ?_⟩
  rw [List.map_append]
  exact hdoes.bind hdoes'

end Action

namespace Backend

open PodRedirect.Action

variable {σ : Type} {host : Host σ}

theorem onlyLooks_knowsPair (binary saveBinary : String) :
    OnlyLooks (knowsPair binary saveBinary) host := by
  refine (onlyLooks_look binary).bind fun found => ?_
  cases found with
  | true => exact onlyLooks_look saveBinary
  | false => exact onlyLooks_pure false

theorem onlyLooks_findPair (plain : String) (modes : List Mode) :
    OnlyLooks (findPair plain modes) host := by
  induction modes with
  | nil => exact onlyLooks_pure none
  | cons m modes ih =>
    refine (onlyLooks_knowsPair _ _).bind fun known => ?_
    cases known with
    | true => exact onlyLooks_pure _
    | false => exact (onlyLooks_pure ()).bind fun _ => ih

/-- A pair of binaries is always found, and no process is started for it. -/
theorem onlyLooks_fallback (binary saveBinary : String) :
    OnlyLooks (fallback binary saveBinary) host := by
  refine (onlyLooks_knowsPair binary saveBinary).bind fun known => ?_
  cases known with
  | true => exact (onlyLooks_note _ _ _).bind fun _ => onlyLooks_pure _
  | false =>
    refine (onlyLooks_findPair _ _).bind fun pair => ?_
    cases pair with
    | none => exact (onlyLooks_note _ _ _).bind fun _ => onlyLooks_pure _
    | some pair =>
      dsimp only
      split
      · exact (onlyLooks_note _ _ _).bind fun _ => onlyLooks_pure _
      · exact onlyLooks_pure _

end Backend

namespace Host

variable {σ : Type}

/-- The host knows both binaries of the policy, whatever it was asked before. -/
def Knows (host : Host σ) (p : Policy) : Prop :=
  ∀ s, (host.resolves s p.binary).1 = true ∧ (host.resolves s p.saveBinary).1 = true

/-- The state after the host was asked for both binaries of the policy. -/
def asked (host : Host σ) (p : Policy) (s : σ) : σ :=
  (host.resolves (host.resolves s p.binary).2 p.saveBinary).2

/-- No process fails. -/
def Succeeds (host : Host σ) : Prop :=
  ∀ s argv, ∃ output, (host.start s argv).1 = .exited 0 output

/-- A host that knows all names, and on which no process fails or writes anything. -/
def quiet : Host Unit where
  resolves _ _ := (true, ())
  start _ _ := (.exited 0 none, ())

end Host

namespace Backend

open PodRedirect.Action

variable {σ : Type} {host : Host σ}

/-- A pair of binaries that the host knows is kept, and no other name is asked for. -/
theorem does_fallback {p : Policy} (knows : host.Knows p) (s : σ) :
    (fallback p.binary p.saveBinary).Does host s [.looked p.binary, .looked p.saveBinary]
      (.ok (p.binary, p.saveBinary)) (host.asked p s) := by
  have hfirst : (look p.binary : Action σ Bool).Does host s [.looked p.binary] (.ok true)
      (host.resolves s p.binary).2 := (knows s).1 ▸ does_look p.binary
  have hsecond : (look p.saveBinary : Action σ Bool).Does host (host.resolves s p.binary).2
      [.looked p.saveBinary] (.ok true) (host.asked p s) := (knows _).2 ▸ does_look p.saveBinary
  have hpair : (knowsPair p.binary p.saveBinary).Does host s
      [.looked p.binary, .looked p.saveBinary] (.ok true) (host.asked p s) := hfirst.bind hsecond
  exact hpair.bind_nil ((does_note _ _ _).bind (does_pure _))

end Backend

namespace Executor

open PodRedirect.Action

variable {σ : Type} (x : Executor) (host : Host σ)

/-- What a command ends with. -/
def answer (s : σ) (c : Command) : Except ProcessFailure String :=
  judge (x.policy.argv c) (host.start s (x.policy.argv c)).1

/-- The state after a command. -/
def next (s : σ) (c : Command) : σ := (host.start s (x.policy.argv c)).2

/-- A process is started, once, and ends as the host says. -/
theorem does_tryRun (hrun : x.policy.simulate = false) (argv : List String) (s : σ) :
    (x.tryRun argv).Does host s [.started argv] (.ok (judge argv (host.start s argv).1))
      (host.start s argv).2 := by
  unfold tryRun
  refine (does_note _ _ _).bind ?_
  -- without simulation, the command is started
  rw [hrun]
  refine (does_start argv).bind ?_
  -- what the process has written may be logged
  cases (host.start s argv).1 with
  | notStarted reason => exact does_pure _
  | exited status output =>
    cases output with
    | none => exact does_pure _
    | some output =>
      dsimp only
      split
      · exact (does_note _ _ _).bind (does_pure _)
      · exact does_pure _

/-- Running a command fails if its process does. -/
theorem does_execute (hrun : x.policy.simulate = false) (c : Command) (s : σ) :
    (x.execute c : Action σ String).Does host s [.started (x.policy.argv c)]
      ((x.answer host s c).mapError .process) (x.next host s c) := by
  refine (does_tryRun x host hrun _ s).bind_nil ?_
  rw [answer]
  cases judge (x.policy.argv c) (host.start s (x.policy.argv c)).1 with
  | ok output => exact does_pure output
  | error f => exact does_throw _

/-- The record of a command with the given end. -/
def record (c : Command) : Except ProcessFailure String → ExecutionRecord
  | .ok output => ⟨c, x.policy.argv c, output, none, x.policy.simulate⟩
  | .error f => ⟨c, x.policy.argv c, "", some f, x.policy.simulate⟩

/-- The records of commands, all of which are run. -/
def records (s : σ) : List Command → List ExecutionRecord
  | [] => []
  | c :: cs => x.record c (x.answer host s c) :: records (x.next host s c) cs

/-- The state after commands, all of which are run. -/
def last (s : σ) (cs : List Command) : σ := cs.foldl (x.next host) s

/-- A command that succeeds is applied, and so is one that fails if the run goes on after errors. -/
theorem does_applyOne (hrun : x.policy.simulate = false) {c : Command} {s : σ}
    (h : x.policy.continueOnError = true ∨ (x.record c (x.answer host s c)).error = none) :
    (x.applyOne c).Does host s [.started (x.policy.argv c)]
      (.ok (x.record c (x.answer host s c))) (x.next host s c) := by
  refine (does_tryRun x host hrun _ s).bind_nil ?_
  rw [answer] at h ⊢
  cases hend : judge (x.policy.argv c) (host.start s (x.policy.argv c)).1 with
  | ok output => exact does_pure _
  | error f =>
    rw [hend] at h
    have hgoesOn : x.policy.continueOnError = true := h.resolve_right (Option.some_ne_none f)
    simp only [hgoesOn]
    exact (does_note _ _ _).bind (does_pure _)

/-- A command that fails ends a run that does not go on after errors. -/
theorem does_applyOne_of_error (hrun : x.policy.simulate = false)
    (hends : x.policy.continueOnError = false) {c : Command} {s : σ} {f : ProcessFailure}
    (h : x.answer host s c = .error f) :
    (x.applyOne c).Does host s [.started (x.policy.argv c)] (.error (.process f))
      (x.next host s c) := by
  refine (does_tryRun x host hrun _ s).bind_nil ?_
  rw [answer] at h
  simp only [h, hends]
  exact (does_throw _).bind_error

/-- Commands are applied in order, as long as the run goes on. -/
theorem does_mapM_applyOne (hrun : x.policy.simulate = false) {cs : List Command} {s : σ}
    (h : x.policy.continueOnError = true ∨ ∀ r ∈ x.records host s cs, r.error = none) :
    (cs.mapM x.applyOne).Does host s (cs.map fun c => .started (x.policy.argv c))
      (.ok (x.records host s cs)) (x.last host s cs) := by
  induction cs generalizing s with
  | nil => exact does_pure []
  | cons c cs ih =>
    rw [List.mapM_cons]
    have hone := x.does_applyOne host hrun (h.imp_right fun h => h _ List.mem_cons_self)
    have hrest := ih (h.imp_right fun h r hr => h r (List.mem_cons_of_mem _ hr))
    exact hone.bind (hrest.bind_nil (does_pure _))

/-- Commands are applied in order up to the first that fails, if the run does not go on after
errors. -/
theorem does_mapM_applyOne_of_error (hrun : x.policy.simulate = false)
    (hends : x.policy.continueOnError = false) {pre : List Command} (post : List Command)
    {c : Command} {s : σ} {f : ProcessFailure} (hpre : ∀ r ∈ x.records host s pre, r.error = none)
    (hc : x.answer host (x.last host s pre) c = .error f) :
    ((pre ++ c :: post).mapM x.applyOne).Does host s
      ((pre ++ [c]).map fun c => .started (x.policy.argv c)) (.error (.process f))
      (x.last host s (pre ++ [c])) := by
  -- the induction is on the commands before the one that fails, and what is after it never matters
  induction pre generalizing s with
  | nil =>
    rw [List.nil_append, List.mapM_cons]
    exact (x.does_applyOne_of_error host hrun hends hc).bind_error
  | cons d pre ih =>
    rw [List.cons_append, List.mapM_cons]
    have hone := x.does_applyOne host hrun (Or.inr (hpre _ List.mem_cons_self))
    have hrest := ih (fun r hr => hpre r (List.mem_cons_of_mem _ hr)) hc
    exact hone.bind hrest.bind_error

/-- Before commands are applied, nothing is done but to say so. -/
theorem does_apply {cs : List Command} {s t : σ} {es : List Event}
    {r : Except Failure (List ExecutionRecord)} (h : (cs.mapM x.applyOne).Does host s es r t) :
    (x.apply cs).Does host s es r t := by
  unfold apply
  split
  · exact (does_note _ _ _).bind h
  · exact (does_pure _).bind h

/-- Either no command fails, or there is a first one that does. -/
theorem records_cases (s : σ) (cs : List Command) :
    (∀ r ∈ x.records host s cs, r.error = none) ∨
      ∃ pre c post f, cs = pre ++ c :: post ∧ (∀ r ∈ x.records host s pre, r.error = none) ∧
        x.answer host (x.last host s pre) c = .error f := by
  induction cs generalizing s with
  | nil => exact Or.inl fun r hr => absurd hr List.not_mem_nil
  | cons c cs ih =>
    cases hc : x.answer host s c with
    | error f => exact Or.inr ⟨[], c, cs, f, rfl, fun r hr => absurd hr List.not_mem_nil, hc⟩
    | ok output =>
      have hrecord : (x.record c (x.answer host s c)).error = none := by rw [hc]; rfl
      rcases ih (x.next host s c) with hall | ⟨pre, d, post, f, rfl, hpre, hd⟩
      · exact Or.inl (List.forall_mem_cons.mpr ⟨hrecord, hall⟩)
      · exact Or.inr ⟨c :: pre, d, post, f, rfl, List.forall_mem_cons.mpr ⟨hrecord, hpre⟩, hd⟩

/-- There is one record for each command, in order. -/
theorem map_command_records (s : σ) (cs : List Command) :
    (x.records host s cs).map ExecutionRecord.command = cs := by
  induction cs generalizing s with
  | nil => rfl
  | cons c cs ih =>
    rw [records, List.map_cons, ih]
    cases x.answer host s c <;> rfl

/-- A record names the process of its command. -/
theorem map_argv_records (s : σ) (cs : List Command) :
    (x.records host s cs).map ExecutionRecord.argv = cs.map x.policy.argv := by
  induction cs generalizing s with
  | nil => rfl
  | cons c cs ih =>
    rw [records, List.map_cons, List.map_cons, ih]
    cases x.answer host s c <;> rfl

variable {host} in
/-- On a host on which no process fails, every command gives an output. -/
theorem exists_answer (succeeds : host.Succeeds) (s : σ) (c : Command) :
    ∃ output, x.answer host s c = .ok output := by
  obtain ⟨output, houtput⟩ := succeeds s (x.policy.argv c)
  exact ⟨output.getD "", by rw [answer, houtput]; rfl⟩

variable {host} in
/-- On a host on which no process fails, no record has an error. -/
theorem error_of_succeeds (succeeds : host.Succeeds) {s : σ} {cs : List Command} :
    ∀ r ∈ x.records host s cs, r.error = none := by
  rcases x.records_cases host s cs with hnone | ⟨pre, c, post, f, -, -, hfailed⟩
  · exact hnone
  · obtain ⟨output, houtput⟩ := x.exists_answer succeeds (x.last host s pre) c
    rw [houtput] at hfailed
    cases hfailed

/-! ## Simulated commands -/

/-- The record of a command that is only simulated. -/
def skipped (c : Command) : ExecutionRecord := ⟨c, x.policy.argv c, "", none, true⟩

/-- A process that is only simulated is not started, and counts as one without output. -/
theorem does_tryRun_simulated (hsim : x.policy.simulate = true) (argv : List String) (s : σ) :
    (x.tryRun argv).Does host s [] (.ok (.ok "")) s := by
  unfold tryRun
  refine (does_note _ _ _).bind ?_
  rw [hsim]
  exact does_pure _

theorem does_execute_simulated (hsim : x.policy.simulate = true) (c : Command) (s : σ) :
    (x.execute c : Action σ String).Does host s [] (.ok "") s :=
  (x.does_tryRun_simulated host hsim _ s).bind (does_pure _)

theorem does_applyOne_simulated (hsim : x.policy.simulate = true) (c : Command) (s : σ) :
    (x.applyOne c).Does host s [] (.ok (x.skipped c)) s := by
  rw [skipped, ← hsim]
  exact (x.does_tryRun_simulated host hsim _ s).bind (does_pure _)

/-- **Commands that are only simulated start nothing**, and each has a record. -/
theorem does_apply_simulated (hsim : x.policy.simulate = true) (cs : List Command) (s : σ) :
    (x.apply cs).Does host s [] (.ok (cs.map x.skipped)) s := by
  refine x.does_apply host ?_
  induction cs with
  | nil => exact does_pure []
  | cons c cs ih =>
    rw [List.mapM_cons]
    exact (x.does_applyOne_simulated host hsim c s).bind (ih.bind (does_pure _))

end Executor

end PodRedirect
