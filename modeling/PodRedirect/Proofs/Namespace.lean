import PodRedirect.Proofs.DryRun

/-!
# Processes of a policy with a network namespace

A policy with a network namespace lists and changes rules inside it: what lists rules to find the
flavour in use, what lists them before and after a run, and what changes them. Each of these
processes enters the namespace once.

## Main definitions

* `Action.Confined`: an action that starts processes of one kind only
* `Policy.Inside`: a process that enters a namespace, once

## Main results

* `Action.Confined.bind`: two actions one after the other
* `Run.confined_resolveBackend`, `Run.confined_dualStack`: finding binaries, and running policies
-/

namespace PodRedirect

namespace Action

variable {σ α β : Type} {host : Host σ} {P : List String → Prop}

/-! ## Actions that start processes of one kind -/

/-- From every state of the host the action starts only processes that satisfy `P`. -/
def Confined (a : Action σ α) (host : Host σ) (P : List String → Prop) : Prop :=
  ∀ s, ∃ es r t, a.Does host s es r t ∧ ∀ argv ∈ Event.processes es, P argv

/-- An action that starts no process starts none of another kind. -/
theorem Ensures.confined {a : Action σ α} {Q : Except Failure α → Prop}
    (h : a.Ensures host False Q) : a.Confined host P := by
  intro s
  obtain ⟨es, r, t, does, hidle⟩ := StartsOnlyIf.exists_does (h.mono fun _ _ => trivial) id s
  refine ⟨es, r, t, does, fun argv hmem => ?_⟩
  rw [hidle] at hmem
  cases hmem

/-- So does one that makes no request. -/
theorem Computes.confined {a : Action σ α} {r : Except Failure α} (h : a.Computes r) :
    a.Confined host P := fun s => ⟨[], r, s, h host s, nofun⟩

theorem confined_start {argv : List String} (h : P argv) :
    (start argv : Action σ Outcome).Confined host P := by
  intro s
  refine ⟨_, _, _, does_start argv, fun argv' hmem => ?_⟩
  rw [List.mem_singleton.mp hmem]
  exact h

theorem Confined.attempt {a : Action σ α} (h : a.Confined host P) : a.attempt.Confined host P := by
  intro s
  obtain ⟨es, r, t, does, hes⟩ := h s
  exact ⟨es, .ok r, t, does.attempt, hes⟩

/-- **Of two actions, the second starts processes of the kind after every result of the first** that
this can have. -/
theorem Confined.bind_of {a : Action σ β} {f : β → Action σ α} {Q : Except Failure β → Prop}
    (h : a.Confined host P) (ends : ∀ session, Q (a.perform host session).1)
    (h' : ∀ x, Q (.ok x) → (f x).Confined host P) : (a >>= f).Confined host P := by
  intro s
  obtain ⟨es, r, t, does, hes⟩ := h s
  have hQ : Q r := by
    obtain ⟨journal, hrun, -⟩ := does #[]
    have hends := ends ⟨s, #[]⟩
    rwa [hrun] at hends
  cases r with
  | error e => exact ⟨es, .error e, t, does.bind_error, hes⟩
  | ok x =>
    obtain ⟨fs, r, u, does', hfs⟩ := h' x hQ t
    refine ⟨es ++ fs, r, u, does.bind does', fun argv hmem => ?_⟩
    rw [Event.processes_append] at hmem
    exact (List.mem_append.mp hmem).elim (hes argv) (hfs argv)

theorem Confined.bind {a : Action σ β} {f : β → Action σ α} (h : a.Confined host P)
    (h' : ∀ x, (f x).Confined host P) : (a >>= f).Confined host P :=
  h.bind_of (Q := fun _ => True) (fun _ => trivial) fun x _ => h' x

theorem Confined.bind_ensures {a : Action σ β} {f : β → Action σ α} {Q : Except Failure β → Prop}
    {live : Prop} (h : a.Confined host P) (ends : a.Ensures host live Q)
    (h' : ∀ x, Q (.ok x) → (f x).Confined host P) : (a >>= f).Confined host P :=
  h.bind_of ends.perform h'

/-- An action that starts no process leaves it to the one after it. -/
theorem Ensures.confined_bind {a : Action σ β} {f : β → Action σ α} {Q : Except Failure β → Prop}
    (h : a.Ensures host False Q) (h' : ∀ x, Q (.ok x) → (f x).Confined host P) :
    (a >>= f).Confined host P :=
  h.confined.bind_ensures h h'

theorem Confined.after_note {f : Unit → Action σ α} {source : Log.Source} {level : Log.Level}
    {message : String} (h : (f ()).Confined host P) :
    (note source level message >>= f).Confined host P :=
  (returns_note source level message).confined_bind fun _ _ => h

theorem confined_pure (x : α) : (pure x : Action σ α).Confined host P :=
  (ensures_pure (Q := fun _ => True) trivial).confined

theorem confined_throw (f : Failure) : (throw f : Action σ α).Confined host P :=
  (ensures_throw (Q := fun _ => True) trivial).confined

/-- What stands behind a failure is left out. -/
theorem confined_throw_bind {f : Failure} {g : β → Action σ α} :
    ((throw f : Action σ β) >>= g).Confined host P :=
  (ensures_throw_bind (Q := fun _ => True) trivial).confined

theorem confined_mapM {f : β → Action σ α} {xs : List β}
    (h : ∀ x ∈ xs, (f x).Confined host P) : (xs.mapM f).Confined host P := by
  induction xs with
  | nil => exact confined_pure []
  | cons x xs ih =>
    obtain ⟨hx, hxs⟩ := List.forall_mem_cons.mp h
    rw [List.mapM_cons]
    exact hx.bind fun y => (ih hxs).bind fun ys => confined_pure (y :: ys)

end Action

open PodRedirect.Action

variable {σ : Type} {host : Host σ} {P : List String → Prop}

/-! ## Processes inside a namespace -/

namespace Policy

/-- What a process inside a network namespace is started with. -/
def entering (ns : String) : List String := ["nsenter", "--net=" ++ ns, "--"]

/-- The process enters the network namespace, and what it is there does not do so again. -/
def Inside (ns : String) (argv : List String) : Prop :=
  ∃ inner, argv = entering ns ++ inner ∧ ¬entering ns <+: inner

variable {p : Policy}

theorem inside_wrap {binary : String} {args : List String} (inside : p.netns ≠ "")
    (h : args.head? ≠ some ("--net=" ++ p.netns)) : Inside p.netns (p.wrap (binary :: args)) := by
  refine ⟨binary :: args, ?_, fun hagain => h ?_⟩
  · rw [wrap, if_neg (by simpa using inside)]
    rfl
  · obtain ⟨rest, hrest⟩ := hagain
    rw [← (List.cons.inj hrest).2]
    rfl

/-- No namespace is entered with the option that names a table. -/
theorem table_ne_net (ns : String) : "-t" ≠ "--net=" ++ ns := by
  intro h
  have hlist := congrArg String.toList h
  rw [String.toList_append] at hlist
  exact absurd (List.cons.inj (List.cons.inj hlist).2).1 (by decide)

theorem inside_argv {c : Command} (inside : p.netns ≠ "") (h : c.args.head? = some "-t") :
    Inside p.netns (p.argv c) := by
  have hnet : (some "-t" : Option String) ≠ some ("--net=" ++ p.netns) := fun heq =>
    table_ne_net p.netns (Option.some.inj heq)
  unfold argv
  split
  · exact inside_wrap inside (h ▸ hnet)
  · -- the flag to wait stands behind the arguments of the command
    rw [List.cons_append]
    refine inside_wrap inside ?_
    rw [List.head?_append_of_ne_nil _ (by rintro hnil; rw [hnil] at h; cases h), h]
    exact hnet

end Policy

/-! ## Commands -/

namespace Compiler

variable {p : Policy} {traceId : String} {i : Installed} {d : Direction} {c : Command}

theorem Fills.head?_args (h : Fills traceId d c) : c.args.head? = some "-t" := by
  obtain ⟨s, tag, rfl, -⟩ := h
  rfl

theorem head?_args_of_mem_directed (h : c ∈ commands (directed p traceId i d)) :
    c.args.head? = some "-t" := by
  rw [directed, commands_append, commands_append, commands_ensureChain, commands_ensureJump,
    List.mem_append, List.mem_append] at h
  rcases h with (h | h) | h
  · rw [List.mem_singleton.mp h]
    split <;> rfl
  · exact (fills_body p traceId d h).head?_args
  · split at h
    · cases h
    · rcases List.mem_cons.mp h with rfl | h
      · rfl
      · have hdrop := Option.mem_toList.mp h
        cases d <;>
          simp only [drop, Option.ite_none_right_eq_some, Option.some.injEq] at hdrop
        · exact hdrop.2 ▸ rfl
        · exact hdrop.2 ▸ rfl

/-- All commands of a compilation name a table first. -/
theorem head?_args_of_mem_compile {listing : String} {result : Result}
    (compiled : ((new p traceId).compile listing).1 = .ok result) (h : c ∈ result.commands) :
    c.args.head? = some "-t" := by
  rw [commands_compile p traceId compiled, List.mem_append] at h
  rcases h with h | h
  · exact head?_args_of_mem_directed h
  · exact head?_args_of_mem_directed h

theorem head?_args_of_mem_teardown (h : c ∈ teardown) : c.args.head? = some "-t" := by
  have hall : ∀ c ∈ teardown, c.args.head? = some "-t" := by decide
  exact hall c h

end Compiler

namespace Executor

variable {x : Executor}

theorem confined_tryRun {argv : List String} (h : P argv) : (x.tryRun argv).Confined host P := by
  unfold tryRun
  refine Confined.after_note ?_
  split
  · exact confined_pure _
  · refine (confined_start h).bind fun outcome => ?_
    -- what the process has written may be logged
    cases outcome with
    | notStarted reason => exact confined_pure _
    | exited status output =>
      cases output with
      | none => exact confined_pure _
      | some output =>
        dsimp only
        split
        · exact Confined.after_note (confined_pure _)
        · exact confined_pure _

theorem confined_run {argv : List String} (h : P argv) : (x.run argv).Confined host P := by
  refine (confined_tryRun h).bind fun answer => ?_
  cases answer with
  | ok output => exact confined_pure output
  | error f => exact confined_throw _

theorem confined_applyOne {c : Command} (h : P (x.policy.argv c)) :
    (x.applyOne c).Confined host P := by
  refine (confined_tryRun h).bind fun answer => ?_
  cases answer with
  | ok output => exact confined_pure _
  | error f =>
    dsimp only
    split
    · exact confined_throw_bind
    · exact Confined.after_note (confined_pure _)

theorem confined_apply {cs : List Command} (h : ∀ c ∈ cs, P (x.policy.argv c)) :
    (x.apply cs).Confined host P := by
  have hall : (cs.mapM x.applyOne).Confined host P :=
    confined_mapM fun c hc => confined_applyOne (h c hc)
  unfold apply
  split
  · exact Confined.after_note hall
  · exact hall

end Executor

/-! ## Finding the flavour in use -/

namespace Backend

variable {probe : Probe σ}

/-- The listings that a flavour is found out with start processes that satisfy `P` only. -/
def Probe.Confined (probe : Probe σ) (host : Host σ) (P : List String → Prop) : Prop :=
  ∀ save, (probe [save]).Confined host P ∧ (probe [save, "-t", "mangle"]).Confined host P

theorem confined_listing {argv : List String} (h : (probe argv).Confined host P) :
    (listing probe argv).Confined host P := by
  refine h.attempt.bind fun r => ?_
  cases r with
  | ok output => exact confined_pure output
  | error f =>
    dsimp only
    split
    · exact confined_throw_bind
    · exact Confined.after_note (confined_pure _)

theorem confined_inUse (h : probe.Confined host P) (nftSave legacySave : String) :
    (inUse probe nftSave legacySave).Confined host P := by
  unfold inUse
  refine (confined_listing (h nftSave).2).bind fun marked => ?_
  split
  · exact confined_pure _
  refine (confined_listing (h legacySave).2).bind fun marked => ?_
  split
  · exact confined_pure _
  refine (confined_listing (h legacySave).1).bind fun rules => ?_
  refine (confined_listing (h nftSave).1).bind fun rules => ?_
  exact Confined.after_note (confined_pure _)

theorem confined_detect (h : probe.Confined host P) (six : Bool) (requested : Value) :
    (detect probe six requested).Confined host P := by
  unfold detect
  refine (ensures_except _).confined_bind fun text _ => ?_
  split
  next m hm =>
    dsimp only
    split
    · exact confined_throw_bind
    refine (ensures_findBinary six (Or.inl rfl)).confined_bind fun nftSave _ => ?_
    refine (ensures_findBinary six (Or.inr rfl)).confined_bind fun legacySave _ => ?_
    refine (confined_inUse h nftSave legacySave).bind fun detected => ?_
    refine (returns_settle m detected).confined_bind fun use _ => ?_
    exact Confined.after_note (confined_pure _)
  next => exact confined_throw _

theorem confined_select (h : probe.Confined host P) (six : Bool) (requested : Value)
    (binary saveBinary : String) :
    (select probe six requested binary saveBinary).Confined host P := by
  unfold select
  split
  · exact confined_detect h six requested
  · split
    · exact confined_throw_bind
    · exact Confined.after_note (confined_pure _)

end Backend

namespace Run

open Policy (Inside)

variable {p : Policy}

/-- Binaries are found out inside the namespace of the policy. -/
theorem confined_resolveBackend (inside : p.netns ≠ "") (requested : Value) (explicit : Bool) :
    (resolveBackend p requested explicit).Confined host (Inside p.netns) := by
  unfold resolveBackend
  split
  · -- nothing is listed for binaries that are given
    refine (Backend.confined_select ?_ _ _ _ _).bind fun selection => confined_pure _
    exact fun save => ⟨confined_throw _, confined_throw _⟩
  · split
    next m hm =>
      have hprobe : Backend.Probe.Confined (fun argv => Executor.run ⟨p, ""⟩ (p.wrap argv)) host
          (Inside p.netns) := by
        intro save
        constructor
        · exact Executor.confined_run (Policy.inside_wrap inside nofun)
        · refine Executor.confined_run (Policy.inside_wrap inside fun h => ?_)
          exact Policy.table_ne_net p.netns (Option.some.inj h)
      refine (Backend.confined_select hprobe _ _ _ _).attempt.bind fun r => ?_
      split
      · exact confined_pure _
      · split
        · exact confined_throw_bind
        · exact Confined.after_note (confined_pure _)
      · exact confined_throw _
    next => exact (ensures_except _).confined_bind fun _ _ => confined_throw _

/-! ## Runs -/

variable {x : Executor}

theorem inside_listRules (inside : p.netns ≠ "") : Inside p.netns (p.argv listRules) :=
  Policy.inside_argv inside rfl

theorem confined_initialListing (inside : x.policy.netns ≠ "") :
    (initialListing x).Confined host (Inside x.policy.netns) := by
  refine (Executor.confined_run (inside_listRules inside)).attempt.bind fun r => ?_
  cases r with
  | ok rules => exact confined_pure rules
  | error f => exact Confined.after_note (confined_throw f)

theorem confined_finalListing (inside : x.policy.netns ≠ "") :
    (finalListing x).Confined host (Inside x.policy.netns) := by
  refine (Executor.confined_run (inside_listRules inside)).attempt.bind fun r => ?_
  cases r with
  | ok rules => exact confined_pure rules
  | error f => exact Confined.after_note (confined_pure _)

/-- What a compilation on a host gives is what the compiler gives. -/
theorem ensures_compile (p : Policy) (traceId listing : String) :
    (compile p traceId listing).Ensures host False
      fun r => r = ((Compiler.new p traceId).compile listing).1 := by
  unfold compile
  rcases (Compiler.new p traceId).compile listing with ⟨result, c, said⟩
  refine (returns_forIn_logged said).bind fun _ _ => ?_
  cases result with
  | ok result => exact ensures_pure rfl
  | error f => exact ensures_throw rfl

/-- The commands that a policy is compiled to are run inside its namespace. -/
theorem confined_configure (inside : p.netns ≠ "") (traceId : String) :
    (configure p traceId).Confined host (Inside p.netns) := by
  refine (returns_resolved_withBinaries p).confined_bind ?_
  rintro _ ⟨_, ⟨⟩, binary, saveBinary, rfl⟩
  let x : Executor := ⟨p.withBinaries binary saveBinary, traceId⟩
  refine Confined.after_note ?_
  refine (confined_initialListing (x := x) inside).bind fun rules => ?_
  refine (ensures_compile x.policy traceId rules).confined_bind fun result hresult => ?_
  refine Confined.bind (Executor.confined_apply fun c hc => ?_) fun records => ?_
  · have htable := Compiler.head?_args_of_mem_compile hresult.symm hc
    exact Policy.inside_argv (p := x.policy) inside htable
  · exact (confined_finalListing (x := x) inside).bind fun rules => confined_pure _

/-- So are the commands that remove a redirection. -/
theorem confined_cleanup (inside : p.netns ≠ "") (traceId : String) :
    (cleanup p traceId).Confined host (Inside p.netns) := by
  refine (returns_resolved_withBinaries p).confined_bind ?_
  rintro _ ⟨_, ⟨⟩, binary, saveBinary, rfl⟩
  let x : Executor := ⟨p.withBinaries binary saveBinary, traceId⟩
  refine Confined.after_note (Confined.after_note (Confined.after_note ?_))
  refine Confined.bind (Executor.confined_apply fun c hc => ?_) fun records => ?_
  · have htable := Compiler.head?_args_of_mem_teardown hc
    exact Policy.inside_argv (p := x.policy) inside htable
  · exact (confined_finalListing (x := x) inside).bind fun rules => confined_pure _

theorem confined_perform (inside : p.netns ≠ "") (purpose : Purpose) (traceId : String) :
    (perform purpose p traceId).Confined host (Inside p.netns) := by
  cases purpose with
  | configure => exact confined_configure inside traceId
  | cleanup => exact confined_cleanup inside traceId

/-- **Two runs start processes of a kind if each of them does.** -/
theorem confined_dualStack {purpose : Purpose} {v4 : Action σ Report}
    {v6 : Option (Action σ Report)} (first : v4.Confined host P)
    (second : ∀ leg ∈ v6, leg.Confined host P) : (dualStack purpose v4 v6).Confined host P := by
  refine first.bind fun report => ?_
  cases v6 with
  | none => exact confined_pure _
  | some leg =>
    refine Confined.bind (second leg rfl).attempt fun r => ?_
    -- whatever the second run ends with, nothing is started after it
    cases r with
    | ok report' => exact confined_pure _
    | error f =>
      cases f with
      | noBinary _ | mishap _ => exact confined_throw _
      | port _ | rejected _ | process _ | stated _ => exact Confined.after_note (confined_pure _)

end Run

end PodRedirect
