import PodRedirect.Proofs.Session
import PodRedirect.Executor

/-!
# What an action leaves in the journal

All that an action does is added to the journal, the entries for the log as well as the requests,
and what was there before has no part in it. Two facts about an action are carried from its steps to
the whole: what it writes from one state of the host, and what it ensures from every state, about
its result and about the processes that it starts.

## Main definitions

* `Action.Writes`: what an action adds to the journal, its result, and the state it leaves
* `Action.Ensures`: what holds of the result from every state, where processes are started under a
  condition only
* `Action.StartsOnlyIf`, `Action.Returns`: the same with no more than that condition, and for an
  action that does not fail

## Main results

* `Action.Writes.bind`, `Action.Writes.bind_error`: two actions one after the other
* `Action.Ensures.bind`: what two actions ensure, from what each of them ensures
* `Executor.ensures_run`, `Executor.startsOnlyIf_apply`: a simulated policy starts no process
-/

namespace PodRedirect

theorem Event.processes_eq_nil_iff {es : List Event} :
    processes es = [] ↔ ∀ argv, .started argv ∉ es := by
  rw [processes, List.filterMap_eq_nil_iff]
  constructor
  · intro h argv hmem
    cases h _ hmem
  · intro h e hmem
    cases e with
    | started argv => exact absurd hmem (h argv)
    | looked _ => rfl
    | logged _ => rfl

namespace Action

variable {σ α β : Type} {host : Host σ} {s t u : σ} {es fs : List Event}

/-! ## What an action writes -/

/-- On a host in state `s`, the action adds the events `es` to the journal, ends with `r`, and
leaves the host in state `t`, whatever is in the journal. -/
def Writes (a : Action σ α) (host : Host σ) (s : σ) (es : List Event) (r : Except Failure α)
    (t : σ) : Prop :=
  ∀ journal, a.perform host ⟨s, journal⟩ = (r, ⟨t, journal ++ es.toArray⟩)

theorem writes_pure (x : α) : (pure x : Action σ α).Writes host s [] (.ok x) s := fun journal => by
  rw [perform_pure, Array.append_empty]

theorem writes_throw (f : Failure) : (throw f : Action σ α).Writes host s [] (.error f) s :=
  fun journal => by rw [perform_throw, Array.append_empty]

theorem writes_record (e : Event) :
    (record e : Action σ Unit).Writes host s [e] (.ok ()) s := fun journal => by
  rw [perform_record, Array.push_eq_append]

theorem writes_look (name : String) :
    (look name : Action σ Bool).Writes host s [.looked name] (.ok (host.resolves s name).1)
      (host.resolves s name).2 := fun journal => by
  rw [perform_look, Array.push_eq_append]

theorem writes_start (argv : List String) :
    (start argv : Action σ Outcome).Writes host s [.started argv] (.ok (host.start s argv).1)
      (host.start s argv).2 := fun journal => by
  rw [perform_start, Array.push_eq_append]

/-- Of two actions, the second goes on where the first ended. -/
theorem Writes.bind {a : Action σ α} {f : α → Action σ β} {x : α} {r : Except Failure β}
    (h : a.Writes host s es (.ok x) t) (h' : (f x).Writes host t fs r u) :
    (a >>= f).Writes host s (es ++ fs) r u := fun journal => by
  have hjournal : journal ++ es.toArray ++ fs.toArray = journal ++ (es ++ fs).toArray := by simp
  rw [perform_bind, h journal, ← hjournal]
  exact h' _

/-- Of two actions, the second is left out if the first fails. -/
theorem Writes.bind_error {a : Action σ α} {f : α → Action σ β} {e : Failure}
    (h : a.Writes host s es (.error e) t) : (a >>= f).Writes host s es (.error e) t :=
  fun journal => by rw [perform_bind, h journal]

theorem Writes.attempt {a : Action σ α} {r : Except Failure α} (h : a.Writes host s es r t) :
    a.attempt.Writes host s es (.ok r) t := fun journal => by
  rw [perform_attempt, h journal]

/-- What an action writes but for the entries of the log is what it does. -/
theorem Writes.does {a : Action σ α} {r : Except Failure α} (h : a.Writes host s es r t) :
    a.Does host s (es.filter Event.isRequest) r t := fun journal => by
  refine ⟨_, h journal, ?_⟩
  rw [Event.requests, Event.requests, Array.toList_append, List.filter_append]

/-- A loop whose rounds write to the journal only writes all of that. -/
theorem writes_forIn {f : β → PUnit → Action σ (ForInStep PUnit)} {g : β → List Event}
    (h : ∀ x, (f x .unit).Writes host s (g x) (.ok (.yield .unit)) s) (xs : List β) :
    (forIn xs PUnit.unit f).Writes host s (xs.flatMap g) (.ok .unit) s := by
  induction xs with
  | nil => exact writes_pure _
  | cons x xs ih =>
    rw [List.forIn_cons, List.flatMap_cons]
    exact (h x).bind ih

/-! ## What an action ensures -/

/-- From every state of the host the action ends with a result that satisfies `Q`, and starts
processes only if `live` holds. -/
def Ensures (a : Action σ α) (host : Host σ) (live : Prop) (Q : Except Failure α → Prop) : Prop :=
  ∀ s, ∃ es r t, a.Writes host s es r t ∧ (∀ argv, .started argv ∈ es → live) ∧ Q r

/-- The action starts processes only if `live` holds, however it ends. -/
abbrev StartsOnlyIf (a : Action σ α) (host : Host σ) (live : Prop) : Prop :=
  a.Ensures host live fun _ => True

/-- The action does not fail, and what it gives satisfies `P`. -/
abbrev Returns (a : Action σ α) (host : Host σ) (live : Prop) (P : α → Prop) : Prop :=
  a.Ensures host live fun r => ∃ x, r = .ok x ∧ P x

section Ensures

variable {live : Prop} {Q R : Except Failure α → Prop} {P : α → Prop}

/-- What an action ensures holds of its result in every session. -/
theorem Ensures.perform {a : Action σ α} (h : a.Ensures host live Q) (session : Session σ) :
    Q (a.perform host session).1 := by
  obtain ⟨es, r, t, hwrites, -, hQ⟩ := h session.state
  rw [hwrites session.journal]
  exact hQ

theorem Ensures.ended {a : Action σ α} {r : Except Failure α} {session : Session σ}
    (h : a.Ensures host live Q) (ended : (a.perform host session).1 = r) : Q r :=
  ended ▸ h.perform session

theorem Ensures.mono {a : Action σ α} (h : a.Ensures host live Q) (weaker : ∀ r, Q r → R r) :
    a.Ensures host live R := fun s => by
  obtain ⟨es, r, t, hwrites, hlive, hQ⟩ := h s
  exact ⟨es, r, t, hwrites, hlive, weaker r hQ⟩

/-- An action that starts no process does so under every condition. -/
theorem Ensures.of_idle {a : Action σ α} (h : a.Ensures host False Q) :
    a.Ensures host live Q := fun s => by
  obtain ⟨es, r, t, hwrites, hidle, hQ⟩ := h s
  exact ⟨es, r, t, hwrites, fun argv hmem => (hidle argv hmem).elim, hQ⟩

theorem ensures_pure {x : α} (h : Q (.ok x)) : (pure x : Action σ α).Ensures host live Q :=
  fun s => ⟨[], .ok x, s, writes_pure x, fun _ hmem => absurd hmem List.not_mem_nil, h⟩

theorem ensures_throw {f : Failure} (h : Q (.error f)) :
    (throw f : Action σ α).Ensures host live Q := fun s =>
  ⟨[], .error f, s, writes_throw f, fun _ hmem => absurd hmem List.not_mem_nil, h⟩

/-- What stands behind a failure is left out. -/
theorem ensures_throw_bind {f : Failure} {g : β → Action σ α} (h : Q (.error f)) :
    ((throw f : Action σ β) >>= g).Ensures host live Q := fun s =>
  ⟨[], .error f, s, (writes_throw f).bind_error, fun _ hmem => absurd hmem List.not_mem_nil, h⟩

/-- What an action does is what it writes, but for the entries of the log. -/
theorem Ensures.exists_writes {a : Action σ α} {r : Except Failure α} (h : a.Ensures host live Q)
    (does : a.Does host s es r t) :
    ∃ said, a.Writes host s said r t ∧ said.filter Event.isRequest = es := by
  obtain ⟨said, r', t', hwrites, -, -⟩ := h s
  obtain ⟨hrequests, rfl, rfl⟩ := hwrites.does.unique does
  exact ⟨said, hwrites, hrequests⟩

/-- A result that no host has a part in is the result. -/
theorem ensures_except (x : Except Failure α) :
    (liftM x : Action σ α).Ensures host live fun r => r = x := by
  cases x with
  | ok x => exact ensures_pure rfl
  | error f => exact ensures_throw rfl

theorem returns_pure {x : α} (h : P x) : (pure x : Action σ α).Returns host live P :=
  ensures_pure ⟨x, rfl, h⟩

theorem returns_logged (e : Log.Entry) :
    (record (.logged e) : Action σ Unit).Returns host live fun _ => True := fun s =>
  ⟨[.logged e], .ok (), s, writes_record _, fun argv hmem => by simp at hmem, (), rfl, trivial⟩

theorem returns_note (source : Log.Source) (level : Log.Level) (message : String) :
    (note source level message : Action σ Unit).Returns host live fun _ => True := returns_logged _

theorem returns_look {name : String} {P : Bool → Prop} (h : ∀ s, P (host.resolves s name).1) :
    (look name : Action σ Bool).Returns host live P := fun s =>
  ⟨[.looked name], _, _, writes_look name, fun argv hmem => by simp at hmem, _, rfl, h s⟩

theorem returns_start (argv : List String) (hlive : live) :
    (start argv : Action σ Outcome).Returns host live fun _ => True := fun _ =>
  ⟨[.started argv], _, _, writes_start argv, fun _ _ => hlive, _, rfl, trivial⟩

/-- **Two actions ensure what the second does after each result of the first**, and what the first
does if it fails. -/
theorem Ensures.bind {a : Action σ β} {f : β → Action σ α} {Q' : Except Failure β → Prop}
    (h : a.Ensures host live Q') (ok : ∀ x, Q' (.ok x) → (f x).Ensures host live Q)
    (error : ∀ e, Q' (.error e) → Q (.error e)) : (a >>= f).Ensures host live Q := by
  intro s
  obtain ⟨es, r, t, hwrites, hlive, hQ'⟩ := h s
  cases r with
  | error e => exact ⟨es, .error e, t, hwrites.bind_error, hlive, error e hQ'⟩
  | ok x =>
    obtain ⟨fs, r, u, hwrites', hlive', hQ⟩ := ok x hQ' t
    refine ⟨es ++ fs, r, u, hwrites.bind hwrites', fun argv hmem => ?_, hQ⟩
    exact (List.mem_append.mp hmem).elim (hlive argv) (hlive' argv)

/-- After an action that does not fail, the second one decides. -/
theorem Returns.bind {a : Action σ β} {f : β → Action σ α} {P : β → Prop}
    (h : a.Returns host live P) (h' : ∀ x, P x → (f x).Ensures host live Q) :
    (a >>= f).Ensures host live Q := by
  refine Ensures.bind h ?_ ?_
  · rintro x ⟨y, hy, hP⟩
    cases hy
    exact h' x hP
  · rintro e ⟨y, hy, -⟩
    cases hy

/-- What is said to the log before an action does not matter. -/
theorem Ensures.after_note {f : Unit → Action σ α} {source : Log.Source} {level : Log.Level}
    {message : String} (h : (f ()).Ensures host live Q) :
    (note source level message >>= f).Ensures host live Q :=
  (returns_note source level message).bind fun _ _ => h

theorem Ensures.after_pure {x : β} {f : β → Action σ α} (h : (f x).Ensures host live Q) :
    (pure x >>= f : Action σ α).Ensures host live Q := by
  refine (returns_pure (P := fun y => y = x) rfl).bind ?_
  rintro _ rfl
  exact h

/-- An attempt gives the result of the action. -/
theorem Ensures.attempt {a : Action σ α} (h : a.Ensures host live Q) :
    a.attempt.Returns host live Q := fun s => by
  obtain ⟨es, r, t, hwrites, hlive, hQ⟩ := h s
  exact ⟨es, .ok r, t, hwrites.attempt, hlive, r, rfl, hQ⟩

/-- Two actions start processes only if one of them does. -/
theorem StartsOnlyIf.bind {a : Action σ β} {f : β → Action σ α} (h : a.StartsOnlyIf host live)
    (h' : ∀ x, (f x).StartsOnlyIf host live) : (a >>= f).StartsOnlyIf host live :=
  Ensures.bind h (fun x _ => h' x) fun _ _ => trivial

/-- Where the condition does not hold, no process is started. -/
theorem StartsOnlyIf.exists_does {a : Action σ α} (h : a.StartsOnlyIf host live) (idle : ¬live)
    (s : σ) : ∃ es r t, a.Does host s es r t ∧ Event.processes es = [] := by
  obtain ⟨es, r, t, hwrites, hlive, -⟩ := h s
  refine ⟨_, r, t, hwrites.does, Event.processes_eq_nil_iff.mpr fun argv hmem => ?_⟩
  exact idle (hlive argv (List.mem_filter.mp hmem).1)

/-- Actions for the members of a list start processes only if one of them does. -/
theorem startsOnlyIf_mapM {f : β → Action σ α} (h : ∀ x, (f x).StartsOnlyIf host live)
    (xs : List β) : (xs.mapM f).StartsOnlyIf host live := by
  induction xs with
  | nil => exact ensures_pure trivial
  | cons x xs ih =>
    rw [List.mapM_cons]
    exact (h x).bind fun y => ih.bind fun ys => ensures_pure trivial

/-- A loop does not fail if none of its rounds does. -/
theorem returns_forIn {f : β → PUnit → Action σ (ForInStep PUnit)}
    (h : ∀ x, (f x .unit).Returns host live fun _ => True) (xs : List β) :
    (forIn xs PUnit.unit f).Returns host live fun _ => True := by
  induction xs with
  | nil => exact returns_pure trivial
  | cons x xs ih =>
    rw [List.forIn_cons]
    refine (h x).bind fun step _ => ?_
    cases step with
    | done _ => exact returns_pure trivial
    | yield _ => exact ih

theorem returns_forIn_logged (said : List Log.Entry) :
    (forIn said PUnit.unit fun e _ => do
      record (.logged e)
      pure (ForInStep.yield PUnit.unit) : Action σ PUnit).Returns host live fun _ => True :=
  returns_forIn (fun e => (returns_logged e).bind fun _ _ => returns_pure trivial) said

/-- A computation that logs has its own result on every host. -/
theorem ensures_ofLogged (x : Logged Failure α) :
    (ofLogged x : Action σ α).Ensures host live fun r => r = (x.run #[]).1 := by
  unfold ofLogged
  rcases x.run #[] with ⟨result, said⟩
  refine (returns_forIn_logged said.toList).bind fun _ _ => ?_
  cases result with
  | ok a => exact ensures_pure rfl
  | error f => exact ensures_throw rfl

end Ensures

end Action

/-! ## Commands of a policy -/

namespace Executor

open PodRedirect.Action

variable {σ : Type} {host : Host σ} (x : Executor)

theorem returns_tryRun (argv : List String) :
    (x.tryRun argv).Returns host (x.policy.simulate = false) fun _ => True := by
  unfold tryRun
  refine Ensures.after_note ?_
  cases hsim : x.policy.simulate with
  | true => exact returns_pure trivial
  | false =>
    refine (returns_start argv rfl).bind fun outcome _ => ?_
    -- what the process has written may be logged
    cases outcome with
    | notStarted reason => exact returns_pure trivial
    | exited status output =>
      cases output with
      | none => exact returns_pure trivial
      | some output =>
        dsimp only
        split
        · exact Ensures.after_note (returns_pure trivial)
        · exact returns_pure trivial

/-- A command fails only as its process does. -/
theorem ensures_run (argv : List String) :
    (x.run argv).Ensures host (x.policy.simulate = false)
      fun r => ∀ f, r = .error f → f.isExpected = true := by
  refine (x.returns_tryRun argv).bind fun answer _ => ?_
  cases answer with
  | ok output => exact ensures_pure fun f hf => nomatch hf
  | error f =>
    refine ensures_throw fun f' hf => ?_
    cases hf
    rfl

theorem startsOnlyIf_applyOne (c : Command) :
    (x.applyOne c).StartsOnlyIf host (x.policy.simulate = false) := by
  refine (x.returns_tryRun _).bind fun answer _ => ?_
  cases answer with
  | ok output => exact ensures_pure trivial
  | error f =>
    dsimp only
    split
    · exact ensures_throw_bind trivial
    · exact Ensures.after_note (ensures_pure trivial)

theorem startsOnlyIf_apply (cs : List Command) :
    (x.apply cs).StartsOnlyIf host (x.policy.simulate = false) := by
  unfold apply
  split
  · exact Ensures.after_note (startsOnlyIf_mapM x.startsOnlyIf_applyOne cs)
  · exact startsOnlyIf_mapM x.startsOnlyIf_applyOne cs

end Executor

end PodRedirect
