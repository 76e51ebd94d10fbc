import PodRedirect.Host

/-!
# What an action does

What an action comes to on a host, apart from what it says to the log: the requests that it makes,
in order, its result, and the state it leaves the host in. The journal that was kept before has no
part in it. Actions are composed request by request: one that does this, and after it another that
does that, do this and that.

## Main definitions

* `Event.IsRequest`: a question to the host or the start of a process
* `Event.processes`: the processes among events
* `Action.Does`: what an action does on a host in a state
* `Action.Computes`: an action that has the same result on every host, without a request

## Main results

* `Action.Does.bind`, `Action.Does.bind_error`: two actions one after the other
* `Action.Does.unique`: an action does one thing only
* `Action.Computes.bind`: two actions without requests
-/

namespace PodRedirect

namespace Event

/-- The event is a request to the host, and no entry of the log. -/
def isRequest : Event → Bool
  | looked _ | started _ => true
  | logged _ => false

/-- The process that was started, if one was. -/
def process? : Event → Option (List String)
  | started argv => some argv
  | _ => none

/-- The processes that were started, in order. -/
def processes (es : List Event) : List (List String) := es.filterMap process?

/-- The requests in a journal, in order. -/
def requests (journal : Array Event) : List Event := journal.toList.filter isRequest

@[simp] theorem processes_append (es fs : List Event) :
    processes (es ++ fs) = processes es ++ processes fs := List.filterMap_append

@[simp] theorem processes_map_started (argvs : List (List String)) :
    processes (argvs.map started) = argvs := by
  rw [processes, List.filterMap_map]
  exact List.filterMap_some

@[simp] theorem processes_map_looked (names : List String) : processes (names.map looked) = [] := by
  rw [processes, List.filterMap_map]
  exact List.filterMap_eq_nil_iff.mpr fun _ _ => rfl

/-- What is logged is no process. -/
theorem processes_filter_isRequest (es : List Event) :
    processes (es.filter isRequest) = processes es := by
  have hkept : (fun e => if isRequest e then process? e else none) = process? :=
    funext fun e => by cases e <;> rfl
  rw [processes, List.filterMap_filter, hkept, processes]

theorem requests_push (journal : Array Event) (e : Event) :
    requests (journal.push e) = requests journal ++ [e].filter isRequest := by
  rw [requests, Array.toList_push, List.filter_append, ← requests]

end Event

open Event (requests)

namespace Action

variable {σ α β : Type} {host : Host σ} {s t u : σ} {es fs : List Event}

/-- On a host in state `s`, the action makes the requests `es` in order, ends with `r`, and leaves
the host in state `t`, whatever is in the journal. -/
def Does (a : Action σ α) (host : Host σ) (s : σ) (es : List Event) (r : Except Failure α)
    (t : σ) : Prop :=
  ∀ journal, ∃ journal', a.perform host ⟨s, journal⟩ = (r, ⟨t, journal'⟩) ∧
    requests journal' = requests journal ++ es

/-- **An action does one thing only.** -/
theorem Does.unique {a : Action σ α} {r r' : Except Failure α} (h : a.Does host s es r t)
    (h' : a.Does host s fs r' u) : es = fs ∧ r = r' ∧ t = u := by
  -- one journal to start with tells the two apart as well as any other
  obtain ⟨journal, hrun, hrequests⟩ := h #[]
  obtain ⟨journal', hrun', hrequests'⟩ := h' #[]
  rw [hrun] at hrun'
  cases hrun'
  rw [hrequests] at hrequests'
  exact ⟨List.append_cancel_left hrequests', rfl, rfl⟩

/-- The processes of an action are those in the journal that it leaves. -/
theorem Does.processes_perform {a : Action σ α} {r : Except Failure α} (h : a.Does host s es r t) :
    Event.processes (requests (a.perform host ⟨s, #[]⟩).2.journal) = Event.processes es := by
  obtain ⟨journal, hrun, hrequests⟩ := h #[]
  rw [hrun, hrequests]
  rfl

/-! ## Single requests -/

theorem does_pure (x : α) : (pure x : Action σ α).Does host s [] (.ok x) s := fun journal =>
  ⟨journal, rfl, (List.append_nil _).symm⟩

theorem does_throw (f : Failure) : (throw f : Action σ α).Does host s [] (.error f) s :=
  fun journal => ⟨journal, rfl, (List.append_nil _).symm⟩

theorem does_logged (e : Log.Entry) :
    (record (.logged e) : Action σ Unit).Does host s [] (.ok ()) s := fun journal =>
  ⟨_, perform_record _ host _, Event.requests_push journal _⟩

theorem does_note (source : Log.Source) (level : Log.Level) (message : String) :
    (note source level message : Action σ Unit).Does host s [] (.ok ()) s := does_logged _

theorem does_look (name : String) :
    (look name : Action σ Bool).Does host s [.looked name] (.ok (host.resolves s name).1)
      (host.resolves s name).2 := fun journal =>
  ⟨_, perform_look name host _, Event.requests_push journal _⟩

theorem does_start (argv : List String) :
    (start argv : Action σ Outcome).Does host s [.started argv] (.ok (host.start s argv).1)
      (host.start s argv).2 := fun journal =>
  ⟨_, perform_start argv host _, Event.requests_push journal _⟩

/-! ## Composition -/

/-- Of two actions, the second goes on where the first ended. -/
theorem Does.bind {a : Action σ α} {f : α → Action σ β} {x : α} {r : Except Failure β}
    (h : a.Does host s es (.ok x) t) (h' : (f x).Does host t fs r u) :
    (a >>= f).Does host s (es ++ fs) r u := fun journal => by
  obtain ⟨journal', hrun, hrequests⟩ := h journal
  obtain ⟨journal'', hrun', hrequests'⟩ := h' journal'
  refine ⟨journal'', ?_, ?_⟩
  · rw [perform_bind, hrun]
    exact hrun'
  · rw [hrequests', hrequests, List.append_assoc]

/-- Of two actions, the second is left out if the first fails. -/
theorem Does.bind_error {a : Action σ α} {f : α → Action σ β} {e : Failure}
    (h : a.Does host s es (.error e) t) : (a >>= f).Does host s es (.error e) t := fun journal => by
  obtain ⟨journal', hrun, hrequests⟩ := h journal
  exact ⟨journal', by rw [perform_bind, hrun], hrequests⟩

/-- Of two actions, the second makes no requests. -/
theorem Does.bind_nil {a : Action σ α} {f : α → Action σ β} {x : α} {r : Except Failure β}
    (h : a.Does host s es (.ok x) t) (h' : (f x).Does host t [] r u) :
    (a >>= f).Does host s es r u := by
  have hboth := h.bind h'
  rwa [List.append_nil] at hboth

theorem Does.attempt {a : Action σ α} {r : Except Failure α} (h : a.Does host s es r t) :
    a.attempt.Does host s es (.ok r) t := fun journal => by
  obtain ⟨journal', hrun, hrequests⟩ := h journal
  exact ⟨journal', by rw [perform_attempt, hrun], hrequests⟩

/-- Entries for the log change nothing. -/
theorem does_forIn_logged (said : List Log.Entry) :
    (forIn said PUnit.unit fun e _ => do
      record (.logged e)
      pure (ForInStep.yield PUnit.unit) : Action σ PUnit).Does host s [] (.ok PUnit.unit) s := by
  induction said with
  | nil => exact does_pure _
  | cons e said ih =>
    have hstep : (do
        record (.logged e)
        pure (ForInStep.yield PUnit.unit) : Action σ (ForInStep PUnit)).Does host s []
          (.ok (.yield .unit)) s := (does_logged e).bind (does_pure _)
    rw [List.forIn_cons]
    exact hstep.bind ih

/-! ## Actions without requests -/

/-- On every host the action makes no request and ends with `r`. -/
def Computes (a : Action σ α) (r : Except Failure α) : Prop :=
  ∀ (host : Host σ) s, a.Does host s [] r s

theorem computes_pure (x : α) : (pure x : Action σ α).Computes (.ok x) := fun _ _ => does_pure x

theorem computes_throw (f : Failure) : (throw f : Action σ α).Computes (.error f) :=
  fun _ _ => does_throw f

theorem computes_note (source : Log.Source) (level : Log.Level) (message : String) :
    (note source level message : Action σ Unit).Computes (.ok ()) :=
  fun _ _ => does_note source level message

theorem computes_except (x : Except Failure α) : (liftM x : Action σ α).Computes x := by
  cases x with
  | ok x => exact computes_pure x
  | error f => exact computes_throw f

/-- Two actions without requests come to what their results come to. -/
theorem Computes.bind {a : Action σ α} {f : α → Action σ β} {r : Except Failure α}
    {g : α → Except Failure β} (h : a.Computes r) (h' : ∀ x, (f x).Computes (g x)) :
    (a >>= f).Computes (r >>= g) := fun host s => by
  cases r with
  | ok x => exact (h host s).bind (h' x host s)
  | error e => exact (h host s).bind_error

/-- So do actions for the members of a list. -/
theorem computes_mapM {f : β → Action σ α} {g : β → Except Failure α}
    (h : ∀ x, (f x).Computes (g x)) (xs : List β) : (xs.mapM f).Computes (xs.mapM g) := by
  induction xs with
  | nil => exact computes_pure []
  | cons x xs ih =>
    rw [List.mapM_cons, List.mapM_cons]
    exact (h x).bind fun y => ih.bind fun ys => computes_pure (y :: ys)

/-- A computation that logs has its own result. -/
theorem computes_ofLogged (x : Logged Failure α) :
    (ofLogged x : Action σ α).Computes (x.run #[]).1 := fun host s => by
  unfold ofLogged
  rcases x.run #[] with ⟨result, said⟩
  refine (does_forIn_logged said.toList).bind ?_
  cases result with
  | ok a => exact does_pure a
  | error f => exact does_throw f

end Action

end PodRedirect
