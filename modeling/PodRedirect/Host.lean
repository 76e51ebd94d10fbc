import PodRedirect.Failure
import PodRedirect.Log

/-!
# Acting on a host

A host answers two requests: whether it knows a command by a name, and what becomes of a process.
Its answers may depend on everything that was asked before. An action is a sequence of such
requests, with entries for the log between them, that ends with a value or with a failure; all of
them are written into a journal in their order.

## Main definitions

* `Host`: a host, by its answers
* `Event`, `Session`: what was done on a host so far
* `Action`: something to be done on a host
* `Action.look`, `Action.start`, `Action.note`: the single requests
* `Action.perform`: an action on a host, with a lemma for each way to make one
-/

namespace PodRedirect

/-- What becomes of a process: it ends with a status and perhaps an output, or it does not start. -/
inductive Outcome where
  | exited (status : Int) (output : Option String)
  | notStarted (reason : String)
  deriving DecidableEq, Repr

/-- A host whose answers depend on a state of type `σ`. -/
structure Host (σ : Type) where
  /-- Whether a name is that of a command. -/
  resolves : σ → String → Bool × σ
  /-- What becomes of a process with the given command and arguments. -/
  start : σ → List String → Outcome × σ

/-- Something that was done. -/
inductive Event where
  | looked (name : String)
  | started (argv : List String)
  | logged (entry : Log.Entry)
  deriving DecidableEq, Repr

/-- The state of a host and what was done on it so far. -/
structure Session (σ : Type) where
  state : σ
  journal : Array Event

/-- Something to be done on a host, that gives an `α` or fails. -/
abbrev Action (σ α : Type) := ReaderT (Host σ) (ExceptT Failure (StateM (Session σ))) α

namespace Action

variable {σ α β : Type}

/-- Adds an event to the journal. -/
def record (e : Event) : Action σ Unit :=
  modify fun s => { s with journal := s.journal.push e }

/-- Says something to the log. -/
def note (source : Log.Source) (level : Log.Level) (message : String) : Action σ Unit :=
  record (.logged ⟨source, level, message⟩)

/-- Asks for a command by its name. -/
def look (name : String) : Action σ Bool := do
  record (.looked name)
  let host ← read
  let s ← get
  let (found, state) := host.resolves s.state name
  set { s with state := state }
  return found

/-- Starts a process and waits for its end. -/
def start (argv : List String) : Action σ Outcome := do
  record (.started argv)
  let host ← read
  let s ← get
  let (outcome, state) := host.start s.state argv
  set { s with state := state }
  return outcome

/-- The action, with a failure as a value. -/
def attempt (a : Action σ α) : Action σ (Except Failure α) :=
  tryCatch (Except.ok <$> a) fun f => pure (.error f)

/-- A computation that logs, as an action. -/
def ofLogged (a : Logged Failure α) : Action σ α := do
  let (result, entries) := a.run #[]
  for e in entries.toList do record (.logged e)
  match result with
  | .ok a => return a
  | .error f => throw f

/-- The action on a host in the given state: what it gives, and the session afterwards. -/
def perform (a : Action σ α) (host : Host σ) (s : Session σ) : Except Failure α × Session σ :=
  (a host).run s

/-! ## What actions come to -/

/-- A value alone does nothing. -/
@[simp] theorem perform_pure (x : α) (host : Host σ) (s : Session σ) :
    (pure x : Action σ α).perform host s = (.ok x, s) := rfl

/-- A failure alone does nothing. -/
@[simp] theorem perform_throw (f : Failure) (host : Host σ) (s : Session σ) :
    (throw f : Action σ α).perform host s = (.error f, s) := rfl

/-- Of two actions the second goes on where the first ended, unless that failed. -/
theorem perform_bind (a : Action σ α) (f : α → Action σ β) (host : Host σ) (s : Session σ) :
    (a >>= f).perform host s =
      match a.perform host s with
      | (.ok x, s') => (f x).perform host s'
      | (.error e, s') => (.error e, s') := by
  show (match (a host).run s with
    | (r, s') => ExceptT.bindCont (fun x => f x host) r s') = _
  rcases h : (a host).run s with ⟨_ | _, _⟩ <;> simp only [perform, h] <;> rfl

/-- A function of the value changes nothing else. -/
theorem perform_map (f : α → β) (a : Action σ α) (host : Host σ) (s : Session σ) :
    (f <$> a).perform host s = ((a.perform host s).1.map f, (a.perform host s).2) := by
  rcases h : a.perform host s with ⟨_ | x, s'⟩
  all_goals
    replace h : (a host) s = _ := h
    simp only [perform, Functor.map, ExceptT.map, ExceptT.mk, bind, StateT.bind, ExceptT.run, h]
    rfl

/-- An event goes to the end of the journal. -/
@[simp] theorem perform_record (e : Event) (host : Host σ) (s : Session σ) :
    (record e : Action σ Unit).perform host s = (.ok (), ⟨s.state, s.journal.push e⟩) := rfl

/-- What is said to the log goes to the end of the journal. -/
@[simp] theorem perform_note (source : Log.Source) (level : Log.Level) (message : String)
    (host : Host σ) (s : Session σ) :
    (note source level message : Action σ Unit).perform host s =
      (.ok (), ⟨s.state, s.journal.push (.logged ⟨source, level, message⟩)⟩) := rfl

/-- The host answers whether it knows a name, after the question is in the journal. -/
@[simp] theorem perform_look (name : String) (host : Host σ) (s : Session σ) :
    (look name : Action σ Bool).perform host s =
      (.ok (host.resolves s.state name).1,
        ⟨(host.resolves s.state name).2, s.journal.push (.looked name)⟩) := rfl

/-- The host answers what became of a process, after its start is in the journal. -/
@[simp] theorem perform_start (argv : List String) (host : Host σ) (s : Session σ) :
    (start argv : Action σ Outcome).perform host s =
      (.ok (host.start s.state argv).1,
        ⟨(host.start s.state argv).2, s.journal.push (.started argv)⟩) := rfl

/-- An attempt does what the action does, and does not fail. -/
theorem perform_attempt (a : Action σ α) (host : Host σ) (s : Session σ) :
    a.attempt.perform host s = (.ok (a.perform host s).1, (a.perform host s).2) := by
  have h := perform_map (Except.ok : α → Except Failure α) a host s
  rcases hp : a.perform host s with ⟨_ | x, s'⟩
  all_goals
    rw [hp] at h
    replace h : (Except.ok <$> a : Action σ (Except Failure α)) host s = _ := h
    simp only [attempt, perform, tryCatch, tryCatchThe, MonadExceptOf.tryCatch,
      ExceptT.tryCatch, ExceptT.mk, bind, StateT.bind, ExceptT.run, h]
    rfl

end Action

end PodRedirect
