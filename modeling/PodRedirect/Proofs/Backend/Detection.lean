import PodRedirect.Proofs.Backend.Pair

/-!
# What listings decide

The flavour in use is decided by four listings at most, which are had in a fixed order, and no more
of them than are needed. A listing that cannot be had, or that is nothing, is an empty one, so that
it makes no difference for the decision which of the two it is. A flavour that was asked for is used
whatever the listings decide, with a warning if that is another one.

## Main definitions

* `Action.Tells`: what an action does, with the entries of the log that are not for debugging only
* `Host.Finds`: the first of some names that a host knows
* `Backend.Dump`: a listing that may be had, and may be nothing
* `Backend.Shows`, `Backend.Lists`: what listings show, one by one and one after the other
* `Backend.Decides`: the flavour that listings decide
* `Backend.SameListings`: hosts whose listings show the same

## Main results

* `Backend.tells_inUse`: the listings that are had, and the flavour in use
* `Backend.detect_exact`: finding out the flavour
-/

namespace PodRedirect

/-- The event is an entry of the log that is for debugging only. -/
def Event.isDebug : Event → Bool
  | logged e => e.level = .debug
  | looked _ | started _ => false

namespace Action

variable {σ α β : Type} {host host' : Host σ} {s t u : σ} {es fs : List Event}

/-! ## What an action tells -/

/-- On a host in state `s`, the action adds the events `es` to the journal, apart from entries for
debugging only, ends with `r`, and leaves the host in state `t`. -/
def Tells (a : Action σ α) (host : Host σ) (s : σ) (es : List Event) (r : Except Failure α)
    (t : σ) : Prop :=
  ∃ fs, a.Writes host s fs r t ∧ fs.filter (fun e => !e.isDebug) = es

theorem tells_pure (x : α) : (pure x : Action σ α).Tells host s [] (.ok x) s :=
  ⟨[], writes_pure x, rfl⟩

theorem tells_throw (f : Failure) : (throw f : Action σ α).Tells host s [] (.error f) s :=
  ⟨[], writes_throw f, rfl⟩

theorem tells_look {name : String} {found : Bool} (h : host.resolves s name = (found, t)) :
    (look name : Action σ Bool).Tells host s [.looked name] (.ok found) t := by
  have hwrites : (look name : Action σ Bool).Writes host s _ _ _ := writes_look name
  rw [h] at hwrites
  exact ⟨_, hwrites, rfl⟩

theorem tells_start (argv : List String) :
    (start argv : Action σ Outcome).Tells host s [.started argv] (.ok (host.start s argv).1)
      (host.start s argv).2 :=
  ⟨_, writes_start argv, rfl⟩

theorem tells_debug (source : Log.Source) (message : String) :
    (note source .debug message : Action σ Unit).Tells host s [] (.ok ()) s :=
  ⟨_, writes_record _, rfl⟩

theorem tells_warning (source : Log.Source) (message : String) :
    (note source .warning message : Action σ Unit).Tells host s
      [.logged ⟨source, .warning, message⟩] (.ok ()) s :=
  ⟨_, writes_record _, rfl⟩

/-- Of two actions, the second goes on where the first ended. -/
theorem Tells.bind {a : Action σ α} {f : α → Action σ β} {x : α} {r : Except Failure β}
    (h : a.Tells host s es (.ok x) t) (h' : (f x).Tells host t fs r u) :
    (a >>= f).Tells host s (es ++ fs) r u := by
  obtain ⟨gs, hwrites, rfl⟩ := h
  obtain ⟨gs', hwrites', rfl⟩ := h'
  exact ⟨gs ++ gs', hwrites.bind hwrites', List.filter_append ..⟩

theorem Tells.attempt {a : Action σ α} {r : Except Failure α} (h : a.Tells host s es r t) :
    a.attempt.Tells host s es (.ok r) t := by
  obtain ⟨gs, hwrites, hes⟩ := h
  exact ⟨gs, hwrites.attempt, hes⟩

/-- Of two actions, the second is left out if the first fails. -/
theorem Tells.bind_error {a : Action σ α} {f : α → Action σ β} {e : Failure}
    (h : a.Tells host s es (.error e) t) : (a >>= f).Tells host s es (.error e) t := by
  obtain ⟨gs, hwrites, hes⟩ := h
  exact ⟨gs, hwrites.bind_error, hes⟩

/-- Of two actions, the second tells nothing. -/
theorem Tells.bind_nil {a : Action σ α} {f : α → Action σ β} {x : α} {r : Except Failure β}
    (h : a.Tells host s es (.ok x) t) (h' : (f x).Tells host t [] r u) :
    (a >>= f).Tells host s es r u := by
  have hboth := h.bind h'
  rwa [List.append_nil] at hboth

/-- What is said for debugging only before an action does not matter. -/
theorem Tells.after_debug {f : Unit → Action σ β} {r : Except Failure β} {source : Log.Source}
    {message : String} (h : (f ()).Tells host s es r t) :
    (note source .debug message >>= f).Tells host s es r t :=
  (tells_debug source message).bind h

/-- A value that is at hand tells nothing. -/
theorem Tells.after_ok {f : α → Action σ β} {x : α} {r : Except Failure β}
    (h : (f x).Tells host s es r t) :
    (liftM (.ok x : Except Failure α) >>= f : Action σ β).Tells host s es r t :=
  (tells_pure x).bind h

/-- What an action tells is what it leaves in the journal. -/
theorem Tells.of_perform {a : Action σ α} {r : Except Failure α} (h : a.Tells host s es r t) :
    (a.perform host ⟨s, #[]⟩).1 = r ∧
      (a.perform host ⟨s, #[]⟩).2.journal.toList.filter (fun e => !e.isDebug) = es := by
  obtain ⟨fs, hwrites, rfl⟩ := h
  rw [hwrites]
  exact ⟨rfl, by simp⟩

/-! ## Actions that come to the same -/

/-- From every state the actions have the same result, each on its host, and leave these in the same
state. What they tell may differ. -/
def Twin (a b : Action σ α) (host host' : Host σ) : Prop :=
  ∀ s, ∃ es es' r t, a.Tells host s es r t ∧ b.Tells host' s es' r t

theorem twin_pure (x : α) : Twin (pure x : Action σ α) (pure x) host host' := fun s =>
  ⟨[], [], .ok x, s, tells_pure x, tells_pure x⟩

theorem twin_throw (f : Failure) : Twin (throw f : Action σ α) (throw f) host host' := fun s =>
  ⟨[], [], .error f, s, tells_throw f, tells_throw f⟩

/-- What stands behind a failure is left out. -/
theorem twin_throw_bind {f : Failure} {a b : α → Action σ β} :
    Twin (throw f >>= a) (throw f >>= b) host host' := fun s =>
  ⟨[], [], .error f, s, (tells_throw f).bind_error, (tells_throw f).bind_error⟩

theorem twin_except (x : Except Failure α) : Twin (liftM x : Action σ α) (liftM x) host host' := by
  cases x with
  | ok x => exact twin_pure x
  | error f => exact twin_throw f

theorem twin_note (source : Log.Source) (level : Log.Level) (message : String) :
    Twin (note source level message : Action σ Unit) (note source level message) host host' :=
  fun s => ⟨_, _, .ok (), s, ⟨_, writes_record _, rfl⟩, ⟨_, writes_record _, rfl⟩⟩

theorem twin_look (same : host'.resolves = host.resolves) (name : String) :
    Twin (look name : Action σ Bool) (look name) host host' := fun _ =>
  ⟨_, _, _, _, tells_look rfl, tells_look (congrFun (congrFun same _) name)⟩

/-- Actions that come to the same one after the other do so together. -/
theorem Twin.bind {a b : Action σ α} {f g : α → Action σ β} (h : Twin a b host host')
    (h' : ∀ x, Twin (f x) (g x) host host') : Twin (a >>= f) (b >>= g) host host' := by
  intro s
  obtain ⟨es, es', r, t, ha, hb⟩ := h s
  cases r with
  | error e => exact ⟨es, es', .error e, t, ha.bind_error, hb.bind_error⟩
  | ok x =>
    obtain ⟨fs, fs', r, u, hf, hg⟩ := h' x t
    exact ⟨_, _, r, u, ha.bind hf, hb.bind hg⟩

/-- What was in the journals has no part in the results. -/
theorem Twin.fst_perform {a b : Action σ α} (h : Twin a b host host') (s : σ)
    (journal journal' : Array Event) :
    (a.perform host ⟨s, journal⟩).1 = (b.perform host' ⟨s, journal'⟩).1 := by
  obtain ⟨es, es', r, t, ⟨fs, ha, -⟩, fs', hb, -⟩ := h s
  rw [ha journal, hb journal']

end Action

namespace Host

variable {σ : Type}

/-- A host in state `s` that is asked for the names in turn knows `found` first, and is in state `t`
then. The names that it was asked for are `asked`. -/
inductive Finds (host : Host σ) : σ → List String → List String → String → σ → Prop
  | here {s t : σ} {name : String} {names : List String}
    (known : host.resolves s name = (true, t)) : Finds host s (name :: names) [name] name t
  | later {s t u : σ} {name found : String} {names asked : List String}
    (unknown : host.resolves s name = (false, t)) (rest : Finds host t names asked found u) :
    Finds host s (name :: names) (name :: asked) found u

end Host

namespace Backend

open PodRedirect.Action

variable {σ : Type} {host host' : Host σ} {s t u : σ} {es : List Event}

/-! ## Listings -/

/-- How a listing is asked for that may be nothing. -/
abbrev Dump (σ : Type) := List String → Action σ (Option String)

/-- Nothing counts as an empty listing. -/
def Dump.orEmpty (dump : Dump σ) : Probe σ := fun argv => do return (← dump argv).getD ""

/-- What a listing shows: one that fails as processes do is empty, and so is nothing. -/
inductive Shows : Except Failure (Option String) → String → Prop
  | output (text : String) : Shows (.ok (some text)) text
  | nothing : Shows (.ok none) ""
  | failed {f : Failure} (expected : f.isExpected = true) : Shows (.error f) ""

/-- From every state of the host, listings show something: they fail as processes do, if at all. -/
def Dump.Answers (dump : Dump σ) (host : Host σ) : Prop :=
  ∀ argv s, ∃ es r t text, (dump argv).Tells host s es r t ∧ Shows r text

/-- Listings that are had one after the other, with what they show, and what they tell. -/
inductive Lists (host : Host σ) (dump : Dump σ) :
    σ → List (List String × String) → List Event → σ → Prop
  | nil (s : σ) : Lists host dump s [] [] s
  | cons {s t u : σ} {argv : List String} {text : String} {r : Except Failure (Option String)}
    {es fs : List Event} {ls : List (List String × String)}
    (run : (dump argv).Tells host s es r t) (shows : Shows r text)
    (rest : Lists host dump t ls fs u) : Lists host dump s ((argv, text) :: ls) (es ++ fs) u

/-- A listing is what it shows. -/
theorem tells_listing {dump : Dump σ} {argv : List String} {r : Except Failure (Option String)}
    {text : String} (run : (dump argv).Tells host s es r t) (shows : Shows r text) :
    (listing dump.orEmpty argv).Tells host s es (.ok text) t := by
  unfold listing
  cases shows with
  | output text | nothing =>
    have hprobe := run.bind_nil (f := fun o => pure (o.getD "")) (tells_pure _)
    exact hprobe.attempt.bind_nil (tells_pure _)
  | @failed f expected =>
    -- the failure is caught, and said for debugging only
    have hprobe := run.bind_error (f := fun o => pure (o.getD ""))
    refine hprobe.attempt.bind_nil ?_
    dsimp only
    rw [expected, if_neg (by decide)]
    exact Tells.after_debug (tells_pure "")

/-- The flavour that listings decide, from the two binaries that list rules. A marker chain decides
for its flavour; without one in either, the flavour with more rules is in use, and the older one if
both have as many. -/
inductive Decides (nftSave legacySave : String) : List (List String × String) → Mode → Prop
  | nft {nft : String} (marked : hasMarker nft = true) :
    Decides nftSave legacySave [([nftSave, "-t", "mangle"], nft)] .nft
  | legacy {nft legacy : String} (unmarked : hasMarker nft = false)
    (marked : hasMarker legacy = true) : Decides nftSave legacySave
      [([nftSave, "-t", "mangle"], nft), ([legacySave, "-t", "mangle"], legacy)] .legacy
  | counted {nft legacy allLegacy allNft : String} (unmarked : hasMarker nft = false)
    (unmarked' : hasMarker legacy = false) : Decides nftSave legacySave
      [([nftSave, "-t", "mangle"], nft), ([legacySave, "-t", "mangle"], legacy),
        ([legacySave], allLegacy), ([nftSave], allNft)]
      (if countRules allNft ≤ countRules allLegacy then .legacy else .nft)

/-- **The listings that are had, and the flavour that they decide.** -/
theorem tells_inUse {dump : Dump σ} (answers : dump.Answers host) (nftSave legacySave : String)
    (s : σ) : ∃ ls told m t, Lists host dump s ls told t ∧ Decides nftSave legacySave ls m ∧
      (inUse dump.orEmpty nftSave legacySave).Tells host s told (.ok m) t := by
  unfold inUse
  obtain ⟨es, r, t, nft, hrun, hshows⟩ := answers [nftSave, "-t", "mangle"] s
  have hnft := tells_listing hrun hshows
  cases hmarked : hasMarker nft with
  | true =>
    refine ⟨_, _, .nft, t, .cons hrun hshows (.nil t), .nft hmarked, hnft.bind ?_⟩
    rw [hmarked]
    exact tells_pure _
  | false =>
    obtain ⟨es', r', t', legacy, hrun', hshows'⟩ := answers [legacySave, "-t", "mangle"] t
    have hlegacy := tells_listing hrun' hshows'
    cases hmarked' : hasMarker legacy with
    | true =>
      refine ⟨_, _, .legacy, t', .cons hrun hshows (.cons hrun' hshows' (.nil t')),
        .legacy hmarked hmarked', hnft.bind ?_⟩
      rw [hmarked]
      refine hlegacy.bind ?_
      rw [hmarked']
      exact tells_pure _
    | false =>
      -- without a marker chain the rules of both flavours are counted
      obtain ⟨fs, q, u, allLegacy, hrunAll, hshowsAll⟩ := answers [legacySave] t'
      obtain ⟨fs', q', u', allNft, hrunAll', hshowsAll'⟩ := answers [nftSave] u
      refine ⟨_, _, _, u', .cons hrun hshows (.cons hrun' hshows' (.cons hrunAll hshowsAll
        (.cons hrunAll' hshowsAll' (.nil u')))), .counted hmarked hmarked', hnft.bind ?_⟩
      rw [hmarked]
      refine hlegacy.bind ?_
      rw [hmarked']
      refine (tells_listing hrunAll hshowsAll).bind ((tells_listing hrunAll' hshowsAll').bind ?_)
      exact Tells.after_debug (tells_pure _)

/-! ## Binaries -/

/-- A host is asked for names until it knows one. -/
theorem tells_findAmong {names asked : List String} {found : String}
    (h : host.Finds s names asked found t) :
    (findAmong names).Tells host s (asked.map .looked) (.ok (some found)) t := by
  induction h with
  | here known => exact (tells_look known).bind (Tells.after_debug (tells_pure _))
  | later unknown rest ih => exact (tells_look unknown).bind ih

/-- The names of the binary that lists the rules of a flavour. -/
def saveNames (six : Bool) (m : Mode) : List String :=
  [command six ++ "-" ++ m.name ++ "-save", command six ++ "-save"]

theorem tells_findBinary {six : Bool} {m : Mode} {asked : List String} {found : String}
    (h : host.Finds s (saveNames six m) asked found t) :
    (findBinary (command six) m.name "save").Tells host s (asked.map .looked) (.ok found) t := by
  have hnames : [command six ++ "-" ++ m.name ++ "-" ++ "save", command six ++ "-" ++ "save"] =
      saveNames six m := by cases six <;> cases m <;> decide
  unfold findBinary
  rw [hnames]
  exact (tells_findAmong h).bind_nil (tells_pure found)

/-! ## The flavour that is used -/

/-- The name of a flavour in quotes. -/
def inQuotes (m : Mode) : String := "\"" ++ m.name ++ "\""

/-- The warning that the flavour asked for is not the one in use, where that is so. -/
def mismatch (m detected : Mode) : List Event :=
  if m = .auto ∨ m = detected then []
  else [.logged ⟨.backend, .warning, "iptables backend " ++ inQuotes m ++
    " does not match the detected backend " ++ inQuotes detected ++ "; honoring " ++ inQuotes m⟩]

/-- The flavour that is used. -/
def used (m detected : Mode) : Mode := if m = .auto then detected else m

theorem tells_settle (m detected : Mode) :
    (settle m detected : Action σ Mode).Tells host s (mismatch m detected) (.ok (used m detected))
      s := by
  unfold settle mismatch used
  dsimp only
  by_cases hauto : m = .auto
  · rw [if_pos hauto, if_pos (Or.inl hauto), if_pos hauto]
    exact Tells.after_debug (tells_pure detected)
  · rw [if_neg hauto, if_neg hauto]
    by_cases hsame : m = detected
    · rw [if_neg fun hne => hne hsame, if_pos (Or.inr hsame)]
      exact Tells.after_debug (tells_pure m)
    · rw [if_pos hsame, if_neg (not_or.mpr ⟨hauto, hsame⟩)]
      exact (tells_warning .backend _).bind_nil (tells_pure m)

/-- The binaries for a flavour, from those that list rules. -/
def binariesFor (six : Bool) (nftSave legacySave : String) : Mode → String × String
  | .legacy => (Text.dropSuffix legacySave "-save", legacySave)
  | .nft => (Text.dropSuffix nftSave "-save", nftSave)
  | .plain | .auto | .explicit => (command six, saveName (command six))

/-- What is selected for a flavour that is asked for, where another one may be in use. -/
def selection (six : Bool) (nftSave legacySave : String) (m detected : Mode) : Selection :=
  let b := binariesFor six nftSave legacySave (used m detected)
  ⟨used m detected, b.1, b.2, some detected⟩

/-- A value asks for a flavour: its text is the name of one, in any mixture of capitals and small
letters, and binaries are not to be given. -/
structure Asks (requested : Value) (m : Mode) : Prop where
  named : ∃ text, requested.said = .ok text ∧ Text.lower text = m.name
  settled : m ≠ .explicit

/-- **Finding out the flavour**, where a host knows binaries that list the rules of both. -/
theorem tells_detect {dump : Dump σ} (answers : dump.Answers host) {requested : Value} {m : Mode}
    (asks : Asks requested m) {six : Bool} {asked asked' : List String}
    {nftSave legacySave : String}
    (nft : host.Finds s (saveNames six .nft) asked nftSave t)
    (legacy : host.Finds t (saveNames six .legacy) asked' legacySave u) :
    ∃ ls told detected v, Lists host dump u ls told v ∧ Decides nftSave legacySave ls detected ∧
      (detect dump.orEmpty six requested).Tells host s
        ((asked ++ asked').map .looked ++ (told ++ mismatch m detected))
        (.ok (selection six nftSave legacySave m detected)) v := by
  obtain ⟨text, hsaid, hlower⟩ := asks.named
  have hmode : Mode.ofName? (Text.lower text) = some m := by
    rw [hlower]
    cases m <;> decide
  obtain ⟨ls, told, detected, v, hlists, hdecides, hinUse⟩ :=
    tells_inUse answers nftSave legacySave u
  refine ⟨ls, told, detected, v, hlists, hdecides, ?_⟩
  rw [List.map_append, List.append_assoc]
  unfold detect
  rw [hsaid]
  refine Tells.after_ok ?_
  rw [hmode]
  dsimp only
  rw [if_neg asks.settled]
  -- both binaries are looked for before the first listing
  refine (tells_findBinary nft).bind ((tells_findBinary legacy).bind (hinUse.bind ?_))
  refine (tells_settle m detected).bind_nil (Tells.after_debug ?_)
  have hselection : selection six nftSave legacySave m detected = ⟨used m detected,
      (binariesFor six nftSave legacySave (used m detected)).1,
      (binariesFor six nftSave legacySave (used m detected)).2, some detected⟩ := rfl
  rw [hselection]
  cases used m detected <;> exact tells_pure _

/-! ## Listings that fail and listings that are empty -/

/-- The two hosts go on in the same way after every listing, and it shows the same on both: it may
fail on one of them and be empty on the other. -/
def SameListings (host host' : Host σ) (dump dump' : Dump σ) : Prop :=
  ∀ argv s, ∃ es es' r r' text t, (dump argv).Tells host s es r t ∧
    (dump' argv).Tells host' s es' r' t ∧ Shows r text ∧ Shows r' text

section Same

variable {dump dump' : Dump σ}

theorem twin_findAmong (same : host'.resolves = host.resolves) (names : List String) :
    Twin (findAmong names : Action σ _) (findAmong names) host host' := by
  induction names with
  | nil => exact twin_pure none
  | cons name names ih =>
    refine (twin_look same name).bind fun found => ?_
    cases found with
    | true => exact (twin_note _ _ _).bind fun _ => twin_pure (some name)
    | false => exact ih

theorem twin_findBinary (same : host'.resolves = host.resolves) (command mode suffix : String) :
    Twin (findBinary command mode suffix : Action σ _) (findBinary command mode suffix) host
      host' := by
  refine (twin_findAmong same _).bind fun found => ?_
  cases found with
  | none => exact twin_throw _
  | some name => exact twin_pure name

theorem twin_listing (listings : SameListings host host' dump dump') (argv : List String) :
    Twin (listing dump.orEmpty argv) (listing dump'.orEmpty argv) host host' := by
  intro s
  obtain ⟨es, es', r, r', text, t, hrun, hrun', hshows, hshows'⟩ := listings argv s
  exact ⟨es, es', .ok text, t, tells_listing hrun hshows, tells_listing hrun' hshows'⟩

theorem twin_inUse (listings : SameListings host host' dump dump') (nftSave legacySave : String) :
    Twin (inUse dump.orEmpty nftSave legacySave) (inUse dump'.orEmpty nftSave legacySave) host
      host' := by
  unfold inUse
  refine (twin_listing listings _).bind fun nft => ?_
  split
  · exact twin_pure _
  refine (twin_listing listings _).bind fun legacy => ?_
  split
  · exact twin_pure _
  exact (twin_listing listings _).bind fun allLegacy => (twin_listing listings _).bind fun allNft =>
    (twin_note _ _ _).bind fun _ => twin_pure _

theorem twin_settle (m detected : Mode) :
    Twin (settle m detected : Action σ Mode) (settle m detected) host host' := fun _ =>
  ⟨_, _, _, _, tells_settle m detected, tells_settle m detected⟩

/-- **Whether listings fail or are empty makes no difference**, whatever is asked for. -/
theorem twin_detect (same : host'.resolves = host.resolves)
    (listings : SameListings host host' dump dump') (six : Bool) (requested : Value) :
    Twin (detect dump.orEmpty six requested) (detect dump'.orEmpty six requested) host host' := by
  unfold detect
  refine (twin_except _).bind fun text => ?_
  cases Mode.ofName? (Text.lower text) with
  | none => exact twin_throw _
  | some m =>
    dsimp only
    split
    · exact twin_throw_bind
    refine (twin_findBinary same _ _ _).bind fun nftSave => ?_
    refine (twin_findBinary same _ _ _).bind fun legacySave => ?_
    refine (twin_inUse listings _ _).bind fun detected => ?_
    refine (twin_settle m detected).bind fun use => ?_
    exact (twin_note _ _ _).bind fun _ => twin_pure _

end Same

/-- **Finding out the flavour.** Where a host knows binaries that list the rules of both flavours,
the first listings that decide do so, and no others are had; those that fail as processes do, or are
nothing, are empty. The flavour in use is selected if it was left open, and the one asked for
otherwise, with a warning exactly if that is another one. But for entries for debugging, nothing
else is done or said. On two hosts that give the same answers about names, it makes no difference
for what is selected whether a listing fails or is empty. -/
theorem detect_exact (host : Host σ) (dump : Dump σ) :
    (∀ requested m six s t u asked asked' nftSave legacySave, dump.Answers host →
      Asks requested m → host.Finds s (saveNames six .nft) asked nftSave t →
      host.Finds t (saveNames six .legacy) asked' legacySave u →
      ∃ ls told detected v, Lists host dump u ls told v ∧ Decides nftSave legacySave ls detected ∧
        (detect dump.orEmpty six requested).Tells host s
          ((asked ++ asked').map .looked ++ (told ++ mismatch m detected))
          (.ok (selection six nftSave legacySave m detected)) v) ∧
    ∀ host' dump', host'.resolves = host.resolves → SameListings host host' dump dump' →
      ∀ six requested s journal journal',
        ((detect dump.orEmpty six requested).perform host ⟨s, journal⟩).1 =
          ((detect dump'.orEmpty six requested).perform host' ⟨s, journal'⟩).1 := by
  constructor
  · intro requested m six s t u asked asked' nftSave legacySave answers asks nft legacy
    exact tells_detect answers asks nft legacy
  · intro host' dump' same listings six requested s journal journal'
    exact (twin_detect same listings six requested).fst_perform s journal journal'

/-- A host that knows all names, where a process writes the listing that is given for it. -/
def showing (text : List String → String) : Host Unit where
  resolves _ _ := (true, ())
  start _ argv := (.exited 0 (some (text argv)), ())

/-- A host that knows all names and cannot start a process. -/
def lacking (reason : String) : Host Unit where
  resolves _ _ := (true, ())
  start _ _ := (.notStarted reason, ())

/-- Listings that processes write. -/
def written : Dump Unit := fun argv => do
  match Executor.judge argv (← start argv) with
  | .ok output => return some output
  | .error f => throw (.process f)

theorem tells_written_showing (text : List String → String) (argv : List String) :
    (written argv).Tells (showing text) () [.started argv] (.ok (some (text argv))) () :=
  (tells_start argv).bind_nil (tells_pure _)

theorem tells_written_lacking (reason : String) (argv : List String) :
    (written argv).Tells (lacking reason) () [.started argv]
      (.error (.process ⟨argv, none, "", reason⟩)) () :=
  (tells_start argv).bind_nil (tells_throw _)

/-- Listings where the node agent has left a chain in the older flavour. -/
def marked (argv : List String) : String :=
  if argv = ["iptables-legacy-save", "-t", "mangle"] then ":KUBE-KUBELET-CANARY - [0:0]\n" else ""

/-- Listings without such a chain, of two rules in the newer flavour and of one in the older. -/
def counted (argv : List String) : String :=
  if argv = ["iptables-nft-save"] then "-A INPUT -j ACCEPT\n-A OUTPUT -j ACCEPT\n"
  else if argv = ["iptables-legacy-save"] then "-A INPUT -j ACCEPT\n"
  else ""

/-- A chain in the older flavour is found with the second listing, and the newer flavour is used with
a warning. Without a chain, the flavour with more rules is in use after four listings. Where no
listing can be had the older one is in use, as it is where all of them are empty. -/
theorem detect_exact_listed :
    (∃ ls, Lists (showing marked) written () ls
        [.started ["iptables-nft-save", "-t", "mangle"],
          .started ["iptables-legacy-save", "-t", "mangle"]] () ∧
      Decides "iptables-nft-save" "iptables-legacy-save" ls .legacy ∧
      (detect written.orEmpty false (.text "NFT")).Tells (showing marked) ()
        ([.looked "iptables-nft-save", .looked "iptables-legacy-save",
          .started ["iptables-nft-save", "-t", "mangle"],
          .started ["iptables-legacy-save", "-t", "mangle"]] ++ mismatch .nft .legacy)
        (.ok ⟨.nft, "iptables-nft", "iptables-nft-save", some .legacy⟩) ()) ∧
    (∃ ls, Lists (showing counted) written () ls
        [.started ["iptables-nft-save", "-t", "mangle"],
          .started ["iptables-legacy-save", "-t", "mangle"],
          .started ["iptables-legacy-save"], .started ["iptables-nft-save"]] () ∧
      Decides "iptables-nft-save" "iptables-legacy-save" ls .nft ∧
      (detect written.orEmpty false (.text "auto")).Tells (showing counted) ()
        [.looked "iptables-nft-save", .looked "iptables-legacy-save",
          .started ["iptables-nft-save", "-t", "mangle"],
          .started ["iptables-legacy-save", "-t", "mangle"],
          .started ["iptables-legacy-save"], .started ["iptables-nft-save"]]
        (.ok ⟨.nft, "iptables-nft", "iptables-nft-save", some .nft⟩) ()) ∧
    ((detect written.orEmpty false (.text "NFT")).perform (lacking "gone") ⟨(), #[]⟩).1 =
      .ok ⟨.nft, "iptables-nft", "iptables-nft-save", some .legacy⟩ := by
  have answers (text : List String → String) : written.Answers (showing text) := fun argv _ =>
    ⟨_, _, (), _, tells_written_showing text argv, .output _⟩
  have hdetects (text : List String → String) {requested : Value} {m : Mode}
      (asks : Asks requested m) :=
    (detect_exact (showing text) written).1 requested m false () () () ["iptables-nft-save"]
      ["iptables-legacy-save"] _ _ (answers text) asks (.here rfl) (.here rfl)
  refine ⟨?_, ?_, ?_⟩
  · obtain ⟨ls, told, detected, ⟨⟩, lists, decides, tells⟩ :=
      hdetects marked (⟨⟨"NFT", rfl, by decide⟩, by decide⟩ : Asks (.text "NFT") .nft)
    obtain ⟨hended, htold⟩ := tells.of_perform
    obtain rfl : Mode.legacy = detected :=
      Option.some.inj (congrArg Selection.detected (Except.ok.inj hended))
    -- the run leaves these two listings and the warning in the journal, besides the names
    change [.looked "iptables-nft-save", .looked "iptables-legacy-save"] ++
      ([.started ["iptables-nft-save", "-t", "mangle"],
        .started ["iptables-legacy-save", "-t", "mangle"]] ++ mismatch .nft .legacy) = _ at htold
    obtain rfl := List.append_cancel_right (List.append_cancel_left htold)
    exact ⟨ls, lists, decides, tells⟩
  · obtain ⟨ls, told, detected, ⟨⟩, lists, decides, tells⟩ :=
      hdetects counted (⟨⟨"auto", rfl, by decide⟩, by decide⟩ : Asks (.text "auto") .auto)
    obtain ⟨hended, htold⟩ := tells.of_perform
    obtain rfl : Mode.nft = detected :=
      Option.some.inj (congrArg Selection.detected (Except.ok.inj hended))
    change [.looked "iptables-nft-save", .looked "iptables-legacy-save"] ++
      ([.started ["iptables-nft-save", "-t", "mangle"],
        .started ["iptables-legacy-save", "-t", "mangle"],
        .started ["iptables-legacy-save"], .started ["iptables-nft-save"]] ++
          mismatch .auto .nft) = _ at htold
    obtain rfl := List.append_cancel_right (List.append_cancel_left htold)
    exact ⟨ls, lists, decides, tells⟩
  · have listings : SameListings (showing fun _ => "") (lacking "gone") written written :=
      fun argv _ => ⟨_, _, _, _, "", (), tells_written_showing _ argv,
        tells_written_lacking "gone" argv, .output "", .failed rfl⟩
    have htwin := (detect_exact (showing fun _ => "") written).2 (lacking "gone") written rfl listings
    exact (htwin false (.text "NFT") () #[] #[]).symm.trans rfl

end Backend

end PodRedirect
