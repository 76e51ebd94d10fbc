import PodRedirect.Proofs.Backend.Pair

/-!
# What finding the flavour comes to

The flavour in use is found out through listings, which may hold anything and may fail. Whatever
they hold, a flavour is found as soon as there is a binary to list the rules of each; where one is
missing, the flavour that was asked for is taken with the binaries that the policy has, or, if none
was asked for, nothing is.

## Main definitions

* `Backend.Probe.Expected`: listings that fail as processes do
* `Backend.FindsSave`, `Backend.Selects`, `Backend.Detects`: the binary that lists rules, the
  flavour and the binaries that are used, and the ends of finding them
* `Run.Resolves`: the ends of settling the binaries of a policy

## Main results

* `Backend.ensures_detect`, `Run.ensures_resolveBackend`: these are all ends, on every host
-/

namespace PodRedirect

namespace Backend

open PodRedirect.Action

variable {σ : Type} {host : Host σ} {live broken : Prop} {probe : Probe σ}

/-! ## Listings -/

/-- Listings fail with a failure that is expected, unless `broken` holds. -/
def Probe.Expected (probe : Probe σ) (host : Host σ) (live broken : Prop) : Prop :=
  ∀ argv, (probe argv).Ensures host live
    fun r => ∀ f, r = .error f → f.isExpected = true ∨ broken

/-- A listing that fails counts as an empty one. -/
theorem ensures_listing (h : probe.Expected host live broken) (argv : List String) :
    (listing probe argv).Ensures host live fun r => ∀ f, r = .error f → broken := by
  refine (h argv).attempt.bind fun r hr => ?_
  cases r with
  | ok output => exact ensures_pure fun f hf => nomatch hf
  | error f =>
    dsimp only
    split
    next hunexpected =>
      -- a failure that is not expected is not caught
      have hbroken : broken := (hr f rfl).resolve_left (by simpa using hunexpected)
      exact ensures_throw_bind fun _ _ => hbroken
    next => exact Ensures.after_note (ensures_pure fun f hf => nomatch hf)

/-- One of two flavours is found to be in use. -/
theorem ensures_inUse (h : probe.Expected host live broken) (nftSave legacySave : String) :
    (inUse probe nftSave legacySave).Ensures host live fun r =>
      (∀ f, r = .error f → broken) ∧ ∀ m, r = .ok m → m = .nft ∨ m = .legacy := by
  have hfound {m : Mode} (hm : m = .nft ∨ m = .legacy) :
      (pure m : Action σ Mode).Ensures host live fun r =>
        (∀ f, r = .error f → broken) ∧ ∀ m, r = .ok m → m = .nft ∨ m = .legacy := by
    refine ensures_pure ⟨fun _ hf => (nomatch hf), ?_⟩
    rintro _ ⟨⟩
    exact hm
  have hfailed (f : Failure) (hf : ∀ f', (.error f : Except Failure String) = .error f' → broken) :
      (∀ f', (.error f : Except Failure Mode) = .error f' → broken) ∧
        ∀ m, (.error f : Except Failure Mode) = .ok m → m = .nft ∨ m = .legacy :=
    ⟨fun _ _ => hf f rfl, fun _ hm => nomatch hm⟩
  unfold inUse
  refine (ensures_listing h _).bind (fun o _ => ?_) hfailed
  split
  · exact hfound (Or.inl rfl)
  refine (ensures_listing h _).bind (fun o _ => ?_) hfailed
  split
  · exact hfound (Or.inr rfl)
  refine (ensures_listing h _).bind (fun o _ => ?_) hfailed
  refine (ensures_listing h _).bind (fun o _ => Ensures.after_note ?_) hfailed
  split
  · exact hfound (Or.inr rfl)
  · exact hfound (Or.inl rfl)

/-- The flavour that is used is the one asked for, unless that is left open. -/
theorem returns_settle (mode detected : Mode) :
    (settle mode detected : Action σ Mode).Returns host live
      fun use => use = if mode = .auto then detected else mode := by
  unfold settle
  dsimp only
  split
  next hauto => exact Ensures.after_note (returns_pure rfl)
  next hauto =>
    split
    · exact Ensures.after_note (returns_pure rfl)
    · exact Ensures.after_note (returns_pure rfl)

/-! ## Binaries -/

/-- The binary that lists the rules of a flavour is its own, or the one without a flavour in its
name. A host that knows a set of names lacks those that are passed over. -/
inductive FindsSave (host : Host σ) (six : Bool) (m : Mode) : Except Failure String → Prop where
  | own : FindsSave host six m (.ok (pair six m).2)
  | plain (missing : ∀ known, host.Offers known → known (pair six m).2 = false) :
    FindsSave host six m (.ok (pair six .plain).2)
  | nothing {candidates : List String}
    (missing : ∀ known, host.Offers known →
      known (pair six m).2 = false ∧ known (pair six .plain).2 = false) :
    FindsSave host six m (.error (.noBinary candidates))

theorem ensures_findBinary (six : Bool) {m : Mode} (hm : m = .nft ∨ m = .legacy) :
    (findBinary (command six) m.name "save").Ensures host False (FindsSave host six m) := by
  -- the names that are asked for are those of the two pairs
  have hown : command six ++ "-" ++ m.name ++ "-" ++ "save" = (pair six m).2 := by
    rcases hm with rfl | rfl <;> cases six <;> decide
  have hplain : command six ++ "-" ++ "save" = (pair six .plain).2 := by cases six <;> decide
  have hne : (pair six m).2 ≠ (pair six .plain).2 := by
    rcases hm with rfl | rfl <;> cases six <;> decide
  unfold findBinary
  rw [hown, hplain]
  refine (returns_findAmong _).bind fun found hfound => ?_
  obtain ⟨hmem, hfind⟩ := hfound
  cases found with
  | none =>
    refine ensures_throw (.nothing fun known offers => ?_)
    have hnone := List.find?_eq_none.mp (hfind known offers).symm
    exact ⟨Bool.eq_false_iff.mpr (hnone _ (by simp)), Bool.eq_false_iff.mpr (hnone _ (by simp))⟩
  | some name =>
    have hname : name = (pair six m).2 ∨ name = (pair six .plain).2 := by simpa using hmem name rfl
    rcases hname with rfl | rfl
    · exact ensures_pure .own
    · refine ensures_pure (.plain fun known offers => Bool.eq_false_iff.mpr fun hknown => hne ?_)
      -- a name that is known is not passed over
      have heq := hfind known offers
      rw [List.find?_cons_of_pos hknown] at heq
      exact (Option.some.inj heq).symm

/-! ## Selections -/

/-- The flavour is the one asked for, or the one in use if that was left open, and the binaries are
those of the flavour, or the ones without a flavour in their names. -/
structure Selects (host : Host σ) (six : Bool) (m : Mode) (selection : Selection) : Prop where
  inUse : selection.detected = some .nft ∨ selection.detected = some .legacy
  mode : if m = .auto then selection.detected = some selection.mode else selection.mode = m
  binaries : (selection.binary, selection.saveBinary) = pair six selection.mode ∨
    (selection.binary, selection.saveBinary) = pair six .plain ∧
      ∀ known, host.Offers known → known (pair six selection.mode).2 = false

/-- The ends of finding the flavour: there is one, or a binary that lists rules is missing. Nothing
is looked for if binaries have to be given, and listings may be broken. -/
inductive Detects (host : Host σ) (six : Bool) (m : Mode) (broken : Prop) :
    Except Failure Selection → Prop where
  | selected {selection : Selection} (selects : Selects host six m selection) :
    Detects host six m broken (.ok selection)
  | missing {candidates : List String} {m' : Mode} (probed : m' = .nft ∨ m' = .legacy)
    (missing : ∀ known, host.Offers known →
      known (pair six m').2 = false ∧ known (pair six .plain).2 = false) :
    Detects host six m broken (.error (.noBinary candidates))
  | explicit (explicit : m = .explicit) :
    Detects host six m broken (.error (.rejected .explicitMode))
  | unlisted {f : Failure} (h : broken) : Detects host six m broken (.error f)

/-- The binary that changes rules has the name of the one that lists them, without its end. -/
theorem dropSuffix_pair (six : Bool) (m : Mode) :
    Text.dropSuffix (pair six m).2 "-save" = (pair six m).1 := by
  cases m <;> cases six <;> decide

/-- Binaries for a flavour of which the one that lists rules was found. -/
theorem binaries_of_findsSave {six : Bool} {m : Mode} {save : String}
    (h : FindsSave host six m (.ok save)) :
    (Text.dropSuffix save "-save", save) = pair six m ∨
      (Text.dropSuffix save "-save", save) = pair six .plain ∧
        ∀ known, host.Offers known → known (pair six m).2 = false := by
  cases h with
  | own => exact Or.inl (Prod.ext (dropSuffix_pair six m) rfl)
  | plain missing => exact Or.inr ⟨Prod.ext (dropSuffix_pair six .plain) rfl, missing⟩

/-- The binaries for the flavour that is used, among those that were found. -/
theorem selects_of_findsSave {six : Bool} {m detected use : Mode} {nftSave legacySave : String}
    (hexplicit : m ≠ .explicit) (hnft : FindsSave host six .nft (.ok nftSave))
    (hlegacy : FindsSave host six .legacy (.ok legacySave))
    (hdetected : detected = .nft ∨ detected = .legacy)
    (huse : use = if m = .auto then detected else m) :
    let b := match use with
      | .legacy => (Text.dropSuffix legacySave "-save", legacySave)
      | .nft => (Text.dropSuffix nftSave "-save", nftSave)
      | _ => pair six .plain
    Selects host six m ⟨use, b.1, b.2, some detected⟩ := by
  have hinUse : some detected = some Mode.nft ∨ some detected = some Mode.legacy :=
    hdetected.imp (congrArg some) (congrArg some)
  by_cases hauto : m = .auto
  · rw [if_pos hauto] at huse
    subst huse
    refine ⟨hinUse, by rw [if_pos hauto], ?_⟩
    rcases hdetected with rfl | rfl
    · exact binaries_of_findsSave hnft
    · exact binaries_of_findsSave hlegacy
  · rw [if_neg hauto] at huse
    subst huse
    refine ⟨hinUse, by rw [if_neg hauto], ?_⟩
    cases use with
    | legacy => exact binaries_of_findsSave hlegacy
    | nft => exact binaries_of_findsSave hnft
    | plain => exact Or.inl rfl
    | auto => exact absurd rfl hauto
    | explicit => exact absurd rfl hexplicit

/-- **Finding the flavour ends as `Detects` says**, on every host and with all listings. -/
theorem ensures_detect (h : probe.Expected host live broken) (six : Bool) (m : Mode) :
    (detect probe six (.text m.name)).Ensures host live (Detects host six m broken) := by
  have hname : Mode.ofName? (Text.lower m.name) = some m := by cases m <;> decide
  unfold detect
  refine (ensures_except (.ok m.name)).bind ?_ fun _ hf => nomatch hf
  rintro _ ⟨⟩
  rw [hname]
  dsimp only
  split
  next hexplicit => exact ensures_throw_bind (.explicit hexplicit)
  next hexplicit =>
    refine (ensures_findBinary six (Or.inl rfl)).of_idle.bind (fun nftSave hnft => ?_) ?_
    · refine (ensures_findBinary six (Or.inr rfl)).of_idle.bind (fun legacySave hlegacy => ?_) ?_
      · refine (ensures_inUse h _ _).bind ?_ fun f hf => .unlisted (hf.1 f rfl)
        rintro detected ⟨-, hdetected⟩
        refine (returns_settle m detected).bind fun use huse => Ensures.after_note (ensures_pure ?_)
        exact .selected (selects_of_findsSave hexplicit hnft hlegacy (hdetected detected rfl) huse)
      · rintro f ⟨⟩
        exact .missing (Or.inr rfl) ‹_›
    · rintro f ⟨⟩
      exact .missing (Or.inl rfl) ‹_›

/-- A selection starts no processes but listings, whether or not binaries are given. -/
theorem startsOnlyIf_select (h : probe.Expected host live broken) (six : Bool) (m : Mode)
    (binary saveBinary : String) :
    (select probe six (.text m.name) binary saveBinary).StartsOnlyIf host live := by
  unfold select
  split
  · exact (ensures_detect h six m).mono fun _ _ => trivial
  · split
    · exact ensures_throw_bind trivial
    · exact Ensures.after_note (ensures_pure trivial)

end Backend

namespace Run

open PodRedirect.Action
open Backend (pair Selects)

variable {σ : Type} {host : Host σ}

/-- The ends of settling the binaries of a policy. Binaries that are given by their paths are kept,
and so are those of a flavour that was asked for where the one in use cannot be found out. Otherwise
there are new ones, or a failure. -/
inductive Resolves (host : Host σ) (p : Policy) (requested : Value) (explicit : Bool) :
    Except Failure (Policy × Selection) → Prop where
  | given {selection : Selection} (given : explicit = true) :
    Resolves host p requested explicit (.ok (p, selection))
  | missing {m m' : Mode} (asked : Mode.ofValue? requested = some m) (settled : m ≠ .auto)
    (probed : m' = .nft ∨ m' = .legacy)
    (missing : ∀ known, host.Offers known →
      known (pair p.ipv6 m').2 = false ∧ known (pair p.ipv6 .plain).2 = false) :
    Resolves host p requested explicit (.ok (p, ⟨m, p.binary, p.saveBinary, none⟩))
  | selected {m : Mode} {selection : Selection} (asked : Mode.ofValue? requested = some m)
    (selects : Selects host p.ipv6 m selection) :
    Resolves host p requested explicit
      (.ok (p.withBinaries selection.binary selection.saveBinary, selection))
  | failed {f : Failure}
    (unsettled : explicit = true ∨
      ∀ m ∈ Mode.ofValue? requested, m = .auto ∨ m = .explicit) :
    Resolves host p requested explicit (.error f)

/-- **Settling the binaries of a policy ends as `Resolves` says**, on every host, and starts
processes only if the policy is not simulated. -/
theorem ensures_resolveBackend (p : Policy) (requested : Value) (explicit : Bool) :
    (resolveBackend p requested explicit).Ensures host (p.simulate = false)
      (Resolves host p requested explicit) := by
  unfold resolveBackend
  cases explicit with
  | true =>
    -- nothing is listed for binaries that are given
    have hprobe : Backend.Probe.Expected (fun _ => throw (.mishap .wrongKind)) host
        (p.simulate = false) True := fun argv => ensures_throw fun _ _ => Or.inr trivial
    refine Ensures.bind
      (Backend.startsOnlyIf_select hprobe p.ipv6 .legacy p.binary p.saveBinary) ?_ ?_
    · exact fun selection _ => ensures_pure (.given rfl)
    · exact fun f _ => .failed (Or.inl rfl)
  | false =>
    rw [if_neg Bool.false_ne_true]
    cases hmode : Mode.ofValue? requested with
    | none =>
      have hfailed (f : Failure) : Resolves host p requested false (.error f) :=
        .failed (Or.inr fun m hm => by rw [hmode] at hm; cases hm)
      exact (ensures_except _).bind (fun _ _ => ensures_throw (hfailed _)) fun f _ => hfailed f
    | some m =>
      have hprobe : Backend.Probe.Expected
          (fun argv => Executor.run ⟨p, ""⟩ (p.wrap argv)) host (p.simulate = false) False :=
        fun argv => (Executor.ensures_run ⟨p, ""⟩ _).mono fun r hr f hf => Or.inl (hr f hf)
      have hfailed {f : Failure} (h : m = .auto ∨ m = .explicit) :
          Resolves host p requested false (.error f) :=
        .failed (Or.inr fun m' hm' => by rw [hmode] at hm'; exact Option.some.inj hm' ▸ h)
      refine (Backend.ensures_detect hprobe p.ipv6 m).attempt.bind fun r hr => ?_
      cases hr with
      | selected selects => exact ensures_pure (.selected hmode selects)
      | missing probed missing =>
        dsimp only
        split
        next hauto => exact ensures_throw_bind (hfailed (Or.inl hauto))
        next hauto => exact Ensures.after_note (ensures_pure (.missing hmode hauto probed missing))
      | explicit hexplicit => exact ensures_throw (hfailed (Or.inr hexplicit))
      | unlisted h => exact h.elim

end Run

end PodRedirect
