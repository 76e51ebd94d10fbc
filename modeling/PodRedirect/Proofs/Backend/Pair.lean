import PodRedirect.Proofs.Journal
import PodRedirect.Run

/-!
# Pairs of binaries

The binaries of a flavour come in pairs, and a policy is run with a pair of its family of addresses.
A host is asked for binaries by their names. It may change its answers; one that does not knows a
set of names, and of this set it depends which pair is found.

## Main definitions

* `Host.Offers`: a host that knows a set of names, at all times
* `Backend.pair`, `Backend.complete`: the binaries of a flavour, and whether both are known
* `Policy.Paired`: a policy whose binaries belong together and to its family

## Main results

* `Backend.returns_fallback`: the pair that a policy is run with
* `Run.returns_resolved`: the policy that is run
-/

namespace PodRedirect

/-- The host knows the names in a set and no others, whatever it was asked before. -/
def Host.Offers {σ : Type} (host : Host σ) (known : String → Bool) : Prop :=
  ∀ s name, (host.resolves s name).1 = known name

namespace Backend

open PodRedirect.Action

/-- The binaries of a flavour for a family of addresses: the one that changes rules, and the one
that lists them. -/
def pair (six : Bool) (m : Mode) : String × String :=
  (binaryName (command six) m, saveName (binaryName (command six) m))

/-- The flavours that have binaries, in the order in which these are looked for. -/
def flavours : List Mode := [.nft, .plain, .legacy]

/-- Both binaries are known. -/
def complete (known : String → Bool) (b : String × String) : Bool := known b.1 && known b.2

theorem complete_iff {known : String → Bool} {b : String × String} :
    complete known b = true ↔ known b.1 = true ∧ known b.2 = true := Bool.and_eq_true_iff

/-- Usual binaries are a pair. -/
theorem exists_of_defaultBinaries {mode : Value} {six : Bool} {b : String × String}
    (h : defaultBinaries mode six = .ok b) : ∃ m, b = pair six m := by
  unfold defaultBinaries at h
  split at h
  · cases hsaid : mode.said <;> rw [hsaid] at h <;> cases h
  · cases h
  next m _ _ =>
    cases h
    exact ⟨m, rfl⟩

/-! ## Looking for binaries -/

variable {σ : Type} {host : Host σ}

/-- Of the names that are asked for, the first that is known is found. -/
theorem returns_findAmong (names : List String) :
    (findAmong names).Returns host False fun found => (∀ name ∈ found, name ∈ names) ∧
      ∀ known, host.Offers known → found = names.find? known := by
  induction names with
  | nil => exact returns_pure ⟨fun _ h => (Option.not_mem_none _ h).elim, fun _ _ => rfl⟩
  | cons name names ih =>
    have hlook : (look name : Action σ Bool).Returns host False fun found =>
        ∀ known, host.Offers known → found = known name :=
      returns_look fun s known offers => offers s name
    refine hlook.bind fun found hfound => ?_
    cases found with
    | true =>
      refine Ensures.after_note (returns_pure ⟨?_, fun known offers => ?_⟩)
      · rintro _ ⟨⟩
        exact List.mem_cons_self
      · rw [List.find?_cons_of_pos (hfound known offers).symm]
    | false =>
      refine Ensures.after_pure (ih.mono ?_)
      rintro _ ⟨found, rfl, hmem, hfind⟩
      refine ⟨found, rfl, fun n hn => List.mem_cons_of_mem _ (hmem n hn), fun known offers => ?_⟩
      rw [List.find?_cons_of_neg (by rw [← hfound known offers]; exact Bool.false_ne_true)]
      exact hfind known offers

theorem returns_knowsPair (binary saveBinary : String) :
    (knowsPair binary saveBinary).Returns host False fun b =>
      ∀ known, host.Offers known → b = complete known (binary, saveBinary) := by
  have hlook : (look binary : Action σ Bool).Returns host False fun found =>
      ∀ known, host.Offers known → found = known binary :=
    returns_look fun s known offers => offers s binary
  refine hlook.bind fun found hfound => ?_
  cases found with
  | true =>
    refine returns_look fun s known offers => ?_
    rw [complete, ← hfound known offers, Bool.true_and]
    exact offers s saveBinary
  | false =>
    refine returns_pure fun known offers => ?_
    rw [complete, ← hfound known offers, Bool.false_and]

/-- Of the flavours, the first whose binaries are both known is found. -/
theorem returns_findPair (six : Bool) (modes : List Mode) :
    (findPair (command six) modes).Returns host False fun found =>
      (∀ b ∈ found, ∃ m ∈ modes, b = pair six m) ∧
      ∀ known, host.Offers known → found = (modes.map (pair six)).find? (complete known) := by
  induction modes with
  | nil => exact returns_pure ⟨fun _ h => (Option.not_mem_none _ h).elim, fun _ _ => rfl⟩
  | cons m modes ih =>
    refine (returns_knowsPair _ _).bind fun known? hknown => ?_
    cases known? with
    | true =>
      refine returns_pure ⟨?_, fun known offers => ?_⟩
      · rintro _ ⟨⟩
        exact ⟨m, List.mem_cons_self, rfl⟩
      · have hfirst : complete known (pair six m) = true := (hknown known offers).symm
        rw [List.map_cons, List.find?_cons_of_pos hfirst]
        rfl
    | false =>
      refine Ensures.after_pure (ih.mono ?_)
      rintro _ ⟨found, rfl, hmem, hfind⟩
      refine ⟨found, rfl, fun b hb => ?_, fun known offers => ?_⟩
      · obtain ⟨m', hm', rfl⟩ := hmem b hb
        exact ⟨m', List.mem_cons_of_mem _ hm', rfl⟩
      · have hfirst : complete known (pair six m) = false := (hknown known offers).symm
        rw [List.map_cons, List.find?_cons_of_neg (by rw [hfirst]; exact Bool.false_ne_true)]
        exact hfind known offers

/-- The family of addresses that a pair is taken to be for. -/
def isSix (binary saveBinary : String) : Bool :=
  Text.contains binary (command true) || Text.contains saveBinary (command true)

/-- **The pair that a policy is run with** is the given one, or one of another flavour. On a host
that knows a set of names, it is the given one if that is complete, or else the first of the others
that is, and if there is none it is the given one again. -/
theorem returns_fallback (binary saveBinary : String) :
    (fallback binary saveBinary).Returns host False fun found =>
      (found = (binary, saveBinary) ∨ ∃ m ∈ flavours, found = pair (isSix binary saveBinary) m) ∧
      ∀ known, host.Offers known →
        found = if complete known (binary, saveBinary) = true then (binary, saveBinary)
          else ((flavours.map (pair (isSix binary saveBinary))).find? (complete known)).getD
            (binary, saveBinary) := by
  refine (returns_knowsPair binary saveBinary).bind fun known? hknown => ?_
  cases known? with
  | true =>
    refine Ensures.after_note (returns_pure ⟨Or.inl rfl, fun known offers => ?_⟩)
    rw [if_pos (hknown known offers).symm]
  | false =>
    refine (returns_findPair (isSix binary saveBinary) flavours).bind fun found hfound => ?_
    obtain ⟨hmem, hfind⟩ := hfound
    have hneg {known : String → Bool} (offers : host.Offers known) :
        ¬complete known (binary, saveBinary) = true := by
      rw [← hknown known offers]
      exact Bool.false_ne_true
    cases found with
    | none =>
      refine Ensures.after_note (returns_pure ⟨Or.inl rfl, fun known offers => ?_⟩)
      rw [if_neg (hneg offers), ← hfind known offers, Option.getD_none]
    | some b =>
      have hpair : (b = (binary, saveBinary) ∨
          ∃ m ∈ flavours, b = pair (isSix binary saveBinary) m) ∧ ∀ known, host.Offers known →
            b = if complete known (binary, saveBinary) = true then (binary, saveBinary)
              else ((flavours.map (pair (isSix binary saveBinary))).find? (complete known)).getD
                (binary, saveBinary) := by
        refine ⟨Or.inr (hmem b rfl), fun known offers => ?_⟩
        rw [if_neg (hneg offers), ← hfind known offers, Option.getD_some]
      dsimp only
      split
      · exact Ensures.after_note (returns_pure hpair)
      · exact returns_pure hpair

end Backend

namespace Policy

open Backend (command saveName pair)

/-- The binaries of the policy belong together, and are some of the family that the policy is for:
`six` stands for version 6 of the addresses. -/
structure Paired (p : Policy) (six : Bool) : Prop where
  ipv6 : p.ipv6 = six
  binary : p.binary ∈ [command six, command six ++ "-legacy", command six ++ "-nft"]
  saveBinary : p.saveBinary = p.binary ++ "-save"

theorem paired_iff {p : Policy} {six : Bool} :
    p.Paired six ↔ p.ipv6 = six ∧ ∃ m, (p.binary, p.saveBinary) = pair six m := by
  constructor
  · rintro ⟨hsix, hbinary, hsave⟩
    refine ⟨hsix, ?_⟩
    simp only [List.mem_cons, List.not_mem_nil, or_false] at hbinary
    rcases hbinary with h | h | h
    · exact ⟨.plain, Prod.ext h (hsave.trans (congrArg saveName h))⟩
    · exact ⟨.legacy, Prod.ext h (hsave.trans (congrArg saveName h))⟩
    · exact ⟨.nft, Prod.ext h (hsave.trans (congrArg saveName h))⟩
  · rintro ⟨hsix, m, heq⟩
    obtain ⟨hbinary, hsave⟩ := Prod.mk.inj heq
    refine ⟨hsix, ?_, hsave.trans (congrArg saveName hbinary.symm)⟩
    rw [hbinary]
    cases m <;> simp [Backend.binaryName]

/-- The family of a pair can be told from its names. -/
theorem Paired.isSix {p : Policy} {six : Bool} (h : p.Paired six) :
    Backend.isSix p.binary p.saveBinary = six := by
  obtain ⟨-, m, heq⟩ := paired_iff.mp h
  obtain ⟨hbinary, hsave⟩ := Prod.mk.inj heq
  rw [hbinary, hsave]
  cases m <;> cases six <;> decide

/-- A policy keeps its family with any pair of that. -/
theorem paired_withBinaries {p : Policy} {six : Bool} {b : String × String} (h : p.ipv6 = six)
    (hpair : ∃ m, b = pair six m) : (p.withBinaries b.1 b.2).Paired six :=
  paired_iff.mpr ⟨h, hpair⟩

end Policy

namespace Run

open PodRedirect.Action
open Backend (complete pair flavours)

variable {σ : Type} {host : Host σ}

/-- The policy that is run is the given one but for its binaries, and these are a pair again. On a
host that knows a set of names, a complete pair is kept, and another one is complete unless no pair
of the family is. -/
theorem returns_resolved {p : Policy} {six : Bool} (h : p.Paired six) :
    (resolved p).Returns host False fun q =>
      q.Paired six ∧ (∃ b : String × String, q = p.withBinaries b.1 b.2) ∧
      ∀ known, host.Offers known →
        (complete known (p.binary, p.saveBinary) = true → q = p) ∧
        (complete known (q.binary, q.saveBinary) = true ∨
          complete known (p.binary, p.saveBinary) = false ∧
            ∀ m ∈ flavours, complete known (pair six m) = false) := by
  refine (Backend.returns_fallback p.binary p.saveBinary).bind fun b hb => returns_pure ?_
  rw [h.isSix] at hb
  obtain ⟨hmem, hfind⟩ := hb
  refine ⟨?_, ⟨b, rfl⟩, fun known offers => ?_⟩
  · rcases hmem with rfl | ⟨m, -, rfl⟩
    · exact h
    · exact Policy.paired_withBinaries h.ipv6 ⟨m, rfl⟩
  · have heq := hfind known offers
    by_cases hcomplete : complete known (p.binary, p.saveBinary) = true
    · rw [if_pos hcomplete] at heq
      subst heq
      exact ⟨fun _ => rfl, Or.inl hcomplete⟩
    · refine ⟨fun h => absurd h hcomplete, ?_⟩
      rw [if_neg hcomplete] at heq
      cases hfound : (flavours.map (pair six)).find? (complete known) with
      | some b' =>
        rw [hfound, Option.getD_some] at heq
        subst heq
        exact Or.inl (List.find?_some hfound)
      | none =>
        refine Or.inr ⟨Bool.eq_false_iff.mpr hcomplete, fun m hm => Bool.eq_false_iff.mpr ?_⟩
        exact List.find?_eq_none.mp hfound _ (List.mem_map_of_mem hm)

end Run

end PodRedirect
