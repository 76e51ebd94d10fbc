import PodRedirect.Main
import PodRedirect.Proofs.Backend.Detect
import PodRedirect.Proofs.Cleanup

/-!
# The flavour of a policy

The binaries of a policy are settled in stages: it is built with those of a flavour, they are
replaced when the flavour in use is found out, and replaced again if the host lacks them. At every
stage they are a pair, so that rules are listed where they are changed. Where the host has the pair
of the flavour that was asked for, this is the one that the policy is run with in the end.

## Main definitions

* `Run.Settled`: the policies that come of a policy at these stages

## Main results

* `Policy.paired_of_build`, `Run.Settled.paired`: a policy is built with a pair, and keeps to pairs
* `Run.settled_binaries`: at every stage, the binaries are a pair, which is complete in the end
* `Run.flavour_honoured`: the flavour that was asked for is the one that is used
-/

namespace PodRedirect

open Backend (complete pair flavours)

variable {σ : Type} {host : Host σ} {s : Settings} {six : Bool} {p q : Policy}

/-! ## Stages -/

/-- Without paths, a policy is built with a pair of its family. -/
theorem Policy.paired_of_build (unset : Policy.flag s .firewallBinPath = false)
    (unset' : Policy.flag s .firewallSaveBinPath = false)
    (built : ((Policy.build s six).run #[]).1 = .ok p) : p.Paired six := by
  have hbuilt := Policy.built_of_gives (Logged.gives_of_run built)
  obtain ⟨mode, hbinaries⟩ := hbuilt.exists_defaultBinaries unset unset'
  exact Policy.paired_iff.mpr ⟨hbuilt.ipv6, Backend.exists_of_defaultBinaries hbinaries⟩

namespace Run

open PodRedirect.Action

/-- The policies that come of a policy on a host, in any of its states: the policy itself, one whose
flavour was found out, and one whose binaries were replaced by those that the host has. -/
inductive Settled (host : Host σ) (p : Policy) : Policy → Prop where
  | built : Settled host p p
  | detected {q q' : Policy} {requested : Value} {explicit : Bool} {selection : Selection}
    {session : Session σ} (before : Settled host p q)
    (ended : ((resolveBackend q requested explicit).perform host session).1 =
      .ok (q', selection)) : Settled host p q'
  | resolved {q q' : Policy} {session : Session σ} (before : Settled host p q)
    (ended : ((resolved q).perform host session).1 = .ok q') : Settled host p q'

/-- The binaries that are selected are a pair. -/
theorem exists_of_selects {m : Mode} {selection : Selection}
    (h : Backend.Selects host six m selection) :
    ∃ m', (selection.binary, selection.saveBinary) = pair six m' := by
  rcases h.binaries with h | ⟨h, -⟩
  · exact ⟨selection.mode, h⟩
  · exact ⟨.plain, h⟩

/-- Finding out the flavour keeps to pairs of the family. -/
theorem Resolves.paired (h : p.Paired six) {requested : Value} {explicit : Bool}
    {selection : Selection} (ends : Resolves host p requested explicit (.ok (q, selection))) :
    q.Paired six := by
  cases ends with
  | given => exact h
  | missing => exact h
  | selected asked selects =>
    rw [h.ipv6] at selects
    exact Policy.paired_withBinaries h.ipv6 (exists_of_selects selects)

/-- **At every stage the binaries of a policy are a pair of its family.** -/
theorem Settled.paired (h : p.Paired six) (stage : Settled host p q) : q.Paired six := by
  induction stage with
  | built => exact h
  | detected before ended ih => exact ((ensures_resolveBackend _ _ _).ended ended).paired ih
  | resolved before ended ih =>
    obtain ⟨_, ⟨⟩, hpaired, -⟩ := Ensures.ended (returns_resolved ih) ended
    exact hpaired

/-- **The binaries that list rules and those that change them never drift apart.** Without paths,
the binaries of a policy are a pair of its family at every stage, on every host. On one that knows a
set of names, the policy that is run in the end has both of its binaries in the set, unless neither
the pair before nor any other of the family is. -/
theorem settled_binaries (unset : Policy.flag s .firewallBinPath = false)
    (unset' : Policy.flag s .firewallSaveBinPath = false)
    (built : ((Policy.build s six).run #[]).1 = .ok p) (stage : Settled host p q) :
    q.Paired six ∧ ∀ known, host.Offers known → ∀ session, ∃ r,
      ((resolved q).perform host session).1 = .ok r ∧
      (complete known (r.binary, r.saveBinary) = true ∨
        complete known (q.binary, q.saveBinary) = false ∧
          ∀ m ∈ flavours, complete known (pair six m) = false) := by
  have hpaired := stage.paired (Policy.paired_of_build unset unset' built)
  refine ⟨hpaired, fun known offers session => ?_⟩
  obtain ⟨r, hr, -, -, hknown⟩ := Ensures.perform (returns_resolved hpaired) session
  exact ⟨r, hr, (hknown known offers).2⟩

/-- A host that denies every third name, whatever it is. -/
def flickering : Host Nat where
  resolves n _ := (n % 3 ≠ 0, n + 1)
  start n _ := (.exited 0 none, n + 1)

open CommandLine (removed removingSettings)

/-- A pair of version 6 after two stages on a host that changes its answers, and one that is
complete on a host that knows the plain binaries only. -/
theorem settled_binaries_flickering :
    Settled flickering (removed true)
      ((removed true).withBinaries "ip6tables-nft" "ip6tables-nft-save") ∧
    ((removed true).withBinaries "ip6tables-nft" "ip6tables-nft-save").Paired true ∧
    ∃ r, ((resolved (removed true)).perform
        (Executable.host ["ip6tables", "ip6tables-save"]) ⟨(), #[]⟩).1 = .ok r ∧
      complete ["ip6tables", "ip6tables-save"].contains (r.binary, r.saveBinary) = true := by
  have built : ((Policy.build removingSettings true).run #[]).1 = .ok (removed true) := rfl
  -- the flavour in use is found out with the plain pair, which the host denies afterwards
  have detected : ((resolveBackend (removed true) (.text "nft") false).perform flickering
      ⟨0, #[]⟩).1 = .ok ((removed true).withBinaries "ip6tables" "ip6tables-save",
        ⟨.nft, "ip6tables", "ip6tables-save", some .legacy⟩) := rfl
  have replaced : ((resolved ((removed true).withBinaries "ip6tables" "ip6tables-save")).perform
      flickering ⟨0, #[]⟩).1 =
        .ok ((removed true).withBinaries "ip6tables-nft" "ip6tables-nft-save") := rfl
  have stage : Settled flickering (removed true)
      ((removed true).withBinaries "ip6tables-nft" "ip6tables-nft-save") :=
    .resolved (.detected .built detected) replaced
  refine ⟨stage, (settled_binaries rfl rfl built stage).1, ?_⟩
  have first : Settled (Executable.host ["ip6tables", "ip6tables-save"]) (removed true)
      (removed true) := .built
  obtain ⟨r, hr, hend⟩ := (settled_binaries rfl rfl built first).2
    ["ip6tables", "ip6tables-save"].contains (fun _ _ => rfl) ⟨(), #[]⟩
  refine ⟨r, hr, hend.resolve_right fun ⟨_, hnone⟩ => ?_⟩
  exact absurd (hnone .plain (by decide)) (by decide)

/-! ## The flavour that was asked for -/

theorem ofValue?_name (m : Mode) : Mode.ofValue? (.text m.name) = some m := by cases m <;> decide

theorem eq_of_ofValue?_name {m m' : Mode} (h : Mode.ofValue? (.text m.name) = some m') : m = m' :=
  Option.some.inj ((ofValue?_name m).symm.trans h)

/-- None of the flavours leaves open which one is used, and each has names for its binaries. -/
theorem settled_of_mem_flavours {m : Mode} (h : m ∈ flavours) : ¬(m = .auto ∨ m = .explicit) := by
  rintro (rfl | rfl)
  · exact absurd h (by decide)
  · exact absurd h (by decide)

/-- Where a binary that lists rules is missing, so that the flavour in use cannot be found out, the
host has the pair of one flavour at most. -/
theorem eq_of_complete {known : String → Bool} {m m₁ m₂ : Mode} (probed : m = .nft ∨ m = .legacy)
    (missing : known (pair six m).2 = false ∧ known (pair six .plain).2 = false)
    (h₁ : complete known (pair six m₁) = true) (h₂ : complete known (pair six m₂) = true) :
    m₁ = m₂ := by
  -- a complete pair is neither that of the flavour nor the plain one
  have hother {n : Mode} (h : complete known (pair six n) = true) :
      m = .nft ∧ n = .legacy ∨ m = .legacy ∧ n = .nft := by
    have hn : known (pair six n).2 = true := (Backend.complete_iff.mp h).2
    have hplain : known (pair six n).2 ≠ known (pair six .plain).2 := by simp [hn, missing.2]
    have hm : known (pair six n).2 ≠ known (pair six m).2 := by simp [hn, missing.1]
    rcases probed with rfl | rfl
    · cases n with
      | legacy => exact Or.inl ⟨rfl, rfl⟩
      | nft => exact absurd rfl hm
      | plain | auto | explicit => exact absurd rfl hplain
    · cases n with
      | nft => exact Or.inr ⟨rfl, rfl⟩
      | legacy => exact absurd rfl hm
      | plain | auto | explicit => exact absurd rfl hplain
  rcases hother h₁ with ⟨rfl, rfl⟩ | ⟨rfl, rfl⟩ <;> rcases hother h₂ with ⟨h, rfl⟩ | ⟨h, rfl⟩
  · rfl
  · cases h
  · cases h
  · rfl

/-- After the flavour was found out, or could not be, the host's pair for the flavour that was asked
for is the one that is used. -/
theorem returns_resolved_of_resolves {m : Mode} (h : p.Paired six) (asked : m ∈ flavours)
    {known : String → Bool} (offers : host.Offers known)
    (hcomplete : complete known (pair six m) = true) {selection : Selection}
    (ends : Resolves host p (.text m.name) false (.ok (q, selection))) :
    (resolved q).Returns host False
      fun r => r = p.withBinaries (pair six m).1 (pair six m).2 := by
  have hpaired := ends.paired h
  refine (returns_resolved hpaired).mono ?_
  rintro _ ⟨r, rfl, hr, ⟨b, hb⟩, hknown⟩
  refine ⟨r, rfl, ?_⟩
  obtain ⟨hkept, hend⟩ := hknown known offers
  cases ends with
  | given h => cases h
  | missing asked' settled probed missing =>
    -- the policy has its own binaries still, and is run with the only pair that is complete
    rw [h.ipv6] at missing
    have hr_complete := hend.resolve_right fun ⟨_, hnone⟩ =>
      Bool.false_ne_true ((hnone m asked).symm.trans hcomplete)
    obtain ⟨-, m', hm'⟩ := Policy.paired_iff.mp hr
    rw [hm'] at hr_complete
    rw [eq_of_complete probed (missing known offers) hr_complete hcomplete] at hm'
    subst hb
    rw [← hm']
    rfl
  | selected asked' selects =>
    obtain rfl := eq_of_ofValue?_name asked'
    rw [h.ipv6] at selects
    obtain ⟨-, hmode, hbinaries⟩ := selects
    rw [if_neg fun hauto => settled_of_mem_flavours asked (Or.inl hauto)] at hmode
    rw [hmode] at hbinaries
    have hpair := hbinaries.resolve_right fun ⟨_, hmissing⟩ => Bool.false_ne_true
      ((hmissing known offers).symm.trans (Backend.complete_iff.mp hcomplete).2)
    -- the pair that was selected is complete, so that it is kept
    have hkeeps := hkept (hpair ▸ hcomplete)
    rw [hkeeps, ← hpair]

/-- **A flavour that was asked for is honoured.** On a host that knows a set of names and has the
pair of the flavour, the policy is run with this pair, whatever flavour the settings of the policy
name and whatever listings show. Where the flavour was left open, the one that is selected is the
one found to be in use, and the pair that was selected is kept if it is complete. -/
theorem flavour_honoured (unset : Policy.flag s .firewallBinPath = false)
    (unset' : Policy.flag s .firewallSaveBinPath = false)
    (built : ((Policy.build s six).run #[]).1 = .ok p) {known : String → Bool}
    (offers : host.Offers known) :
    (∀ m ∈ flavours, complete known (pair six m) = true → ∀ session,
      ((resolveBackend p (.text m.name) false >>= fun settled => resolved settled.1).perform host
        session).1 = .ok (p.withBinaries (pair six m).1 (pair six m).2)) ∧
    ∀ session q selection,
      ((resolveBackend p (.text Mode.auto.name) false).perform host session).1 =
        .ok (q, selection) →
      selection.detected = some selection.mode ∧
      q = p.withBinaries selection.binary selection.saveBinary ∧
      (complete known (selection.binary, selection.saveBinary) = true → ∀ session,
        ((resolved q).perform host session).1 = .ok q) := by
  have hpaired := Policy.paired_of_build unset unset' built
  refine ⟨fun m asked hcomplete session => ?_, fun session q selection ended => ?_⟩
  · have hboth : (resolveBackend p (.text m.name) false >>= fun settled =>
        resolved settled.1).Ensures host (p.simulate = false)
          fun r => r = .ok (p.withBinaries (pair six m).1 (pair six m).2) := by
      refine (ensures_resolveBackend p (.text m.name) false).bind ?_ ?_
      · rintro ⟨q, selection⟩ ends
        refine (returns_resolved_of_resolves hpaired asked offers hcomplete ends).of_idle.mono ?_
        rintro _ ⟨r, rfl, rfl⟩
        rfl
      · intro f ends
        cases ends with
        | failed unsettled =>
          rcases unsettled with h | h
          · cases h
          · exact absurd (h m (ofValue?_name m)) (settled_of_mem_flavours asked)
    exact hboth.perform session
  · have ends := (ensures_resolveBackend p _ _).ended ended
    have hq := ends.paired hpaired
    cases ends with
    | given h => cases h
    | missing asked settled => exact absurd (eq_of_ofValue?_name asked).symm settled
    | selected asked selects =>
      obtain rfl := eq_of_ofValue?_name asked
      refine ⟨by simpa using selects.mode, rfl, fun hcomplete session => ?_⟩
      obtain ⟨r, hr, -, -, hknown⟩ := Ensures.perform (returns_resolved hq) session
      rw [hr, (hknown known offers).1 hcomplete]

/-- A host without binaries to find out the flavour in use, and one on which the flavour in use has
no binaries of its own. -/
theorem flavour_honoured_unprobed :
    ((resolveBackend (removed false) (.text "legacy") false >>= fun settled =>
        resolved settled.1).perform
      (Executable.host ["iptables-legacy", "iptables-legacy-save"]) ⟨(), #[]⟩).1 =
        .ok (removed false) ∧
    ((resolved ((removed false).withBinaries "iptables" "iptables-save")).perform
      (Executable.host ["iptables", "iptables-save", "iptables-nft", "iptables-nft-save"])
      ⟨(), #[]⟩).1 = .ok ((removed false).withBinaries "iptables" "iptables-save") := by
  have built : ((Policy.build removingSettings false).run #[]).1 = .ok (removed false) := rfl
  constructor
  · have offers : (Executable.host ["iptables-legacy", "iptables-legacy-save"]).Offers
        ["iptables-legacy", "iptables-legacy-save"].contains := fun _ _ => rfl
    exact (flavour_honoured rfl rfl built offers).1 .legacy (by decide) (by decide) ⟨(), #[]⟩
  · have offers : (Executable.host ["iptables", "iptables-save", "iptables-nft",
        "iptables-nft-save"]).Offers ["iptables", "iptables-save", "iptables-nft",
          "iptables-nft-save"].contains := fun _ _ => rfl
    have selected : ((resolveBackend (removed false) (.text "auto") false).perform
        (Executable.host ["iptables", "iptables-save", "iptables-nft", "iptables-nft-save"])
        ⟨(), #[]⟩).1 = .ok ((removed false).withBinaries "iptables" "iptables-save",
          ⟨.legacy, "iptables", "iptables-save", some .legacy⟩) := rfl
    obtain ⟨-, -, hkept⟩ := (flavour_honoured rfl rfl built offers).2 _ _ _ selected
    exact hkept (by decide) ⟨(), #[]⟩

end Run

end PodRedirect
