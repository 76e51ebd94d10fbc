import PodRedirect.Main
import PodRedirect.Proofs.CommandLine.Settled

/-!
# The family of a pair that stands in

Where binaries are given by their paths and the host lacks one of them, another pair stands in for
them. The paths are for version 4 of the addresses, but the family of the other pair is told from
their texts, with the names of directories in them. A path that mentions the command of version 6
anywhere makes a policy for version 4 run with binaries for version 6.

## Main definitions

* `Backend.StandsIn`: the given pair, or one of a family that can stand in for it
* `Backend.names`: the names of a pair, for a host that has no others

## Main results

* `Run.returns_resolved_standsIn`: what stands in for the pair of a policy
* `CommandLine.fallback_family_iff`: when a policy with given paths keeps its family
-/

namespace PodRedirect

open PodRedirect.Action

variable {σ : Type} {host : Host σ}

namespace Backend

/-- The pair is the given one, or one of a flavour for the family of addresses. -/
def StandsIn (six : Bool) (given b : String × String) : Prop :=
  b = given ∨ ∃ m ∈ flavours, b = pair six m

/-- The names of a pair. -/
def names (six : Bool) (m : Mode) : List String := [(pair six m).1, (pair six m).2]

/-- A binary is lacking on a host that has one pair for version 6 of the addresses and nothing else,
for one pair or another. -/
theorem exists_names (binary : String) :
    ∃ m ∈ flavours, binary ∉ names true m ∧
      (flavours.map (pair true)).find? (complete (names true m).contains) = some (pair true m) := by
  -- two pairs have no name in common, so that one of them leaves out the binary
  have hapart : ∀ name ∈ names true .nft, name ∉ names true .legacy := by decide
  by_cases hnft : binary ∈ names true .nft
  · exact ⟨.legacy, by decide, hapart binary hnft, by decide⟩
  · exact ⟨.nft, by decide, hnft, by decide⟩

end Backend

namespace Run

open Backend (StandsIn flavours pair complete isSix names)

/-- A policy is run with its own pair or with one of the family that its paths are taken for. -/
theorem returns_resolved_standsIn (p : Policy) :
    (resolved p).Returns host False fun q => ∃ b : String × String, q = p.withBinaries b.1 b.2 ∧
      StandsIn (isSix p.binary p.saveBinary) (p.binary, p.saveBinary) b := by
  refine (Backend.returns_fallback p.binary p.saveBinary).bind fun b hb => ?_
  exact returns_pure ⟨b, rfl, hb.1⟩

/-- On a host that has one pair only, this stands in for a pair of its family that is lacking. -/
theorem resolved_of_lacking {p : Policy} {six : Bool} {m : Mode}
    (family : isSix p.binary p.saveBinary = six) (lacking : p.binary ∉ names six m)
    (found : (flavours.map (pair six)).find? (complete (names six m).contains) = some (pair six m))
    (session : Session Unit) :
    ((resolved p).perform (Executable.host (names six m)) session).1 =
      .ok (p.withBinaries (pair six m).1 (pair six m).2) := by
  have hincomplete : ¬complete (names six m).contains (p.binary, p.saveBinary) = true := by
    intro hcomplete
    have hknown := (Backend.complete_iff.mp hcomplete).1
    exact lacking (List.contains_iff_mem.mp hknown)
  have hresolved : (resolved p).Returns (Executable.host (names six m)) False fun q =>
      q = p.withBinaries (pair six m).1 (pair six m).2 := by
    refine (Backend.returns_fallback p.binary p.saveBinary).bind fun b hb => returns_pure ?_
    have hb := hb.2 (names six m).contains fun _ _ => rfl
    rw [if_neg hincomplete, family, found] at hb
    rw [hb]
    rfl
  obtain ⟨q, hq, rfl⟩ := Ensures.perform hresolved session
  exact hq

/-- **A policy is only run with a pair of version 4 or with its own** exactly if its paths do not
mention the command of version 6. -/
theorem standsIn_iff (p : Policy) :
    (∀ (σ : Type) (host : Host σ) (session : Session σ) (b : String × String),
      ((resolved p).perform host session).1 = .ok (p.withBinaries b.1 b.2) →
        StandsIn false (p.binary, p.saveBinary) b) ↔ isSix p.binary p.saveBinary = false := by
  constructor
  · intro hkeeps
    by_contra hsix
    have hsix : isSix p.binary p.saveBinary = true := by simpa using hsix
    -- a host that has one pair for version 6 only breaks the rule
    obtain ⟨m, hm, hlacking, hfound⟩ := Backend.exists_names p.binary
    rcases hkeeps Unit _ ⟨(), #[]⟩ (pair true m)
      (resolved_of_lacking hsix hlacking hfound ⟨(), #[]⟩) with heq | ⟨m', hm', heq⟩
    · apply hlacking
      rw [← (Prod.mk.inj heq).1]
      exact List.mem_cons_self
    · have hapart : ∀ m ∈ flavours, ∀ m' ∈ flavours, pair true m ≠ pair false m' := by decide
      exact hapart m hm m' hm' heq
  · intro hfour σ host session b hb
    obtain ⟨q, hq, b', rfl, hstands⟩ := Ensures.perform (returns_resolved_standsIn p) session
    -- policies with the same binaries have the same pair
    have hsame : p.withBinaries b.1 b.2 = p.withBinaries b'.1 b'.2 :=
      Except.ok.inj (hb.symm.trans hq)
    have hpair : b = b' :=
      Prod.ext (congrArg Policy.binary hsame) (congrArg Policy.saveBinary hsame)
    rwa [hfour, ← hpair] at hstands

end Run

namespace CommandLine

open Backend (StandsIn isSix)

section Given

variable {s : Settings} {binary saveBinary : String} {v4 : Policy} {v6 : Option Policy}

/-- The first policy has the paths that are given. -/
theorem paths_of_planned (given : s.getD .firewallBinPath .null = .text binary)
    (given' : s.getD .firewallSaveBinPath .null = .text saveBinary) (nonempty : binary ≠ "")
    (planned : (planned s).Gives (v4, v6)) : v4.binary = binary ∧ v4.saveBinary = saveBinary := by
  have hflag := Policy.flag_of_getD given nonempty
  obtain ⟨-, hbinary, hsave⟩ := (built_of_gives_planned planned).1.paths hflag
  rw [Policy.text_of_getD given] at hbinary
  rw [Policy.text_of_getD given'] at hsave
  exact ⟨hbinary, hsave⟩

/-- The first policy keeps them on every host. -/
theorem ensures_policies_paths (given : Policy.flag s .firewallBinPath = true)
    (binary : v4.binary.isEmpty = false) (saveBinary : v4.saveBinary.isEmpty = false)
    (built : ((planned s).run #[]).1 = .ok (v4, v6)) (host : Host σ) :
    (policies s true).Ensures host (Policy.flag s .simulate = false)
      fun r => ∀ q, r = .ok q → q.1 = v4 := by
  have hflags := flags_of_gives_planned (Logged.gives_of_run built)
  rw [policies_eq]
  refine (ensures_ofLogged (planned s)).bind ?_ fun f _ q hq => nomatch hq
  rintro _ hp
  rw [built] at hp
  cases hp
  have hfirst : (settled v4 (s.getD .iptablesMode .null) true).Returns host
      (Policy.flag s .simulate = false) fun q => q = v4 := by
    rw [← (hflags v4 List.mem_cons_self).1]
    exact returns_settled_given _ binary saveBinary
  unfold settledBoth
  rw [given]
  refine hfirst.bind ?_
  rintro _ rfl
  cases v6 with
  | none =>
    refine ensures_pure ?_
    rintro _ ⟨⟩
    rfl
  | some v6 =>
    have hsecond : (settled v6 (s.getD .iptablesMode .null) false).StartsOnlyIf host
        (Policy.flag s .simulate = false) := by
      rw [← (hflags v6 (by simp)).1]
      exact (ensures_settled v6 _ _).mono fun _ _ => trivial
    refine Ensures.bind hsecond (fun v6' _ => ensures_pure ?_) fun f _ q hq => nomatch hq
    rintro _ ⟨⟩
    rfl

/-- **A policy with given paths keeps its family exactly if they do not mention the command of
version 6.** The first policy is for version 4, and its binaries are settled as the paths that are
given, on every host. What it is run with are these again, or a pair of the family that is told from
their texts. -/
theorem fallback_family_iff (given : s.getD .firewallBinPath .null = .text binary)
    (given' : s.getD .firewallSaveBinPath .null = .text saveBinary) (nonempty : binary ≠ "")
    (nonempty' : saveBinary ≠ "") (built : ((planned s).run #[]).1 = .ok (v4, v6)) :
    v4.ipv6 = false ∧ v4.binary = binary ∧ v4.saveBinary = saveBinary ∧
    (∀ (σ : Type) (host : Host σ) (session : Session σ) (q : Policy × Option Policy),
      ((policies s true).perform host session).1 = .ok q → q.1 = v4) ∧
    (∀ (σ : Type) (host : Host σ) (session : Session σ), ∃ b : String × String,
      ((Run.resolved v4).perform host session).1 = .ok (v4.withBinaries b.1 b.2) ∧
      StandsIn (isSix binary saveBinary) (binary, saveBinary) b) ∧
    ((∀ (σ : Type) (host : Host σ) (session : Session σ) (b : String × String),
      ((Run.resolved v4).perform host session).1 = .ok (v4.withBinaries b.1 b.2) →
        StandsIn false (binary, saveBinary) b) ↔ isSix binary saveBinary = false) := by
  have hplanned := Logged.gives_of_run built
  obtain ⟨rfl, rfl⟩ := paths_of_planned given given' nonempty hplanned
  refine ⟨(built_of_gives_planned hplanned).1.ipv6, rfl, rfl, ?_, ?_, Run.standsIn_iff v4⟩
  · intro σ host session q hq
    have hflag := Policy.flag_of_getD given nonempty
    refine (ensures_policies_paths hflag ?_ ?_ built host).ended hq q rfl
    · simpa using nonempty
    · simpa using nonempty'
  · intro σ host session
    obtain ⟨q, hq, b, rfl, hstands⟩ := Ensures.perform (Run.returns_resolved_standsIn v4) session
    exact ⟨b, hq, hstands⟩

end Given

/-- Arguments to install a redirection for version 4 of the addresses with the binaries of a
directory. -/
def located (directory : String) : Arguments where
  given := [(.incomingProxyPort, .int 4143), (.outgoingProxyPort, .int 4140), (.ipv6, .flag false),
    (.firewallBinPath, .text (directory ++ "/iptables")),
    (.firewallSaveBinPath, .text (directory ++ "/iptables-save"))]
  cleanup := false
  config := .text ""
  script := .text ""

/-- The settings with these arguments. -/
def locatedSettings (directory : String) : Settings :=
  Settings.defaults.update (located directory).given

/-- The policy for these settings. -/
def locatedPolicy (directory : String) : Policy :=
  (installed false).withBinaries (directory ++ "/iptables") (directory ++ "/iptables-save")

/-- A directory whose name says nothing about a family: on a host that has the binaries for version 6
only, the policy is not run with these. -/
theorem fallback_family_iff_plain :
    ((planned (locatedSettings "/opt/sbin")).run #[]).1 = .ok (locatedPolicy "/opt/sbin", none) ∧
    ∃ b, ((Run.resolved (locatedPolicy "/opt/sbin")).perform
        (Executable.host (Backend.names true .nft)) ⟨(), #[]⟩).1 =
          .ok ((locatedPolicy "/opt/sbin").withBinaries b.1 b.2) ∧
      StandsIn false ("/opt/sbin/iptables", "/opt/sbin/iptables-save") b := by
  have built : ((planned (locatedSettings "/opt/sbin")).run #[]).1 =
      .ok (locatedPolicy "/opt/sbin", none) := rfl
  obtain ⟨-, -, -, -, hruns, hkeeps⟩ := fallback_family_iff
    (rfl : (locatedSettings "/opt/sbin").getD .firewallBinPath .null = .text "/opt/sbin/iptables")
    (rfl : (locatedSettings "/opt/sbin").getD .firewallSaveBinPath .null =
      .text "/opt/sbin/iptables-save") (by decide) (by decide) built
  obtain ⟨b, hb, -⟩ := hruns Unit (Executable.host (Backend.names true .nft)) ⟨(), #[]⟩
  exact ⟨built, b, hb, hkeeps.mpr (by decide) Unit _ _ b hb⟩

/-- A directory that is named after the command of version 6: on a host that has the binaries for
version 6, the policy for version 4 is run with these. -/
theorem fallback_other_family :
    parse ["-p", "4143", "-o", "4140", "--no-ipv6", "--firewall-bin-path", "/opt/ip6tables/iptables",
      "--firewall-save-bin-path", "/opt/ip6tables/iptables-save"] =
        .ok (located "/opt/ip6tables") ∧
    ((settings (located "/opt/ip6tables") alone.read).run #[]).1 =
      .ok (locatedSettings "/opt/ip6tables") ∧
    ((planned (locatedSettings "/opt/ip6tables")).run #[]).1 =
      .ok (locatedPolicy "/opt/ip6tables", none) ∧
    (locatedPolicy "/opt/ip6tables").ipv6 = false ∧
    ((Run.resolved (locatedPolicy "/opt/ip6tables")).perform
      (Executable.host (Backend.names true .nft)) ⟨(), #[]⟩).1 =
        .ok ((locatedPolicy "/opt/ip6tables").withBinaries "ip6tables-nft" "ip6tables-nft-save") ∧
    ¬StandsIn false ("/opt/ip6tables/iptables", "/opt/ip6tables/iptables-save")
      ("ip6tables-nft", "ip6tables-nft-save") := by
  refine ⟨rfl, rfl, rfl, rfl, ?_, ?_⟩
  · exact Run.resolved_of_lacking (by decide) (by decide) (by decide) ⟨(), #[]⟩
  · rintro (heq | ⟨m, hm, heq⟩)
    · exact absurd heq (by decide)
    · have hapart : ∀ m ∈ Backend.flavours,
          ("ip6tables-nft", "ip6tables-nft-save") ≠ Backend.pair false m := by decide
      exact hapart m hm heq

end CommandLine

end PodRedirect
