import PodRedirect.Proofs.Argument
import PodRedirect.Proofs.Compilation
import PodRedirect.Proofs.Policy
import PodRedirect.Proofs.Text

/-!
# Only validated values reach a command line

Settings are checked when a policy is built from them, but for the tokens of the ports to leave
alone, which are read when the policy is compiled. Whichever way a value takes, it has been checked
when it becomes an argument.

## Main definitions

* `Policy.Valid`: the checked fields of a policy

## Main results

* `Policy.Built.valid`: a policy that is built from settings is valid
* `Compiler.isChain_of_mem_compile`: the arguments of commands for a valid policy are right
* `Compiler.validated_of_build`: so are those of commands for settings
-/

namespace PodRedirect

open Argument (Subnet Validated options)

/-! ## Policies -/

namespace Policy

open Logged (Gives)

/-- The fields of the policy that are checked hold what they may hold. -/
structure Valid (p : Policy) : Prop where
  inboundPort : Port.isValid p.inboundPort = true
  outboundPort : Port.isValid p.outboundPort = true
  redirectPorts : ∀ n ∈ p.redirectPorts, Port.isValid n = true
  subnets : ∀ s ∈ p.subnets, Subnet p.family s

variable {s : Settings} {six : Bool} {p : Policy}

theorem isValid_of_proxyPort {key : Setting} {n : Int} (h : proxyPort s key = .ok n) :
    Port.isValid n = true := by
  unfold proxyPort at h
  split at h
  · cases h
    exact Port.isValid_of_parse ‹_›
  · cases h
  · cases h

theorem isValid_of_redirectPort {token : Value} {n : Int} (h : redirectPort token = .ok n) :
    Port.isValid n = true := by
  unfold redirectPort at h
  split at h
  · cases h
    exact Port.isValid_of_parse ‹_›
  · cases h
  · cases h

theorem isValid_of_redirectPortList {ports : List Int} (h : redirectPortList s = .ok ports) :
    ∀ n ∈ ports, Port.isValid n = true := by
  obtain ⟨vs, -, h⟩ := of_bind_ok h
  intro n hn
  obtain ⟨token, -, htoken⟩ := exists_of_mem_mapM h hn
  exact isValid_of_redirectPort htoken

theorem subnet_of_gives {vs : List Value} {subnets : List String}
    (h : (sanitizeSubnets six vs).Gives subnets) :
    ∀ x ∈ subnets, Subnet (if six then .v6 else .v4) x := by
  induction vs generalizing subnets with
  | nil =>
    cases h.of_pure
    exact nofun
  | cons raw vs ih =>
    rw [sanitizeSubnets] at h
    obtain ⟨text, -, h⟩ := h.of_bind
    dsimp only at h
    split at h
    · -- blank texts are left out
      exact ih h
    · rename_i hnonempty
      split at h
      · -- what is no network ends it
        exact absurd h Logged.not_gives_throw
      · rename_i n hn
        split at h
        · rename_i hfamily
          obtain ⟨rest, hrest, h⟩ := h.of_bind
          cases h.of_pure
          rw [List.forall_mem_cons]
          refine ⟨⟨?_, Text.strip_strip text, n, hn, ?_⟩, ih hrest⟩
          · rw [String.isEmpty_iff] at hnonempty
            exact hnonempty
          · split
            · exact hfamily.mpr ‹_›
            · cases hv : n.family with
              | v4 => rfl
              | v6 => exact absurd (hfamily.mp hv) ‹_›
        · -- a network of the other family is left out with a warning
          obtain ⟨-, -, h⟩ := h.of_bind
          exact ih h

/-- **A policy that is built from settings is valid.** -/
theorem Built.valid (h : Built s six p) : p.Valid where
  inboundPort := isValid_of_proxyPort h.inboundPort
  outboundPort := isValid_of_proxyPort h.outboundPort
  redirectPorts := isValid_of_redirectPortList h.redirectPorts
  subnets := by
    obtain ⟨vs, -, hvs⟩ := h.subnets
    rw [family, h.ipv6]
    exact subnet_of_gives hvs

end Policy

/-! ## Commands -/

namespace Compiler

open Argument

variable {p : Policy} {traceId chain : String} {i : Installed} {d : Direction} {c : Command}

theorem chain_not_mem_options (d : Direction) : d.chain ∉ options := by
  cases d <;> decide

theorem loopbackNetwork_not_mem_options (p : Policy) : p.loopbackNetwork ∉ options := by
  unfold Policy.loopbackNetwork
  split <;> decide

/-- The rules for the tokens of ports, whatever these are. -/
theorem isChain_of_mem_ignorePorts {f : Net.Family} (hchain : chain ∉ options)
    {tokens : List Value} (h : c ∈ commands (ignorePorts traceId chain tokens)) :
    c.args.IsChain (Validated f) := by
  cases hm : Port.multiport Port.referenceLimit tokens with
  | error fault =>
    -- a token that ends the compilation has no rule
    rw [commands_ignorePorts_of_error traceId hm] at h
    cases h
  | ok groups =>
    rw [commands_ignorePorts traceId hm] at h
    obtain ⟨g, hg, rfl⟩ := List.mem_map.mp h
    rw [List.mem_filter] at hg
    obtain ⟨rs, rfl, hvalid, hcost⟩ := Port.exists_of_mem_multiport (by decide) hm hg.1
    -- a group without ranges has no rule
    have hne : rs ≠ [] := by
      rintro rfl
      simp at hg
    have hwithin : Port.cost rs ≤ 15 := Int.ofNat_le.mp hcost
    exact isChain_ignorePorts hchain (destinations_of_valid hne hvalid hwithin)

theorem isChain_of_mem_redirectInbound (valid : p.Valid) (hchain : chain ∉ options)
    (h : c ∈ commands (redirectInbound p traceId chain)) :
    c.args.IsChain (Validated p.family) := by
  cases hr : p.redirect with
  | all =>
    rw [commands_redirectInbound_all traceId hr, List.mem_singleton] at h
    exact h ▸ isChain_redirectAll hchain valid.inboundPort
  | listed =>
    rw [commands_redirectInbound_listed traceId hr] at h
    obtain ⟨port, hport, rfl⟩ := List.mem_map.mp h
    exact isChain_redirectPort hchain (valid.redirectPorts port hport) valid.inboundPort

/-- The rules for the proxy's own traffic, which there are for positive numbers only. -/
theorem isChain_of_mem_ignoreProxy {f : Net.Family} (hchain : chain ∉ options)
    (h : c ∈ commands (ignoreProxy p traceId chain)) : c.args.IsChain (Validated f) := by
  simp only [ignoreProxy, commands_append, List.mem_append] at h
  rcases h with h | h <;> split at h
  · rename_i huid
    rcases List.mem_append.mp (mem_of_mem_emitFor h) with h | h
    · -- the rule for traffic inside the host is there on request only
      split at h
      · rw [List.mem_singleton] at h
        exact h ▸ isChain_redirectLoopback hchain (loopbackNetwork_not_mem_options p)
          (chain_not_mem_options .inbound) huid
      · cases h
    · rw [List.mem_singleton] at h
      exact h ▸ isChain_ignoreUser hchain huid
  · cases h
  · rename_i hgid
    exact List.mem_singleton.mp (mem_of_mem_emitFor h) ▸ isChain_ignoreGroup hchain hgid
  · cases h

theorem isChain_of_mem_body (valid : p.Valid) (h : c ∈ commands (body p traceId d)) :
    c.args.IsChain (Validated p.family) := by
  have hchain := chain_not_mem_options d
  cases d with
  | inbound =>
    simp only [body, commands_append, List.mem_append] at h
    rcases h with (h | h) | h
    · exact isChain_of_mem_ignorePorts hchain h
    · rw [commands_ignoreSubnets] at h
      obtain ⟨subnet, hsubnet, rfl⟩ := List.mem_map.mp h
      exact isChain_ignoreSubnet hchain (valid.subnets subnet hsubnet)
    · exact isChain_of_mem_redirectInbound valid hchain h
  | outbound =>
    simp only [body, commands_append, List.mem_append, commands_emit, commands_nil,
      List.mem_singleton] at h
    rcases h with ((h | rfl) | h) | rfl
    · exact isChain_of_mem_ignoreProxy hchain h
    · exact isChain_ignoreLoopback hchain
    · exact isChain_of_mem_ignorePorts hchain h
    · exact isChain_redirectAll hchain valid.outboundPort

theorem isChain_of_mem_drop (valid : p.Valid) (h : c ∈ drop p traceId d) :
    c.args.IsChain (Validated p.family) := by
  cases d with
  | inbound =>
    simp only [drop, Option.mem_def, Option.ite_none_right_eq_some, Option.some.injEq] at h
    exact h.2 ▸ isChain_dropFin (by decide) valid.inboundPort
  | outbound =>
    simp only [drop, Option.mem_def, Option.ite_none_right_eq_some, Option.some.injEq] at h
    exact h.2 ▸ isChain_dropFin (by decide) valid.outboundPort

theorem isChain_of_mem_directed (valid : p.Valid) (h : c ∈ commands (directed p traceId i d)) :
    c.args.IsChain (Validated p.family) := by
  rw [directed, commands_append, commands_append, commands_ensureChain, commands_ensureJump,
    List.mem_append, List.mem_append] at h
  rcases h with (h | h) | h
  · -- no setting has a part in what makes a chain or empties it, or in a jump
    rw [List.mem_singleton] at h
    subst h
    refine isChain_of_forall_not_mem ?_
    cases d <;> cases i.chain _ <;> decide
  · exact isChain_of_mem_body valid h
  · -- where there is a jump already, nothing comes behind the rules of the chain
    split at h
    · cases h
    · rcases List.mem_cons.mp h with rfl | h
      · refine isChain_of_forall_not_mem ?_
        cases d <;> decide
      · exact isChain_of_mem_drop valid (Option.mem_toList.mp h)

/-- **The arguments of commands for a valid policy are right**, whatever is installed. -/
theorem isChain_of_mem_compile (valid : p.Valid) {listing : String} {result : Result}
    (compiled : ((new p traceId).compile listing).1 = .ok result) (h : c ∈ result.commands) :
    c.args.IsChain (Validated p.family) := by
  rw [commands_compile p traceId compiled, List.mem_append] at h
  rcases h with h | h
  · exact isChain_of_mem_directed valid h
  · exact isChain_of_mem_directed valid h

/-- **Only validated values reach a command line**: for a policy that is built from settings, every
two consecutive arguments of a command are right, whatever is installed, and only the listed ports
are redirected if and only if there are such. -/
theorem validated_of_build {s : Settings} {six : Bool}
    (built : ((Policy.build s six).run #[]).1 = .ok p) :
    (p.redirect = .listed ↔ p.redirectPorts ≠ []) ∧
      ∀ (traceId listing : String) (result : Result),
        ((new p traceId).compile listing).1 = .ok result →
          ∀ c ∈ result.commands, c.args.IsChain (Validated p.family) := by
  have fields := Policy.built_of_gives (Logged.gives_of_run built)
  refine ⟨?_, fun traceId listing result compiled c hc =>
    isChain_of_mem_compile fields.valid compiled hc⟩
  rw [fields.redirect]
  cases p.redirectPorts <;> simp

/-- Settings of every kind of value, with blanks, a range, a token that stands for no port, and a
network of the other family. -/
def mixed : Settings :=
  Settings.defaults.update [(.incomingProxyPort, .text " 4143"), (.outgoingProxyPort, .int 4140),
    (.proxyUid, .text "2102"), (.portsToRedirect, .list [.int 8080, .text "080"]),
    (.inboundPortsToIgnore, .list [.text "25", .text "4190-4199", .text "smtp"]),
    (.subnetsToIgnore, .list [.text " 10.0.0.0/8 ", .text "fe80::/10"])]

/-- The commands for these settings have a group of ports, a port that was written with a zero, a
network and a user, all of them as they may be. -/
theorem validated_of_build_mixed :
    ∃ p result, ((Policy.build mixed false).run #[]).1 = .ok p ∧ p.redirect = .listed ∧
      ((new p "1700000000").compile "").1 = .ok result ∧
      (∀ c ∈ result.commands, c.args.IsChain (Validated .v4)) ∧
      ∀ a ∈ [["--dports", "25,4190:4199"], ["--destination-port", "80"], ["-s", "10.0.0.0/8"],
        ["--uid-owner", "2102"]], ∃ c ∈ result.commands, a <:+: c.args := by
  let p : Policy :=
    { Policy.sidecar with
      gid := -1, redirectPorts := [8080, 80], subnets := ["10.0.0.0/8"]
      inboundIgnored := ["25", "4190-4199", "smtp"], outboundIgnored := [], proxyLoopback := false
      binary := "iptables-legacy", saveBinary := "iptables-legacy-save" }
  have hbuilt : ((Policy.build mixed false).run #[]).1 = .ok p := rfl
  have hwritable : Numeral.Writable 2102 := ⟨_, rfl⟩
  obtain ⟨result, compiled⟩ := (exists_compile_iff p "1700000000" "").mpr
    ⟨by decide +kernel, fun _ => hwritable, fun h => absurd h (by decide)⟩
  obtain ⟨hlisted, hvalidated⟩ := validated_of_build hbuilt
  refine ⟨p, result, hbuilt, hlisted.mpr (by decide), compiled, hvalidated _ _ _ compiled, ?_⟩
  obtain ⟨-, rfl⟩ := (compile_eq_ok_iff p "1700000000").mp compiled
  decide +kernel

end Compiler

end PodRedirect
