import PodRedirect.Proofs.Traffic.Rule

/-!
# Inbound traffic

The chain for inbound traffic redirects exactly the packets that a policy is for. Ports and networks
that are left alone come first, so that no other choice of a policy redirects their traffic.

## Main definitions

* `Policy.redirectsInbound`: a packet that arrives is redirected
* `Policy.inboundVerdict`: what becomes of it

## Main results

* `Compiler.evaluates_inbound`: what the rules of a policy for inbound traffic do
* `Compiler.inbound_meaning`: so do the rules that a compilation appends
-/

namespace PodRedirect

open Rule (natTable)

namespace Policy

variable (p : Policy) (pkt : Packet)

/-- A packet that arrives is redirected: it is TCP, no token exempts its port, it comes from no
network that is left alone, and all ports are redirected or its port is listed. -/
def redirectsInbound : Bool :=
  pkt.protocol = "tcp" && !Port.exempts p.inboundIgnored pkt.port && !p.subnets.any pkt.comesFrom &&
    (p.redirect = .all || (pkt.port : Int) ∈ p.redirectPorts)

/-- What becomes of a packet that arrives. -/
def inboundVerdict : Option Int := if p.redirectsInbound pkt then some p.inboundPort else none

end Policy

namespace Compiler

variable {p : Policy} {traceId : String} {chains : String → List Spec} {pkt : Packet}
  {ss : List Spec} {v : Option Int}

/-- The rules about networks send back the traffic from them. -/
theorem evaluates_ignoreSubnets (chain : String) (subnets : List String) :
    Evaluates chains pkt
        ((commands (ignoreSubnets traceId chain subnets)).map Command.spec ++ ss) v ↔
      if subnets.any pkt.comesFrom then v = none else Evaluates chains pkt ss v := by
  rw [commands_ignoreSubnets, List.map_map]
  exact evaluates_map_leave fun subnet _ => Packet.effect_ignoreSubnet pkt traceId chain _ subnet

/-- The rules that redirect inbound traffic redirect all of it, or that to the listed ports. -/
theorem evaluates_redirectInbound (chain : String) :
    Evaluates chains pkt ((commands (redirectInbound p traceId chain)).map Command.spec) v ↔
      v = if pkt.protocol = "tcp" && (p.redirect = .all || (pkt.port : Int) ∈ p.redirectPorts) then
        some p.inboundPort
      else none := by
  cases hr : p.redirect with
  | all =>
    rw [commands_redirectInbound_all traceId hr, List.map_singleton, evaluates_cons,
      Packet.effect_redirectAll]
    by_cases htcp : pkt.protocol = "tcp" <;> simp [htcp]
  | listed =>
    rw [commands_redirectInbound_listed traceId hr, List.map_map]
    refine (evaluates_map_redirect fun port _ =>
      Packet.effect_redirectPort pkt traceId chain _ port p.inboundPort).trans ?_
    by_cases htcp : pkt.protocol = "tcp" <;> simp [htcp, List.any_eq_true]

/-- **The rules of a policy for inbound traffic redirect exactly what the policy is for.** -/
theorem evaluates_inbound (legible : ∀ token ∈ p.inboundIgnored, Port.Legible token) :
    Evaluates chains pkt (p.rules traceId .inbound) v ↔ v = p.inboundVerdict pkt := by
  rw [rules_eq_map_spec, body, commands_append, commands_append, List.map_append, List.map_append,
    List.append_assoc, evaluates_ignorePorts legible, evaluates_ignoreSubnets,
    evaluates_redirectInbound, Policy.inboundVerdict, Policy.redirectsInbound]
  -- the rules decide in their order: ports, then networks, then what is redirected
  by_cases htcp : pkt.protocol = "tcp"
  · by_cases hport : Port.exempts p.inboundIgnored pkt.port = true
    · simp [htcp, hport]
    · by_cases hsubnet : p.subnets.any pkt.comesFrom = true <;> simp [htcp, hport, hsubnet]
  · simp [htcp]

/-- **A compilation appends rules for inbound traffic that redirect exactly what the policy is
for**, to the inbound port of the proxy. With tokens that are ranges or refused, it succeeds
as long as the numbers of the user and the group of the proxy can be written. -/
theorem inbound_meaning (p : Policy) (traceId listing : String)
    (legible : ∀ token ∈ p.inboundIgnored ++ p.outboundIgnored, Port.Legible token) :
    ((0 < p.uid → Numeral.Writable p.uid) ∧ (0 < p.gid → Numeral.Writable p.gid) →
      ∃ r, ((new p traceId).compile listing).1 = .ok r) ∧
    ∀ r, ((new p traceId).compile listing).1 = .ok r →
      ∀ (chains : String → List Spec) (pkt : Packet) (v : Option Int),
        Evaluates chains pkt (Table.appended natTable Rule.redirectChain r.commands) v ↔
          v = if p.redirectsInbound pkt then some p.inboundPort else none := by
  refine ⟨fun hw => (exists_compile_iff p traceId listing).mpr ⟨legible, hw⟩, ?_⟩
  intro r compiled chains pkt v
  have happended : Table.appended natTable Rule.redirectChain r.commands =
      p.rules traceId .inbound := appended_compile compiled .inbound
  rw [happended]
  exact evaluates_inbound fun token htoken => legible token (List.mem_append_left _ htoken)

/-- A packet to a port that is listed. -/
theorem inbound_meaning_sidecar :
    (∀ token ∈ Policy.sidecar.inboundIgnored ++ Policy.sidecar.outboundIgnored,
      Port.Legible token) ∧
    ∃ r, ((new Policy.sidecar "1700000000").compile "").1 = .ok r ∧
      Evaluates (fun _ => []) ⟨"tcp", .v4, 0x0a000001, 0x0a000002, 8080, "eth0", none, none⟩
        (Table.appended natTable Rule.redirectChain r.commands) (some 4143) := by
  have legible : ∀ token ∈ Policy.sidecar.inboundIgnored ++ Policy.sidecar.outboundIgnored,
      Port.Legible token := by decide +kernel
  have hmeaning := inbound_meaning Policy.sidecar "1700000000" "" legible
  obtain ⟨r, compiled⟩ := hmeaning.1 ⟨fun _ => ⟨_, rfl⟩, fun _ => ⟨_, rfl⟩⟩
  exact ⟨legible, r, compiled, (hmeaning.2 r compiled _ _ _).mpr (by decide +kernel)⟩

end Compiler

end PodRedirect
