import PodRedirect.Proofs.Traffic.Inbound

/-!
# Outbound traffic

The chain for outbound traffic leaves the proxy's own traffic alone, so that nothing that the proxy
sends is sent back to it, but for what it sends to the pod through the pod's own address: that is
treated as if it arrived. Of all other traffic, it redirects TCP that leaves the host and is for no
port that a token exempts.

## Main definitions

* `Policy.loopback`: the network of the host itself
* `Policy.outboundVerdict`: what becomes of a packet that is sent

## Main results

* `Compiler.evaluates_ignoreProxy`: what the rules about the proxy do
* `Compiler.evaluates_outbound`: what the rules of a policy for outbound traffic do
* `Compiler.outbound_meaning`: so do the rules that a compilation appends
-/

namespace PodRedirect

open Rule (natTable)

namespace Policy

variable (p : Policy) (pkt : Packet)

/-- The network of the host itself: one address. -/
def loopback : Net.Network := if p.ipv6 then ⟨.v6, 1, 128⟩ else ⟨.v4, 0x7f000001, 32⟩

theorem parse?_loopbackNetwork : Net.Network.parse? p.loopbackNetwork = some p.loopback := by
  unfold loopbackNetwork loopback
  cases p.ipv6 <;> decide

/-- The packet goes to the pod through an address that is not the host's own. -/
def returnsToPod : Bool :=
  pkt.interface = "lo" && !p.loopback.holds pkt.family pkt.destination

/-- What becomes of a packet that is sent. -/
def outboundVerdict : Option Int :=
  if 0 < p.uid ∧ owns pkt.user p.uid then
    if p.proxyLoopback ∧ p.returnsToPod pkt then p.inboundVerdict pkt else none
  else if 0 < p.gid ∧ owns pkt.group p.gid then none
  else if pkt.interface = "lo" then none
  else if pkt.protocol = "tcp" ∧ Port.exempts p.outboundIgnored pkt.port = false then
    some p.outboundPort
  else none

end Policy

namespace Compiler

variable {p : Policy} {traceId : String} {chains : String → List Spec} {pkt : Packet}
  {ss : List Spec} {v : Option Int}

theorem commands_emitFor_of_writable {number : Int} (h : Numeral.Writable number)
    (cs : List Command) : commands (emitFor number cs) = cs := by
  obtain ⟨text, htext⟩ := h
  rw [commands_emitFor, htext]
  rfl

/-- The rules about the user of the proxy. What the proxy sends meets the rules for inbound traffic
first, if that is asked for. -/
theorem evaluates_ignoreUser {chain : String} (uid : Int)
    (inner : ∀ w, Evaluates chains pkt (chains Rule.redirectChain) w ↔ w = p.inboundVerdict pkt) :
    Evaluates chains pkt
        (((if p.proxyLoopback then
            [Rule.redirectLoopback traceId p.loopbackNetwork chain Rule.redirectChain uid
              "redirect-non-loopback-local-traffic"]
          else []) ++ [Rule.ignoreUser traceId chain uid "ignore-proxy-user-id"]).map
            Command.spec ++ ss) v ↔
      if owns pkt.user uid then
        v = if p.proxyLoopback ∧ p.returnsToPod pkt then p.inboundVerdict pkt else none
      else Evaluates chains pkt ss v := by
  have hignore : Evaluates chains pkt
      ((Rule.ignoreUser traceId chain uid "ignore-proxy-user-id").spec :: ss) v ↔
        if owns pkt.user uid then v = none else Evaluates chains pkt ss v := by
    rw [evaluates_cons, Packet.effect_ignoreUser]
    cases owns pkt.user uid <;> simp
  have heffect : pkt.effect (Rule.redirectLoopback traceId p.loopbackNetwork chain
      Rule.redirectChain uid "redirect-non-loopback-local-traffic").spec =
        if owns pkt.user uid && p.returnsToPod pkt then .enter Rule.redirectChain else .pass := by
    rw [Packet.effect_redirectLoopback pkt traceId chain _ uid p.parse?_loopbackNetwork,
      Bool.and_assoc]
    rfl
  cases hloopback : p.proxyLoopback with
  | false => simpa using hignore
  | true =>
    rw [if_pos rfl, List.map_append, List.map_singleton, List.map_singleton, List.append_assoc,
      List.singleton_append, List.singleton_append]
    cases howns : owns pkt.user uid with
    | false =>
      rw [howns, Bool.false_and, if_neg Bool.false_ne_true] at heffect
      rw [evaluates_cons, heffect]
      simpa [howns] using hignore
    | true =>
      rw [howns, Bool.true_and] at heffect
      rw [howns, if_pos rfl] at hignore
      cases hreturns : p.returnsToPod pkt with
      | false =>
        rw [hreturns, if_neg Bool.false_ne_true] at heffect
        rw [evaluates_cons, heffect]
        simpa using hignore
      | true =>
        -- what the inbound chain does not redirect comes back, and is then left alone
        rw [hreturns, if_pos rfl] at heffect
        rw [evaluates_enter heffect inner, hignore]
        cases p.inboundVerdict pkt <;> simp

/-- The rules about the proxy decide what becomes of its own traffic. -/
theorem evaluates_ignoreProxy {chain : String} (uid : 0 < p.uid → Numeral.Writable p.uid)
    (gid : 0 < p.gid → Numeral.Writable p.gid)
    (inner : ∀ w, Evaluates chains pkt (chains Rule.redirectChain) w ↔ w = p.inboundVerdict pkt) :
    Evaluates chains pkt
        ((commands (ignoreProxy p traceId chain)).map Command.spec ++ ss) v ↔
      if 0 < p.uid ∧ owns pkt.user p.uid then
        v = if p.proxyLoopback ∧ p.returnsToPod pkt then p.inboundVerdict pkt else none
      else if 0 < p.gid ∧ owns pkt.group p.gid then v = none
      else Evaluates chains pkt ss v := by
  have hgroup : Evaluates chains pkt ((commands (if 0 < p.gid then
      emitFor p.gid [Rule.ignoreGroup traceId chain p.gid "ignore-proxy-group-id"]
    else [])).map Command.spec ++ ss) v ↔
      if 0 < p.gid ∧ owns pkt.group p.gid then v = none else Evaluates chains pkt ss v := by
    by_cases h : 0 < p.gid
    · rw [if_pos h, commands_emitFor_of_writable (gid h), List.map_singleton,
        List.singleton_append, evaluates_cons, Packet.effect_ignoreGroup]
      cases owns pkt.group p.gid <;> simp [h]
    · simp [h]
  rw [ignoreProxy, commands_append, List.map_append, List.append_assoc]
  -- without a user, only the rule about the group is there
  by_cases h : 0 < p.uid
  · rw [if_pos h, commands_emitFor_of_writable (uid h), evaluates_ignoreUser p.uid inner, hgroup]
    simp [h]
  · rw [if_neg h, commands_nil, List.map_nil, List.nil_append, hgroup]
    simp [h]

/-- The rules after those about the proxy redirect the TCP that leaves the host, unless a token
exempts its port. -/
theorem evaluates_leaving {chain : String}
    (legible : ∀ token ∈ p.outboundIgnored, Port.Legible token) :
    Evaluates chains pkt ((Rule.ignoreLoopback traceId chain "ignore-loopback").spec ::
        ((commands (ignorePorts traceId chain (tokens p.outboundIgnored))).map Command.spec ++
          [(Rule.redirectAll traceId chain p.outboundPort
            "redirect-all-outgoing-to-proxy-port").spec])) v ↔
      v = if pkt.interface = "lo" then none
        else if pkt.protocol = "tcp" ∧ Port.exempts p.outboundIgnored pkt.port = false then
          some p.outboundPort
        else none := by
  rw [evaluates_cons, Packet.effect_ignoreLoopback]
  by_cases hinterface : pkt.interface = "lo"
  · rw [if_pos hinterface, if_pos hinterface]
  · rw [if_neg hinterface, if_neg hinterface, evaluates_ignorePorts legible]
    by_cases htcp : pkt.protocol = "tcp"
    · cases hport : Port.exempts p.outboundIgnored pkt.port with
      | true => simp [htcp]
      | false => simp [htcp, evaluates_cons, Packet.effect_redirectAll]
    · simp [htcp, evaluates_cons, Packet.effect_redirectAll]

/-- **The rules of a policy for outbound traffic do exactly what the policy says**, where the chain
for inbound traffic has its rules for that. -/
theorem evaluates_outbound (legible : ∀ token ∈ p.inboundIgnored ++ p.outboundIgnored,
      Port.Legible token)
    (uid : 0 < p.uid → Numeral.Writable p.uid) (gid : 0 < p.gid → Numeral.Writable p.gid)
    (hchains : chains Rule.redirectChain = p.rules traceId .inbound) :
    Evaluates chains pkt (p.rules traceId .outbound) v ↔ v = p.outboundVerdict pkt := by
  have inner : ∀ w, Evaluates chains pkt (chains Rule.redirectChain) w ↔
      w = p.inboundVerdict pkt := by
    intro w
    rw [hchains]
    exact evaluates_inbound fun token htoken => legible token (List.mem_append_left _ htoken)
  have hignored : ∀ token ∈ p.outboundIgnored, Port.Legible token := fun token htoken =>
    legible token (List.mem_append_right _ htoken)
  rw [rules_eq_map_spec, body]
  -- the proxy's own traffic is decided on before anything is redirected
  simp only [commands_append, commands_emit, commands_nil, List.map_append, List.map_cons,
    List.map_nil, List.append_assoc, List.singleton_append]
  rw [evaluates_ignoreProxy uid gid inner, List.cons_append, evaluates_leaving hignored,
    Policy.outboundVerdict]
  split
  · rfl
  · split
    · rfl
    · rfl

/-- **A compilation appends rules for outbound traffic that do exactly what the policy says**, and
that send nothing of the proxy's own traffic back to it, but for what its rules for inbound traffic
redirect. With tokens that are ranges or refused, it succeeds as long as the numbers of the user and
the group of the proxy can be written. -/
theorem outbound_meaning (p : Policy) (traceId listing : String)
    (legible : ∀ token ∈ p.inboundIgnored ++ p.outboundIgnored, Port.Legible token) :
    ((0 < p.uid → Numeral.Writable p.uid) ∧ (0 < p.gid → Numeral.Writable p.gid) →
      ∃ r, ((new p traceId).compile listing).1 = .ok r) ∧
    ∀ r, ((new p traceId).compile listing).1 = .ok r → ∀ (pkt : Packet) (v : Option Int),
      Evaluates (fun chain => Table.appended natTable chain r.commands) pkt
          (Table.appended natTable Rule.outputChain r.commands) v ↔
        v = p.outboundVerdict pkt := by
  refine ⟨fun hw => (exists_compile_iff p traceId listing).mpr ⟨legible, hw⟩, ?_⟩
  intro r compiled pkt v
  obtain ⟨-, uid, gid⟩ := (exists_compile_iff p traceId listing).mp ⟨r, compiled⟩
  have hinbound : Table.appended natTable Rule.redirectChain r.commands =
      p.rules traceId .inbound := appended_compile compiled .inbound
  have houtbound : Table.appended natTable Rule.outputChain r.commands =
      p.rules traceId .outbound := appended_compile compiled .outbound
  rw [houtbound]
  exact evaluates_outbound legible uid gid hinbound

/-- What the proxy sends to the pod through the pod's own address, to a port that is listed. -/
theorem outbound_meaning_sidecar :
    (∀ token ∈ Policy.sidecar.inboundIgnored ++ Policy.sidecar.outboundIgnored,
      Port.Legible token) ∧
    ∃ r, ((new Policy.sidecar "1700000000").compile "").1 = .ok r ∧
      Evaluates (fun chain => Table.appended natTable chain r.commands)
        ⟨"tcp", .v4, 0x0a000001, 0x0a000001, 8080, "lo", some 2102, none⟩
        (Table.appended natTable Rule.outputChain r.commands) (some 4143) := by
  have legible : ∀ token ∈ Policy.sidecar.inboundIgnored ++ Policy.sidecar.outboundIgnored,
      Port.Legible token := by decide +kernel
  have hmeaning := outbound_meaning Policy.sidecar "1700000000" "" legible
  obtain ⟨r, compiled⟩ := hmeaning.1 ⟨fun _ => ⟨_, rfl⟩, fun _ => ⟨_, rfl⟩⟩
  exact ⟨legible, r, compiled, (hmeaning.2 r compiled _ _).mpr (by decide +kernel)⟩

end Compiler

end PodRedirect
