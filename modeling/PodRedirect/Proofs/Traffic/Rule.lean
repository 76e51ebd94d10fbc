import PodRedirect.Proofs.Compilation
import PodRedirect.Proofs.Traffic

/-!
# What the rules of a redirection do

Each form of rule has one condition and one effect. The rules of a policy for a direction are those
of the commands that fill its chain.

## Main definitions

* `Command.spec`: the rule that a command appends

## Main results

* `Packet.effect_ignorePorts` and its like: the effect of each form of rule
* `Compiler.rules_eq_map_spec`: the rules of a policy are those of its commands
* `Compiler.evaluates_ignorePorts`: what the rules about tokens do
-/

namespace PodRedirect

open Rule (natTable)
open Text (integer?_toString)

/-- The rule that a command appends: its arguments after the table and the chain. -/
def Command.spec (c : Command) : Spec := c.args.drop 4

@[simp] theorem spec_append (traceId table chain : String) (s : Spec) (tag : String) :
    (Rule.append traceId table chain s tag).spec = s ++ Command.commentArgs tag traceId := rfl

/-! ## Effects -/

namespace Packet

variable (pkt : Packet) (traceId chain tag : String)

/-- The packet comes from the network that the text writes, if it writes one. -/
def comesFrom (subnet : String) : Bool :=
  match Net.Network.parse? subnet with
  | some n => n.holds pkt.family pkt.source
  | none => false

/-- The comment of a rule makes no difference to what it does. -/
theorem effect_append {s : Spec} {as : List Argument} (h : s.arguments? = some as) :
    pkt.effect (s ++ Command.commentArgs tag traceId) =
      if as.all pkt.meets then .ofArguments as else .pass := by
  let bs : List Argument :=
    [⟨false, "-m", "comment"⟩, ⟨false, "--comment", Command.comment tag traceId⟩]
  have hcomment : Spec.arguments? (Command.commentArgs tag traceId) = some bs := rfl
  -- the comment is no condition, and names neither a target nor a port
  have hmeets : bs.all pkt.meets = true := rfl
  have hvalue : ∀ name ∈ ["-j", "--to-port"],
      Argument.value? name (as ++ bs) = Argument.value? name as := by
    intro name hname
    have hnone : bs.find? (fun a => a.name = name) = none := by
      simp only [List.mem_cons, List.not_mem_nil, or_false] at hname
      rcases hname with rfl | rfl <;> rfl
    rw [Argument.value?, List.find?_append, hnone, Option.or_none, Argument.value?]
  rw [effect, Spec.arguments?_append h hcomment]
  simp only [List.all_append, hmeets, Bool.and_true, Effect.ofArguments]
  rw [hvalue "-j" (by simp), hvalue "--to-port" (by simp)]

theorem effect_ignoreUser (uid : Int) :
    pkt.effect (Rule.ignoreUser traceId chain uid tag).spec =
      if owns pkt.user uid then .leave else .pass := by
  have harguments : Spec.arguments?
      ["-m", "owner", "--uid-owner", toString uid, "-j", "RETURN"] =
        some [⟨false, "-m", "owner"⟩, ⟨false, "--uid-owner", toString uid⟩,
          ⟨false, "-j", "RETURN"⟩] := rfl
  rw [Rule.ignoreUser, spec_append, effect_append pkt traceId tag harguments,
    Effect.ofArguments_return rfl]
  simp [meets]

theorem effect_ignoreGroup (gid : Int) :
    pkt.effect (Rule.ignoreGroup traceId chain gid tag).spec =
      if owns pkt.group gid then .leave else .pass := by
  have harguments : Spec.arguments?
      ["-m", "owner", "--gid-owner", toString gid, "-j", "RETURN"] =
        some [⟨false, "-m", "owner"⟩, ⟨false, "--gid-owner", toString gid⟩,
          ⟨false, "-j", "RETURN"⟩] := rfl
  rw [Rule.ignoreGroup, spec_append, effect_append pkt traceId tag harguments,
    Effect.ofArguments_return rfl]
  simp [meets]

theorem effect_ignoreLoopback :
    pkt.effect (Rule.ignoreLoopback traceId chain tag).spec =
      if pkt.interface = "lo" then .leave else .pass := by
  have harguments : Spec.arguments? ["-o", "lo", "-j", "RETURN"] =
      some [⟨false, "-o", "lo"⟩, ⟨false, "-j", "RETURN"⟩] := rfl
  rw [Rule.ignoreLoopback, spec_append, effect_append pkt traceId tag harguments,
    Effect.ofArguments_return rfl]
  simp [meets]

theorem effect_ignorePorts {rs : List PortRange} (hne : rs ≠ []) :
    pkt.effect (Rule.ignorePorts traceId chain (rs.map PortRange.destination) tag).spec =
      if pkt.protocol = "tcp" && rs.any (·.contains pkt.port) then .leave else .pass := by
  have harguments : Spec.arguments? ["-p", "tcp", "--match", "multiport", "--dports",
      ",".intercalate (rs.map PortRange.destination), "-j", "RETURN"] =
        some [⟨false, "-p", "tcp"⟩, ⟨false, "--match", "multiport"⟩,
          ⟨false, "--dports", ",".intercalate (rs.map PortRange.destination)⟩,
          ⟨false, "-j", "RETURN"⟩] := rfl
  rw [Rule.ignorePorts, spec_append, effect_append pkt traceId tag harguments,
    Effect.ofArguments_return rfl]
  simp [meets, Port.destinations?_intercalate hne]

theorem effect_ignoreSubnet (subnet : String) :
    pkt.effect (Rule.ignoreSubnet traceId chain subnet tag).spec =
      if pkt.comesFrom subnet then .leave else .pass := by
  have harguments : Spec.arguments? ["-p", "all", "-j", "RETURN", "-s", subnet] =
      some [⟨false, "-p", "all"⟩, ⟨false, "-j", "RETURN"⟩, ⟨false, "-s", subnet⟩] := rfl
  rw [Rule.ignoreSubnet, spec_append, effect_append pkt traceId tag harguments,
    Effect.ofArguments_return rfl, comesFrom]
  cases hn : Net.Network.parse? subnet <;> simp [meets, hn]

theorem effect_redirectAll (port : Int) :
    pkt.effect (Rule.redirectAll traceId chain port tag).spec =
      if pkt.protocol = "tcp" then .redirect port else .pass := by
  have harguments : Spec.arguments? ["-p", "tcp", "-j", "REDIRECT", "--to-port", toString port] =
      some [⟨false, "-p", "tcp"⟩, ⟨false, "-j", "REDIRECT"⟩,
        ⟨false, "--to-port", toString port⟩] := rfl
  rw [Rule.redirectAll, spec_append, effect_append pkt traceId tag harguments,
    Effect.ofArguments_redirect rfl rfl (integer?_toString port)]
  simp [meets]

theorem effect_redirectPort (destination port : Int) :
    pkt.effect (Rule.redirectPort traceId chain destination port tag).spec =
      if pkt.protocol = "tcp" && (pkt.port : Int) = destination then .redirect port else .pass := by
  have harguments : Spec.arguments? ["-p", "tcp", "--destination-port", toString destination, "-j",
      "REDIRECT", "--to-port", toString port] =
        some [⟨false, "-p", "tcp"⟩, ⟨false, "--destination-port", toString destination⟩,
          ⟨false, "-j", "REDIRECT"⟩, ⟨false, "--to-port", toString port⟩] := rfl
  rw [Rule.redirectPort, spec_append, effect_append pkt traceId tag harguments,
    Effect.ofArguments_redirect rfl rfl (integer?_toString port)]
  simp [meets]

/-- The rule for the proxy's own traffic applies to what leaves through the loopback interface but
is not for the loopback network. -/
theorem effect_redirectLoopback {network : String} (uid : Int) {n : Net.Network}
    (hn : Net.Network.parse? network = some n) :
    pkt.effect (Rule.redirectLoopback traceId network chain Rule.redirectChain uid tag).spec =
      if owns pkt.user uid && pkt.interface = "lo" && !n.holds pkt.family pkt.destination then
        .enter Rule.redirectChain
      else .pass := by
  have harguments : Spec.arguments? ["-m", "owner", "--uid-owner", toString uid, "-o", "lo", "!",
      "-d", network, "-j", Rule.redirectChain] =
        some [⟨false, "-m", "owner"⟩, ⟨false, "--uid-owner", toString uid⟩, ⟨false, "-o", "lo"⟩,
          ⟨true, "-d", network⟩, ⟨false, "-j", Rule.redirectChain⟩] := rfl
  have heffect : Effect.ofArguments [⟨false, "-m", "owner"⟩,
      ⟨false, "--uid-owner", toString uid⟩, ⟨false, "-o", "lo"⟩, ⟨true, "-d", network⟩,
      ⟨false, "-j", Rule.redirectChain⟩] = .enter Rule.redirectChain := rfl
  rw [Rule.redirectLoopback, spec_append, effect_append pkt traceId tag harguments, heffect]
  simp [meets, hn, and_assoc]

end Packet

/-! ## The rules of a policy -/

namespace Compiler

variable {p : Policy} {traceId : String} {d : Direction}

theorem appended?_eq_spec_of_fills {c : Command} (h : Fills traceId d c) :
    Table.appended? natTable d.chain c = some c.spec := by
  obtain ⟨s, tag, rfl, -⟩ := h
  simp [Table.appended?]

/-- **The rules of a policy are those of the commands that fill its chains.** -/
theorem rules_eq_map_spec (p : Policy) (traceId : String) (d : Direction) :
    p.rules traceId d = (commands (body p traceId d)).map Command.spec := by
  have hfills : ∀ c ∈ commands (body p traceId d), Fills traceId d c :=
    fun c hc => fills_body p traceId d hc
  rw [Policy.rules, Table.appended]
  -- the argument is for any commands that fill the chain
  generalize commands (body p traceId d) = cs at hfills
  induction cs with
  | nil => rfl
  | cons c cs ih =>
    have hc := appended?_eq_spec_of_fills (hfills c List.mem_cons_self)
    rw [List.filterMap_cons_some hc, List.map_cons,
      ih fun x hx => hfills x (List.mem_cons_of_mem _ hx)]

variable {chains : String → List Spec} {pkt : Packet} {ss : List Spec} {v : Option Int}

/-- **The rules about tokens send back the traffic to the ports of the tokens**, whatever groups the
ports are in. -/
theorem evaluates_ignorePorts {tokens : List String} (h : ∀ token ∈ tokens, Port.Legible token)
    (chain : String) :
    Evaluates chains pkt
        ((commands (ignorePorts traceId chain (Compiler.tokens tokens))).map Command.spec ++ ss) v ↔
      if pkt.protocol = "tcp" ∧ Port.exempts tokens pkt.port then v = none
      else Evaluates chains pkt ss v := by
  let groups := (Port.pack Port.referenceLimit (Port.read (Compiler.tokens tokens)).accepted).filter
    fun g => !g.isEmpty
  let q : List PortRange → Bool := fun g => pkt.protocol = "tcp" && g.any (·.contains pkt.port)
  have heffect : ∀ g ∈ groups, pkt.effect
      (ignoreGroupCommand traceId chain (g.map PortRange.destination)).spec =
        if q g then .leave else .pass := by
    intro g hg
    have hne : g ≠ [] := by simpa using (List.mem_filter.mp hg).2
    exact Packet.effect_ignorePorts pkt traceId chain _ hne
  -- empty groups get no rule, and would apply to no packet
  have hany : groups.any q = true ↔ pkt.protocol = "tcp" ∧ Port.exempts tokens pkt.port = true := by
    have hpack := Port.any_pack ((Port.fault_read_eq_none_iff tokens).mpr h) Port.referenceLimit
      pkt.port
    rw [← hpack, List.any_filter, List.any_eq_true, List.any_eq_true]
    constructor
    · rintro ⟨g, hg, hq⟩
      simp only [q, Bool.and_eq_true, decide_eq_true_eq] at hq
      exact ⟨hq.2.1, g, hg, hq.2.2⟩
    · rintro ⟨hprotocol, g, hg, hport⟩
      refine ⟨g, hg, ?_⟩
      have hne : g.isEmpty = false := by
        cases g with
        | nil => cases hport
        | cons r g => rfl
      simp [q, hne, hprotocol, hport]
  rw [commands_ignorePorts_tokens traceId chain h, List.map_map]
  refine (evaluates_map_leave heffect).trans ?_
  simp only [hany]

end Compiler

end PodRedirect
