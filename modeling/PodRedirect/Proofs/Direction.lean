import PodRedirect.Proofs.Table

/-!
# The two directions of a redirection

A redirection is made of the same parts for inbound and for outbound traffic: a chain of its own, a
jump to it from a chain that packets come through, and the rules in its chain. A compilation makes
or empties the chain, fills it, and adds the jump, first for one direction and then for the other.

## Main definitions

* `Direction`: inbound and outbound, with `Direction.chain`, `Direction.hook` and `Direction.jump`
* `Compiler.body`: the steps that fill the chain of a direction
* `Policy.rules`: the rules that a policy has for a direction
* `Table.appended`: the rules that commands append to a chain

## Main results

* `Compiler.compile_eq_ok_iff`: when a compilation succeeds, and what it gives
* `Compiler.appended_compile`: a compilation appends the rules of the policy to its two chains,
  whatever is installed
-/

namespace PodRedirect

/-- A direction of traffic. -/
inductive Direction where
  | inbound
  | outbound
  deriving DecidableEq, Repr

namespace Direction

/-- The chain that redirects the traffic of a direction. -/
def chain : Direction → String
  | inbound => Rule.redirectChain
  | outbound => Rule.outputChain

/-- The chain that the packets of a direction come through. -/
def hook : Direction → String
  | inbound => Rule.prerouting
  | outbound => Rule.output

/-- The tag of the jump for a direction. -/
def tag : Direction → String
  | inbound => Rule.preroutingTag
  | outbound => Rule.outputTag

/-- The rule that goes on in the chain of a direction. -/
def jump (d : Direction) : Spec := ["-j", d.chain] ++ Command.commentArgs d.tag ""

/-- The command that adds the jump. -/
def link (d : Direction) : Command := Rule.jump d.hook d.chain d.tag

/-- The command that deletes the jump. -/
def unlink (d : Direction) : Command := Rule.deleteJump d.hook d.chain d.tag

@[simp] theorem chain_inj {d e : Direction} : d.chain = e.chain ↔ d = e := by
  cases d <;> cases e <;> decide

@[simp] theorem hook_inj {d e : Direction} : d.hook = e.hook ↔ d = e := by
  cases d <;> cases e <;> decide

@[simp] theorem chain_ne_hook (d e : Direction) : d.chain ≠ e.hook := by
  cases d <;> cases e <;> decide

@[simp] theorem hook_ne_chain (d e : Direction) : d.hook ≠ e.chain := (chain_ne_hook e d).symm

theorem chain_not_builtin (d : Direction) : d.chain ∉ builtinTargets := by
  cases d <;> decide

/-- A name is that of a chain of a redirection, that of one that packets come through, or
neither. -/
theorem name_cases (name : String) :
    (∃ d : Direction, name = d.chain) ∨ (∃ d : Direction, name = d.hook) ∨
      ∀ d : Direction, name ≠ d.chain ∧ name ≠ d.hook := by
  by_cases hchain : ∃ d : Direction, name = d.chain
  · exact Or.inl hchain
  · by_cases hhook : ∃ d : Direction, name = d.hook
    · exact Or.inr (Or.inl hhook)
    · exact Or.inr (Or.inr fun d => ⟨fun h => hchain ⟨d, h⟩, fun h => hhook ⟨d, h⟩⟩)

@[simp] theorem target?_jump (d : Direction) : d.jump.target? = some d.chain := rfl

end Direction

/-- What is installed of the chain of a direction. -/
def Installed.chain (i : Installed) : Direction → Bool
  | .inbound => i.redirectChain
  | .outbound => i.outputChain

/-- What is installed of the jump of a direction. -/
def Installed.jump (i : Installed) : Direction → Bool
  | .inbound => i.inboundJump
  | .outbound => i.outboundJump

/-- What is installed is told by what there is for each direction. -/
theorem Installed.eq_of_forall {i j : Installed} (hchain : ∀ d, i.chain d = j.chain d)
    (hjump : ∀ d, i.jump d = j.jump d) : i = j := by
  cases i
  cases j
  exact (Installed.mk.injEq ..).mpr
    ⟨hchain .inbound, hchain .outbound, hjump .inbound, hjump .outbound⟩

/-! ## The operations that commands name -/

section Operations

variable (d : Direction) (chain traceId tag : String) (s : Spec)

@[simp] theorem operation?_createChain :
    (Rule.createChain chain).operation? = some (Rule.natTable, .create chain) := rfl

@[simp] theorem operation?_flushChain :
    (Rule.flushChain chain).operation? = some (Rule.natTable, .flush chain) := rfl

@[simp] theorem operation?_deleteChain :
    (Rule.deleteChain chain).operation? = some (Rule.natTable, .remove chain) := rfl

@[simp] theorem operation?_link : d.link.operation? = some (Rule.natTable, .append d.hook d.jump) :=
  rfl

@[simp] theorem operation?_unlink :
    d.unlink.operation? = some (Rule.natTable, .delete d.hook d.jump) := rfl

@[simp] theorem operation?_append (table : String) :
    (Rule.append traceId table chain s tag).operation? =
      some (table, .append chain (s ++ Command.commentArgs tag traceId)) := rfl

end Operations

namespace Table

/-- The rule that a command appends to a chain of a table, if it does that. -/
def appended? (table chain : String) (c : Command) : Option Spec :=
  match c.operation? with
  | some (name, .append place s) => if name = table ∧ place = chain then some s else none
  | _ => none

/-- The rules that commands append to a chain of a table, in order. -/
def appended (table chain : String) (cs : List Command) : List Spec :=
  cs.filterMap (appended? table chain)

@[simp] theorem appended_nil (table chain : String) : appended table chain [] = [] := rfl

@[simp] theorem appended_append (table chain : String) (cs ds : List Command) :
    appended table chain (cs ++ ds) = appended table chain cs ++ appended table chain ds :=
  List.filterMap_append

theorem appended_eq_nil {table chain : String} {cs : List Command}
    (h : ∀ c ∈ cs, appended? table chain c = none) : appended table chain cs = [] :=
  List.filterMap_eq_nil_iff.mpr h

end Table

/-! ## The steps for a direction -/

namespace Compiler

variable (p : Policy) (traceId : String) (i : Installed) (d : Direction)

/-- The steps that fill the chain of a direction. -/
def body : Direction → List Step
  | .inbound =>
    ignorePorts traceId Rule.redirectChain (tokens p.inboundIgnored) ++
      ignoreSubnets traceId Rule.redirectChain p.subnets ++
      redirectInbound p traceId Rule.redirectChain
  | .outbound =>
    ignoreProxy p traceId Rule.outputChain ++
      [.emit (Rule.ignoreLoopback traceId Rule.outputChain "ignore-loopback")] ++
      ignorePorts traceId Rule.outputChain (tokens p.outboundIgnored) ++
      [.emit (Rule.redirectAll traceId Rule.outputChain p.outboundPort
        "redirect-all-outgoing-to-proxy-port")]

/-- The rule that drops packets of a direction, if that is asked for. -/
def drop : Direction → Option Command
  | .inbound =>
    if p.dropFin then
      some (Rule.dropFin traceId Rule.input p.inboundPort "drop-inbound-fin-to-proxy-for-testing")
    else none
  | .outbound =>
    if p.dropFin then
      some (Rule.dropFin traceId Rule.output p.outboundPort
        "drop-outbound-fin-to-proxy-for-testing")
    else none

/-- The steps for a direction. -/
def directed : List Step :=
  ensureChain d.chain (i.chain d) ++ body p traceId d ++
    ensureJump d.hook d.chain d.tag (i.jump d) (drop p traceId d)

theorem steps_eq_directed :
    steps p traceId i = directed p traceId i .inbound ++ directed p traceId i .outbound := by
  simp [steps, inbound, outbound, directed, body, drop, Direction.chain, Direction.hook,
    Direction.tag, Installed.chain, Installed.jump, List.append_assoc]

/-! ## What steps come to -/

variable {ss rest : List Step}

@[simp] theorem commands_nil : commands [] = [] := rfl

@[simp] theorem commands_emit (c : Command) : commands (.emit c :: rest) = c :: commands rest := rfl

@[simp] theorem commands_remark (text : String) : commands (.remark text :: rest) = commands rest :=
  rfl

@[simp] theorem commands_stop (f : Numeral.Fault) : commands (.stop f :: rest) = commands rest :=
  rfl

@[simp] theorem commands_append : commands (ss ++ rest) = commands ss ++ commands rest :=
  List.filterMap_append

@[simp] theorem commands_map_emit {α : Type} (f : α → Command) (xs : List α) :
    commands (xs.map fun x => .emit (f x)) = xs.map f := by
  induction xs with
  | nil => rfl
  | cons x xs ih => exact congrArg (f x :: ·) ih

@[simp] theorem commands_map_refuse (rs : List Port.Refusal) : commands (rs.map .refuse) = [] := by
  induction rs with
  | nil => rfl
  | cons r rs ih => exact ih

@[simp] theorem commands_ensureChain (chain : String) (exists_ : Bool) :
    commands (ensureChain chain exists_) =
      [if exists_ then Rule.flushChain chain else Rule.createChain chain] := by
  cases exists_ <;> rfl

@[simp] theorem commands_ensureJump (exists_ : Bool) (drop : Option Command) :
    commands (ensureJump d.hook d.chain d.tag exists_ drop) =
      if exists_ then [] else d.link :: drop.toList := by
  cases exists_ <;> cases drop <;> rfl

@[simp] theorem commands_ignoreSubnets (chain : String) (subnets : List String) :
    commands (ignoreSubnets traceId chain subnets) =
      subnets.map fun s => Rule.ignoreSubnet traceId chain s ("ignore-subnet-" ++ s) :=
  commands_map_emit _ _

/-- The command that leaves the traffic to a group of ports alone. -/
def ignoreGroupCommand (chain : String) (destinations : List String) : Command :=
  Rule.ignorePorts traceId chain destinations ("ignore-port-" ++ ",".intercalate destinations)

theorem commands_ignoreGroup (chain : String) (destinations : List String) :
    commands (ignoreGroup traceId chain destinations) =
      if destinations.isEmpty then [] else [ignoreGroupCommand traceId chain destinations] := by
  cases destinations <;> rfl

/-- Every group of ports that is not empty gets a command. -/
theorem commands_ignorePorts {chain : String} {tokens : List Value} {groups : List (List String)}
    (h : Port.multiport Port.referenceLimit tokens = .ok groups) :
    commands (ignorePorts traceId chain tokens) =
      (groups.filter fun g => !g.isEmpty).map (ignoreGroupCommand traceId chain) := by
  simp only [ignorePorts, h, commands_append, commands_map_refuse, List.nil_append]
  -- from here on, the groups may be any groups
  clear h
  induction groups with
  | nil => rfl
  | cons g groups ih =>
    rw [List.flatMap_cons, commands_append, commands_ignoreGroup, ih]
    cases g <;> simp

theorem commands_ignorePorts_of_error {chain : String} {tokens : List Value} {f : Numeral.Fault}
    (h : Port.multiport Port.referenceLimit tokens = .error f) :
    commands (ignorePorts traceId chain tokens) = [] := by
  simp [ignorePorts, h]

theorem commands_redirectInbound_all {p : Policy} (h : p.redirect = .all) (chain : String) :
    commands (redirectInbound p traceId chain) =
      [Rule.redirectAll traceId chain p.inboundPort "redirect-all-incoming-to-proxy-port"] := by
  simp [redirectInbound, h]

theorem commands_redirectInbound_listed {p : Policy} (h : p.redirect = .listed) (chain : String) :
    commands (redirectInbound p traceId chain) =
      p.redirectPorts.map fun port => Rule.redirectPort traceId chain port p.inboundPort
        ("redirect-port-" ++ toString port ++ "-to-proxy-port") := by
  simp [redirectInbound, h]

/-- The commands about a number are emitted if it can be written. -/
theorem commands_emitFor (number : Int) (cs : List Command) :
    commands (emitFor number cs) = if (Numeral.write number).isOk then cs else [] := by
  unfold emitFor
  cases Numeral.write number with
  | ok text => simpa [Except.isOk, Except.toBool] using commands_map_emit id cs
  | error f => simp [Except.isOk, Except.toBool]

/-- Steps that do not stop are all taken. -/
theorem reached_of_stopped? (h : stopped? ss = none) : reached ss = ss := by
  induction ss with
  | nil => rfl
  | cons s ss ih =>
    cases s with
    | stop f => cases h
    | emit c => exact congrArg _ (ih h)
    | remark text => exact congrArg _ (ih h)
    | refuse r => exact congrArg _ (ih h)

/-- A compilation succeeds if no step stops it, and then gives the commands of all of them. -/
theorem compile_eq_ok_iff {listing : String} {r : Result} :
    ((new p traceId).compile listing).1 = .ok r ↔
      stopped? (steps p traceId (Installed.scan listing)) = none ∧
      r = ⟨commands (steps p traceId (Installed.scan listing)), Installed.scan listing,
        warningsOf (steps p traceId (Installed.scan listing))⟩ := by
  simp only [compile, take, new, reset]
  cases h : stopped? (steps p traceId (Installed.scan listing)) with
  | some f => simp [Except.map]
  | none => simp [Except.map, warn, reached_of_stopped? h, eq_comm]

/-- The commands of a compilation: those of the two directions. -/
theorem commands_compile {listing : String} {r : Result}
    (h : ((new p traceId).compile listing).1 = .ok r) :
    r.commands = commands (directed p traceId (Installed.scan listing) .inbound) ++
      commands (directed p traceId (Installed.scan listing) .outbound) := by
  obtain ⟨-, rfl⟩ := (compile_eq_ok_iff p traceId).mp h
  rw [← commands_append, ← steps_eq_directed]

theorem mem_of_mem_emitFor {number : Int} {cs : List Command} {c : Command}
    (h : c ∈ commands (emitFor number cs)) : c ∈ cs := by
  rw [commands_emitFor] at h
  split at h
  · exact h
  · cases h

/-! ## The rules of a policy -/

/-- The command appends a rule to the chain of a direction. The rule does not go on in another
chain, unless it is outbound and goes on in the chain for inbound traffic. -/
def Fills (traceId : String) (d : Direction) (c : Command) : Prop :=
  ∃ s tag, c = Rule.append traceId Rule.natTable d.chain s tag ∧
    ∀ x ∈ Spec.target? (s ++ Command.commentArgs tag traceId),
      x ∈ builtinTargets ∨ d = .outbound ∧ x = Direction.inbound.chain

theorem Fills.of_target {traceId : String} {d : Direction} {s : Spec} {tag x : String}
    (hx : x ∈ builtinTargets)
    (h : Spec.target? (s ++ Command.commentArgs tag traceId) = some x) :
    Fills traceId d (Rule.append traceId Rule.natTable d.chain s tag) := by
  refine ⟨s, tag, rfl, fun y hy => Or.inl ?_⟩
  rw [h] at hy
  exact Option.some.inj hy ▸ hx

theorem fills_ignorePorts {d : Direction} {tokens : List Value} {c : Command}
    (h : c ∈ commands (ignorePorts traceId d.chain tokens)) : Fills traceId d c := by
  cases hm : Port.multiport Port.referenceLimit tokens with
  | error f =>
    rw [commands_ignorePorts_of_error traceId hm] at h
    cases h
  | ok groups =>
    rw [commands_ignorePorts traceId hm] at h
    obtain ⟨g, -, rfl⟩ := List.mem_map.mp h
    exact Fills.of_target (x := "RETURN") (by decide) rfl

theorem fills_redirectInbound {c : Command}
    (h : c ∈ commands (redirectInbound p traceId Direction.inbound.chain)) :
    Fills traceId .inbound c := by
  cases hr : p.redirect with
  | all =>
    rw [commands_redirectInbound_all traceId hr, List.mem_singleton] at h
    exact h ▸ Fills.of_target (x := "REDIRECT") (by decide) rfl
  | listed =>
    rw [commands_redirectInbound_listed traceId hr] at h
    obtain ⟨port, -, rfl⟩ := List.mem_map.mp h
    exact Fills.of_target (x := "REDIRECT") (by decide) rfl

theorem fills_ignoreProxy {c : Command}
    (h : c ∈ commands (ignoreProxy p traceId Direction.outbound.chain)) :
    Fills traceId .outbound c := by
  simp only [ignoreProxy, commands_append, List.mem_append] at h
  rcases h with h | h <;> split at h
  -- the only rule that goes on in another chain is the one for what the proxy sends to the pod
  · rcases List.mem_append.mp (mem_of_mem_emitFor h) with h | h
    · split at h
      · rw [List.mem_singleton] at h
        exact h ▸ ⟨_, _, rfl, fun x hx => Or.inr ⟨rfl, (Option.some.inj hx).symm⟩⟩
      · cases h
    · rw [List.mem_singleton] at h
      exact h ▸ Fills.of_target (x := "RETURN") (by decide) rfl
  · cases h
  · rw [List.mem_singleton.mp (mem_of_mem_emitFor h)]
    exact Fills.of_target (x := "RETURN") (by decide) rfl
  · cases h

/-- The commands between the one that makes or empties the chain and the jump fill the chain. -/
theorem fills_body {c : Command} (h : c ∈ commands (body p traceId d)) : Fills traceId d c := by
  cases d with
  | inbound =>
    simp only [body, commands_append, List.mem_append] at h
    rcases h with (h | h) | h
    · exact fills_ignorePorts (d := .inbound) traceId h
    · rw [commands_ignoreSubnets] at h
      obtain ⟨subnet, -, rfl⟩ := List.mem_map.mp h
      exact Fills.of_target (x := "RETURN") (by decide) rfl
    · exact fills_redirectInbound p traceId h
  | outbound =>
    simp only [body, commands_append, List.mem_append, commands_emit, commands_nil,
      List.mem_singleton] at h
    rcases h with ((h | rfl) | h) | rfl
    · exact fills_ignoreProxy p traceId h
    · exact Fills.of_target (x := "RETURN") (by decide) rfl
    · exact fills_ignorePorts (d := .outbound) traceId h
    · exact Fills.of_target (x := "REDIRECT") (by decide) rfl

/-- The rule that drops packets is one of the table of filters. -/
theorem operation?_drop {c : Command} (h : c ∈ drop p traceId d) :
    ∃ chain s, c.operation? = some (Rule.filterTable, .append chain s) := by
  cases d with
  | inbound =>
    simp only [drop, Option.mem_def, Option.ite_none_right_eq_some, Option.some.injEq] at h
    obtain ⟨-, rfl⟩ := h
    exact ⟨_, _, rfl⟩
  | outbound =>
    simp only [drop, Option.mem_def, Option.ite_none_right_eq_some, Option.some.injEq] at h
    obtain ⟨-, rfl⟩ := h
    exact ⟨_, _, rfl⟩

end Compiler

/-- The rules that a policy has for a direction. -/
def Policy.rules (p : Policy) (traceId : String) (d : Direction) : List Spec :=
  Table.appended Rule.natTable d.chain (Compiler.commands (Compiler.body p traceId d))

namespace Compiler

open Table (appended? appended_eq_nil)

variable {p : Policy} {traceId : String} {i : Installed} {d e : Direction}

theorem appended?_of_fills {c : Command} (h : Fills traceId d c) {chain : String}
    (hchain : chain ≠ d.chain) : appended? Rule.natTable chain c = none := by
  obtain ⟨s, tag, rfl, -⟩ := h
  simp [appended?, hchain.symm]

theorem appended?_of_drop {c : Command} (h : c ∈ drop p traceId d) (chain : String) :
    appended? Rule.natTable chain c = none := by
  obtain ⟨place, s, hop⟩ := operation?_drop p traceId d h
  simp [appended?, hop, Rule.filterTable, Rule.natTable]

/-- The steps for a direction append its rules to its chain, and nothing to the other chain. -/
theorem appended_directed :
    Table.appended Rule.natTable d.chain (commands (directed p traceId i e)) =
      if e = d then p.rules traceId d else [] := by
  -- what comes before and after the body appends nothing to a chain of a redirection
  have hensure : Table.appended Rule.natTable d.chain
      (commands (ensureChain e.chain (i.chain e))) = [] := by
    refine appended_eq_nil fun c hc => ?_
    rw [commands_ensureChain, List.mem_singleton] at hc
    cases hi : i.chain e <;> simp [hc, hi, appended?]
  have hjump : Table.appended Rule.natTable d.chain
      (commands (ensureJump e.hook e.chain e.tag (i.jump e) (drop p traceId e))) = [] := by
    refine appended_eq_nil fun c hc => ?_
    rw [commands_ensureJump] at hc
    split at hc
    · cases hc
    · rcases List.mem_cons.mp hc with rfl | hc
      · simp [appended?]
      · exact appended?_of_drop (Option.mem_toList.mp hc) _
  rw [directed, commands_append, commands_append, Table.appended_append, Table.appended_append,
    hensure, hjump, List.nil_append, List.append_nil]
  split
  · subst e
    rfl
  · refine appended_eq_nil fun c hc => appended?_of_fills (fills_body p traceId e hc) ?_
    simpa using Ne.symm ‹_›

/-- **A compilation appends the rules of the policy to the two chains**, whatever is installed. -/
theorem appended_compile {listing : String} {r : Result}
    (h : ((new p traceId).compile listing).1 = .ok r) (d : Direction) :
    Table.appended Rule.natTable d.chain r.commands = p.rules traceId d := by
  rw [commands_compile p traceId h, Table.appended_append, appended_directed, appended_directed]
  cases d <;> simp

end Compiler

/-- A policy with rules of every kind, and with a token that stands for no port. -/
def Policy.sidecar : Policy where
  inboundPort := 4143
  outboundPort := 4140
  ipv6 := false
  redirect := .listed
  uid := 2102
  gid := 2103
  redirectPorts := [8080, 8443]
  inboundIgnored := ["4190", "4191-4199"]
  outboundIgnored := ["443", "none"]
  subnets := ["192.168.0.0/16"]
  netns := ""
  simulate := false
  useWaitFlag := false
  continueOnError := false
  binary := "iptables"
  saveBinary := "iptables-save"
  proxyLoopback := true
  dropFin := false

end PodRedirect
