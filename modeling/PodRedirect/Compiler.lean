import PodRedirect.Installed
import PodRedirect.Log
import PodRedirect.Policy
import PodRedirect.Port.Group

/-!
# From policies to commands

A policy and what is installed already determine a list of steps: commands, remarks for the log, and
tokens that are refused. Chains that exist are emptied and not made, and jumps that exist are not
added again, so that the same policy may be compiled any number of times.

A chain is filled before the jump to it is added, so that no traffic meets a chain half full.

## Main definitions

* `Compiler.Step`: a step of a compilation
* `Compiler.inbound`, `Compiler.outbound`: the steps for the two directions
* `Compiler`: a compiler with the warnings it has given
* `Compiler.compile`, `Compiler.teardown`: the commands that install a policy, or remove any
-/

namespace PodRedirect

/-- A compiler for a policy and a run. It keeps the warnings given since it was last reset, and
whether there was one. -/
structure Compiler where
  policy : Policy
  traceId : String
  flagged : Bool
  warnings : List String
  deriving Repr

namespace Compiler

/-- A compiler that has given no warning. -/
def new (policy : Policy) (traceId : String) : Compiler := ⟨policy, traceId, false, []⟩

/-- A step of a compilation. -/
inductive Step where
  | emit (c : Command)
  | remark (text : String)
  | refuse (r : Port.Refusal)
  | stop (f : Numeral.Fault)
  deriving Repr

/-! ## The steps of a compilation -/

/-- Makes a chain, or empties it if it exists. -/
def ensureChain (chain : String) (exists_ : Bool) : List Step :=
  if exists_ then
    [.remark ("chain " ++ chain ++ " already exists; flushing it"), .emit (Rule.flushChain chain)]
  else [.emit (Rule.createChain chain)]

/-- Leaves the traffic to a group of ports alone. -/
def ignoreGroup (traceId chain : String) (destinations : List String) : List Step :=
  if destinations.isEmpty then []
  else
    let joined := ",".intercalate destinations
    [.remark ("will ignore port(s) " ++ joined ++ " on chain " ++ chain),
      .emit (Rule.ignorePorts traceId chain destinations ("ignore-port-" ++ joined))]

/-- Leaves the traffic to the ports that tokens stand for alone. Tokens that stand for none are
refused. -/
def ignorePorts (traceId chain : String) (tokens : List Value) : List Step :=
  (Port.read tokens).refused.map .refuse ++
    match Port.multiport Port.referenceLimit tokens with
    | .error f => [.stop f]
    | .ok groups => groups.flatMap (ignoreGroup traceId chain)

/-- Leaves the traffic from networks alone. -/
def ignoreSubnets (traceId chain : String) (subnets : List String) : List Step :=
  subnets.map fun s => .emit (Rule.ignoreSubnet traceId chain s ("ignore-subnet-" ++ s))

/-- Redirects inbound traffic to the port of the proxy. -/
def redirectInbound (p : Policy) (traceId chain : String) : List Step :=
  match p.redirect with
  | .all =>
    [.remark ("will redirect all inbound ports to " ++ toString p.inboundPort),
      .emit (Rule.redirectAll traceId chain p.inboundPort "redirect-all-incoming-to-proxy-port")]
  | .listed =>
    .remark ("will redirect inbound ports [" ++
        ", ".intercalate (p.redirectPorts.map toString) ++ "] to " ++ toString p.inboundPort) ::
      p.redirectPorts.map fun port =>
        .emit (Rule.redirectPort traceId chain port p.inboundPort
          ("redirect-port-" ++ toString port ++ "-to-proxy-port"))

/-- Adds a jump unless it exists, and with it the rule that drops packets if that is asked for. -/
def ensureJump (chain target tag : String) (exists_ : Bool) (drop : Option Command) : List Step :=
  if exists_ then
    [.remark ("jump from " ++ chain ++ " to " ++ target ++ " already installed")]
  else .emit (Rule.jump chain target tag) :: (drop.map Step.emit).toList

/-- The texts that stand for ports in a policy. -/
def tokens (texts : List String) : List Value := texts.map .text

/-- The steps for inbound traffic. -/
def inbound (p : Policy) (traceId : String) (i : Installed) : List Step :=
  let chain := Rule.redirectChain
  ensureChain chain i.redirectChain ++
    ignorePorts traceId chain (tokens p.inboundIgnored) ++
    ignoreSubnets traceId chain p.subnets ++
    redirectInbound p traceId chain ++
    ensureJump Rule.prerouting chain Rule.preroutingTag i.inboundJump
      (if p.dropFin then
        some (Rule.dropFin traceId Rule.input p.inboundPort
          "drop-inbound-fin-to-proxy-for-testing")
      else none)

/-- Adds rules about the user or group with the given number, unless that cannot be written. -/
def emitFor (number : Int) (cs : List Command) : List Step :=
  match Numeral.write number with
  | .ok _ => cs.map .emit
  | .error f => [.stop f]

/-- Leaves the proxy's own traffic alone. -/
def ignoreProxy (p : Policy) (traceId chain : String) : List Step :=
  (if 0 < p.uid then
    emitFor p.uid
      ((if p.proxyLoopback then
        [Rule.redirectLoopback traceId p.loopbackNetwork chain Rule.redirectChain p.uid
          "redirect-non-loopback-local-traffic"]
      else []) ++ [Rule.ignoreUser traceId chain p.uid "ignore-proxy-user-id"])
  else []) ++
  if 0 < p.gid then
    emitFor p.gid [Rule.ignoreGroup traceId chain p.gid "ignore-proxy-group-id"]
  else []

/-- The steps for outbound traffic. -/
def outbound (p : Policy) (traceId : String) (i : Installed) : List Step :=
  let chain := Rule.outputChain
  ensureChain chain i.outputChain ++
    ignoreProxy p traceId chain ++
    [.emit (Rule.ignoreLoopback traceId chain "ignore-loopback")] ++
    ignorePorts traceId chain (tokens p.outboundIgnored) ++
    [.emit (Rule.redirectAll traceId chain p.outboundPort
      "redirect-all-outgoing-to-proxy-port")] ++
    ensureJump Rule.output chain Rule.outputTag i.outboundJump
      (if p.dropFin then
        some (Rule.dropFin traceId Rule.output p.outboundPort
          "drop-outbound-fin-to-proxy-for-testing")
      else none)

/-- The steps that bring what is installed to what the policy says. -/
def steps (p : Policy) (traceId : String) (i : Installed) : List Step :=
  inbound p traceId i ++ outbound p traceId i

/-! ## What steps come to -/

/-- The steps before the one at which the compilation stops. -/
def reached : List Step → List Step
  | [] => []
  | .stop _ :: _ => []
  | s :: rest => s :: reached rest

/-- Why the compilation stops, if it does. -/
def stopped? : List Step → Option Numeral.Fault
  | [] => none
  | .stop f :: _ => some f
  | _ :: rest => stopped? rest

/-- The commands among steps. -/
def commands (ss : List Step) : List Command :=
  ss.filterMap fun
    | .emit c => some c
    | _ => none

/-- The warnings among steps. -/
def warningsOf (ss : List Step) : List String :=
  ss.filterMap fun
    | .refuse r => some (r.warning)
    | _ => none

/-- What steps say to the log. -/
def entries (ss : List Step) : List Log.Entry :=
  ss.filterMap fun
    | .remark text => some ⟨.rules, .debug, text⟩
    | .refuse r => some ⟨.compiler, .warning, r.warning⟩
    | _ => none

/-! ## Compilers -/

/-- The compiler without its warnings. -/
def reset (c : Compiler) : Compiler := { c with flagged := false, warnings := [] }

/-- The compiler with further warnings. -/
def warn (c : Compiler) (texts : List String) : Compiler :=
  { c with flagged := c.flagged || !texts.isEmpty, warnings := c.warnings ++ texts }

/-- The compiler with a warning in the given words, and what is said to the log. -/
def warning (c : Compiler) (text : String) : Compiler × Log.Entry :=
  (c.warn [text], ⟨.compiler, .warning, text⟩)

/-- Takes steps: the commands, the compiler with the warnings, and what is said to the log. -/
def take (c : Compiler) (ss : List Step) :
    Except Failure (List Command) × Compiler × List Log.Entry :=
  let ran := reached ss
  (match stopped? ss with
    | some f => .error (.mishap (.numeral f))
    | none => .ok (commands ran),
    c.warn (warningsOf ran), entries ran)

/-- The commands that install a policy, the warnings, and what was installed already. -/
structure Result where
  commands : List Command
  installed : Installed
  warnings : List String
  deriving Repr

/-- The commands that install the policy, given a listing of what is installed; those that were
given before are forgotten. -/
def compile (c : Compiler) (listing : String) :
    Except Failure Result × Compiler × List Log.Entry :=
  let installed := Installed.scan listing
  let (commands, c, said) := c.reset.take (steps c.policy c.traceId installed)
  (commands.map fun commands => ⟨commands, installed, c.warnings⟩, c, said)

/-- The commands that leave the traffic to some ports alone. -/
def ignoredPorts (c : Compiler) (tokens : List Value) (chain : String) :
    Except Failure (List Command) × Compiler × List Log.Entry :=
  c.take (ignorePorts c.traceId chain tokens)

/-- The commands that remove what a redirection has installed: the jumps first, so that no traffic
meets a chain half empty, and then the chains, each after those that jump to it. -/
def teardown : List Command :=
  [Rule.deleteJump Rule.prerouting Rule.redirectChain Rule.preroutingTag,
    Rule.deleteJump Rule.output Rule.outputChain Rule.outputTag,
    Rule.flushChain Rule.outputChain,
    Rule.flushChain Rule.redirectChain,
    Rule.deleteChain Rule.outputChain,
    Rule.deleteChain Rule.redirectChain]

end Compiler

end PodRedirect
