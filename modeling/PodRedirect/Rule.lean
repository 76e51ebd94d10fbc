import PodRedirect.Command

/-!
# Rules

The commands on chains and rules that a redirection consists of. Two chains belong to it: one for
inbound traffic, which the chain of arriving packets jumps to, and one for outbound traffic, which
the chain of locally made packets jumps to.

## Main definitions

* `Rule.redirectChain`, `Rule.outputChain`: the two chains
* `Rule.createChain`, `Rule.flushChain`, `Rule.deleteChain`: commands on chains
* `Rule.jump`: a jump to a chain of the redirection, which carries no trace of a run
* `Rule.append`: a rule at the end of a chain, and the functions that make one of each form
-/

namespace PodRedirect.Rule

/-- The table of address translation. -/
def natTable : String := "nat"

/-- The table of filters. -/
def filterTable : String := "filter"

/-- The chain of arriving packets. -/
def prerouting : String := "PREROUTING"

/-- The chain of locally made packets. -/
def output : String := "OUTPUT"

/-- The chain of packets for the host. -/
def input : String := "INPUT"

/-- The chain that redirects inbound traffic. -/
def redirectChain : String := "PROXY_INIT_REDIRECT"

/-- The chain that redirects outbound traffic. -/
def outputChain : String := "PROXY_INIT_OUTPUT"

/-- The tag of the jump for inbound traffic. -/
def preroutingTag : String := "install-proxy-init-prerouting"

/-- The tag of the jump for outbound traffic. -/
def outputTag : String := "install-proxy-init-output"

/-- Makes a chain. -/
def createChain (chain : String) : Command :=
  ⟨.createChain, ["-t", natTable, "-N", chain], "create-" ++ chain⟩

/-- Removes the rules of a chain. -/
def flushChain (chain : String) : Command :=
  ⟨.flushChain, ["-t", natTable, "-F", chain], "flush-" ++ chain⟩

/-- Removes a chain. -/
def deleteChain (chain : String) : Command :=
  ⟨.deleteChain, ["-t", natTable, "-X", chain], "delete-" ++ chain⟩

/-- What a jump is made of: the rule of a chain that goes on in `target`. -/
def jumpSpec (chain target tag : String) : List String :=
  [chain, "-j", target] ++ Command.commentArgs tag ""

/-- Adds a jump to the end of a chain. -/
def jump (chain target tag : String) : Command :=
  ⟨.append, ["-t", natTable, "-A"] ++ jumpSpec chain target tag, tag⟩

/-- Removes a jump from a chain. -/
def deleteJump (chain target tag : String) : Command :=
  ⟨.deleteRule, ["-t", natTable, "-D"] ++ jumpSpec chain target tag, tag⟩

/-- Adds a rule to the end of a chain: what it matches and what it does, with a comment. -/
def append (traceId table chain : String) (spec : List String) (tag : String) : Command :=
  ⟨.append, ["-t", table, "-A", chain] ++ spec ++ Command.commentArgs tag traceId, tag⟩

/-- Leaves the traffic of a user alone. -/
def ignoreUser (traceId chain : String) (uid : Int) (tag : String) : Command :=
  append traceId natTable chain ["-m", "owner", "--uid-owner", toString uid, "-j", "RETURN"] tag

/-- Leaves the traffic of a group alone. -/
def ignoreGroup (traceId chain : String) (gid : Int) (tag : String) : Command :=
  append traceId natTable chain ["-m", "owner", "--gid-owner", toString gid, "-j", "RETURN"] tag

/-- Leaves traffic inside the host alone. -/
def ignoreLoopback (traceId chain tag : String) : Command :=
  append traceId natTable chain ["-o", "lo", "-j", "RETURN"] tag

/-- Leaves the traffic to a group of ports alone. -/
def ignorePorts (traceId chain : String) (destinations : List String) (tag : String) : Command :=
  append traceId natTable chain
    ["-p", "tcp", "--match", "multiport", "--dports", ",".intercalate destinations, "-j",
      "RETURN"] tag

/-- Leaves the traffic from a network alone. -/
def ignoreSubnet (traceId chain subnet tag : String) : Command :=
  append traceId natTable chain ["-p", "all", "-j", "RETURN", "-s", subnet] tag

/-- Redirects all traffic to a port. -/
def redirectAll (traceId chain : String) (port : Int) (tag : String) : Command :=
  append traceId natTable chain ["-p", "tcp", "-j", "REDIRECT", "--to-port", toString port] tag

/-- Redirects the traffic to one port to another. -/
def redirectPort (traceId chain : String) (destination port : Int) (tag : String) : Command :=
  append traceId natTable chain
    ["-p", "tcp", "--destination-port", toString destination, "-j", "REDIRECT", "--to-port",
      toString port] tag

/-- Sends the traffic of a user inside the host to a chain, unless it is for the host's own
network. -/
def redirectLoopback (traceId network chain target : String) (uid : Int) (tag : String) :
    Command :=
  append traceId natTable chain
    ["-m", "owner", "--uid-owner", toString uid, "-o", "lo", "!", "-d", network, "-j", target] tag

/-- Drops the packets that end connections to a port. -/
def dropFin (traceId chain : String) (port : Int) (tag : String) : Command :=
  append traceId filterTable chain
    ["-p", "tcp", "--dport", toString port, "--tcp-flags", "FIN", "FIN", "-j", "DROP"] tag

end PodRedirect.Rule
