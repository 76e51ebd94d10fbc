import PodRedirect.Net.Network

/-!
# Policies

A policy says how the traffic of a pod is redirected, for one family of addresses, and how the
commands that bring this about are run.

## Main definitions

* `Redirect`: which inbound ports are redirected
* `Policy`: a policy
* `Policy.withBinaries`: a policy with other binaries
-/

namespace PodRedirect

/-- Which inbound ports are redirected: all of them, or those that are listed. -/
inductive Redirect where
  | all
  | listed
  deriving DecidableEq, Repr

/-- The name of a choice of ports. -/
def Redirect.name : Redirect → String
  | .all => "redirect-all"
  | .listed => "redirect-listed"

/-- The choice with the given name; every other name stands for the listed ports. -/
def Redirect.ofName (s : String) : Redirect := if s = Redirect.all.name then .all else .listed

/-- How the traffic of a pod is redirected, for one family of addresses. -/
structure Policy where
  /-- The port of the proxy for inbound traffic. -/
  inboundPort : Int
  /-- The port of the proxy for outbound traffic. -/
  outboundPort : Int
  /-- The policy is for addresses of version 6. -/
  ipv6 : Bool
  redirect : Redirect
  /-- The user the proxy runs as, if positive. -/
  uid : Int
  /-- The group the proxy runs as, if positive. -/
  gid : Int
  /-- The inbound ports that are redirected if these are listed. -/
  redirectPorts : List Int
  inboundIgnored : List String
  outboundIgnored : List String
  /-- The networks whose inbound traffic is left alone. -/
  subnets : List String
  /-- The network namespace that commands run in, if not empty. -/
  netns : String
  simulate : Bool
  useWaitFlag : Bool
  continueOnError : Bool
  /-- The command that changes rules. -/
  binary : String
  /-- The command that lists rules. -/
  saveBinary : String
  /-- The proxy's own traffic to the pod goes through the inbound port of the proxy. -/
  proxyLoopback : Bool
  dropFin : Bool
  deriving DecidableEq, Repr

namespace Policy

/-- The family of addresses. -/
def family (p : Policy) : Net.Family := if p.ipv6 then .v6 else .v4

/-- The name of a family of addresses. -/
def familyName (ipv6 : Bool) : String := if ipv6 then "ipv6" else "ipv4"

/-- The network of the host itself. -/
def loopbackNetwork (p : Policy) : String := if p.ipv6 then "::1/128" else "127.0.0.1/32"

/-- The policy with other binaries. -/
def withBinaries (p : Policy) (binary saveBinary : String) : Policy :=
  { p with binary := binary, saveBinary := saveBinary }

end Policy

end PodRedirect
