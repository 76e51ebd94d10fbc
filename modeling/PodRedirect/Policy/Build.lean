import PodRedirect.Backend
import PodRedirect.Log
import PodRedirect.Policy

/-!
# Policies from settings

Settings are checked and become the policy of one family of addresses. Networks of the other family
are checked too, but left out.

## Main definitions

* `Policy.sanitizeSubnets`: the networks of a family
* `Policy.build`: the policy that settings ask for
-/

namespace PodRedirect

namespace Policy

/-- A port of the proxy. -/
def proxyPort (s : Settings) (key : Setting) : Except Failure Int :=
  match Port.parse (s.getD key (.int (-1))) with
  | .ok n => .ok n
  | .error (.refused _) => .error (.rejected (.proxyPort key))
  | .error (.numeral f) => .error (.ofNumeral f)

/-- The members of the value of a setting; a setting that is not given, or that is given as nothing,
has none. -/
def members (s : Settings) (key : Setting) : Except Failure (List Value) :=
  let v := s.getD key .null
  if !v.isTruthy then .ok []
  else match v.items? with
    | some vs => .ok vs
    | none => .error (.mishap .wrongKind)

/-- The texts of the members of the value of a setting. -/
def texts (s : Settings) (key : Setting) : Except Failure (List String) := do
  (← members s key).mapM Value.said

/-- The value of a setting for a text, as it is given; one that is given as nothing is empty. -/
def given (s : Settings) (key : Setting) : Value :=
  let v := s.getD key .null
  if v.isTruthy then v else .text ""

/-- The text of a setting, which a policy keeps as it is given: it is in full, also where it could
not be written. -/
def text (s : Settings) (key : Setting) : String := (given s key).spelled

/-- Whether a setting is given as something that is not nothing. -/
def flag (s : Settings) (key : Setting) : Bool := (s.getD key .null).isTruthy

/-- A port that is to be redirected. -/
def redirectPort (token : Value) : Except Failure Int :=
  match Port.parse token with
  | .ok n => .ok n
  | .error (.refused r) => .error (.rejected (.redirectPort r.text))
  | .error (.numeral f) => .error (.ofNumeral f)

/-- The inbound ports that are to be redirected. -/
def redirectPortList (s : Settings) : Except Failure (List Int) := do
  (← members s .portsToRedirect).mapM redirectPort

/-- The number of a user or of a group. -/
def owner (s : Settings) (key : Setting) : Except Failure Int :=
  ((s.getD key (.int (-1))).toInt).mapError Failure.ofInt

/-- The networks of the family, in order, without white space around them and without empty ones. -/
def sanitizeSubnets (ipv6 : Bool) : List Value → Logged Failure (List String)
  | [] => return []
  | raw :: rest => do
    let subnet := Text.strip (← raw.said)
    if subnet.isEmpty then sanitizeSubnets ipv6 rest
    else
      match Net.Network.parse? subnet with
      | none => throw (.rejected (.network subnet))
      | some n =>
        if (n.family = .v6) = ipv6 then return subnet :: (← sanitizeSubnets ipv6 rest)
        else
          Logged.note .policy .debug
            ("skipping subnet " ++ subnet ++ " for " ++ familyName ipv6 ++ " rules")
          sanitizeSubnets ipv6 rest

/-- The binaries that settings ask for. Paths are given for both or for none; the flavour has to be
one in either case. -/
def binaries (s : Settings) (ipv6 : Bool) : Except Failure (String × String) := do
  let given := flag s .firewallBinPath
  if given ≠ flag s .firewallSaveBinPath then throw (.rejected .unpairedPaths)
  let mode := s.getD .iptablesMode .null
  let usual ← Backend.defaultBinaries (if mode.isTruthy then mode else .text Mode.legacy.name) ipv6
  if given then return (text s .firewallBinPath, text s .firewallSaveBinPath) else return usual

/-- The policy that settings ask for. -/
def build (s : Settings) (ipv6 : Bool) : Logged Failure Policy := do
  let inboundPort ← proxyPort s .incomingProxyPort
  let outboundPort ← proxyPort s .outgoingProxyPort
  let (binary, saveBinary) ← binaries s ipv6
  let redirectPorts ← redirectPortList s
  let uid ← owner s .proxyUid
  let gid ← owner s .proxyGid
  let inboundIgnored ← texts s .inboundPortsToIgnore
  let outboundIgnored ← texts s .outboundPortsToIgnore
  let subnets ← sanitizeSubnets ipv6 (← members s .subnetsToIgnore)
  return {
    inboundPort, outboundPort, ipv6
    redirect := if redirectPorts.isEmpty then .all else .listed
    uid, gid, redirectPorts, inboundIgnored, outboundIgnored, subnets
    netns := text s .netns
    simulate := flag s .simulate
    useWaitFlag := flag s .useWaitFlag
    continueOnError := flag s .continueOnError
    binary, saveBinary
    proxyLoopback := flag s .redirectProxyLoopback
    dropFin := flag s .dropFinForTesting }

end Policy

end PodRedirect
