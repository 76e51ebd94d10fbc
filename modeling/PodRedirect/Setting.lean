import PodRedirect.Value

/-!
# Settings

The settings of a run. Each has a name, which the command line and the policy file share, a kind of
value and a value it has by default.

## Main definitions

* `Setting`: the settings, in the order in which they are listed
* `Setting.kind`: what kind of value a setting takes
* `Settings`: values for some of the settings, in the order in which they were given
* `Settings.defaults`: the values of all settings when nothing is given
-/

namespace PodRedirect

/-- A setting of a run. -/
inductive Setting where
  | incomingProxyPort
  | outgoingProxyPort
  | proxyUid
  | proxyGid
  | portsToRedirect
  | inboundPortsToIgnore
  | outboundPortsToIgnore
  | subnetsToIgnore
  | simulate
  | netns
  | useWaitFlag
  | continueOnError
  | timeoutCloseWaitSecs
  | iptablesMode
  | ipv6
  | firewallBinPath
  | firewallSaveBinPath
  | logFormat
  | logLevel
  | redirectProxyLoopback
  | dropFinForTesting
  deriving DecidableEq, Repr

namespace Setting

/-- The settings in the order in which they are listed. -/
def all : List Setting :=
  [incomingProxyPort, outgoingProxyPort, proxyUid, proxyGid, portsToRedirect,
    inboundPortsToIgnore, outboundPortsToIgnore, subnetsToIgnore, simulate, netns, useWaitFlag,
    continueOnError, timeoutCloseWaitSecs, iptablesMode, ipv6, firewallBinPath,
    firewallSaveBinPath, logFormat, logLevel, redirectProxyLoopback, dropFinForTesting]

/-- The name of a setting. -/
def name : Setting → String
  | incomingProxyPort => "incoming-proxy-port"
  | outgoingProxyPort => "outgoing-proxy-port"
  | proxyUid => "proxy-uid"
  | proxyGid => "proxy-gid"
  | portsToRedirect => "ports-to-redirect"
  | inboundPortsToIgnore => "inbound-ports-to-ignore"
  | outboundPortsToIgnore => "outbound-ports-to-ignore"
  | subnetsToIgnore => "subnets-to-ignore"
  | simulate => "simulate"
  | netns => "netns"
  | useWaitFlag => "use-wait-flag"
  | continueOnError => "continue-on-error"
  | timeoutCloseWaitSecs => "timeout-close-wait-secs"
  | iptablesMode => "iptables-mode"
  | ipv6 => "ipv6"
  | firewallBinPath => "firewall-bin-path"
  | firewallSaveBinPath => "firewall-save-bin-path"
  | logFormat => "log-format"
  | logLevel => "log-level"
  | redirectProxyLoopback => "redirect-proxy-loopback"
  | dropFinForTesting => "drop-fin-for-testing"

/-- The setting with the given name. -/
def ofName? (s : String) : Option Setting := all.find? fun k => k.name = s

/-- The kinds of values that settings take. -/
inductive Kind where
  | list
  | flag
  | int
  | text
  deriving DecidableEq, Repr

/-- The kind of value that a setting takes. -/
def kind : Setting → Kind
  | portsToRedirect | inboundPortsToIgnore | outboundPortsToIgnore | subnetsToIgnore => .list
  | simulate | useWaitFlag | continueOnError | ipv6 | redirectProxyLoopback
  | dropFinForTesting => .flag
  | incomingProxyPort | outgoingProxyPort | proxyUid | proxyGid | timeoutCloseWaitSecs => .int
  | netns | iptablesMode | firewallBinPath | firewallSaveBinPath | logFormat | logLevel => .text

/-- The value of a setting when nothing is given. A number of -1 stands for none. -/
def default : Setting → Value
  | incomingProxyPort | outgoingProxyPort | proxyUid | proxyGid => .int (-1)
  | timeoutCloseWaitSecs => .int 0
  | portsToRedirect | inboundPortsToIgnore | outboundPortsToIgnore | subnetsToIgnore => .list []
  | simulate | useWaitFlag | continueOnError | redirectProxyLoopback
  | dropFinForTesting => .flag false
  | ipv6 => .flag true
  | netns | firewallBinPath | firewallSaveBinPath => .text ""
  | iptablesMode => .text "legacy"
  | logFormat => .text "plain"
  | logLevel => .text "info"

end Setting

/-- Values for some of the settings, in the order in which they were given. -/
abbrev Settings := List (Setting × Value)

namespace Settings

/-- The value of a setting, if one is given. -/
def get? (s : Settings) (k : Setting) : Option Value := s.lookup k

/-- The value of a setting, or `otherwise`. -/
def getD (s : Settings) (k : Setting) (otherwise : Value) : Value := (s.get? k).getD otherwise

/-- The settings with `k` set to `v`, in its place if it has one already. -/
def set (k : Setting) (v : Value) : Settings → Settings
  | [] => [(k, v)]
  | (k', v') :: rest => if k' = k then (k, v) :: rest else (k', v') :: set k v rest

/-- The settings with those of `other` set as there. -/
def update (s other : Settings) : Settings :=
  other.foldl (fun s e => s.set e.1 e.2) s

/-- The values of all settings when nothing is given. -/
def defaults : Settings := Setting.all.map fun k => (k, k.default)

end Settings

end PodRedirect
