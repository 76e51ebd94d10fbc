import PodRedirect.Setting

/-!
# Switches

The switches of the command line: their names, and what each of them does. Most of them give a value
to a setting.

## Main definitions

* `CommandLine.Role`: what a switch does
* `CommandLine.Switch`: a switch with its names
* `CommandLine.switches`: all switches
-/

namespace PodRedirect.CommandLine

/-- What a switch does: it asks for help or the version, gives a number, a list, a text or one of
some words to a setting, turns a setting on, or on and off by its two names, or it says what the
run is for. -/
inductive Role where
  | help
  | version
  | int (key : Setting)
  | list (key : Setting)
  | text (key : Setting)
  | choice (key : Setting) (words : List String)
  | on (key : Setting)
  | toggle (key : Setting)
  | cleanup
  | config
  | script
  deriving DecidableEq, Repr

/-- The switch stands in front of an argument. -/
def Role.takesArgument : Role → Bool
  | help | version | on _ | toggle _ | cleanup => false
  | int _ | list _ | text _ | choice _ _ | config | script => true

/-- A switch with its names. -/
structure Switch where
  names : List String
  role : Role
  deriving DecidableEq, Repr

/-- The names of a switch, as it is named in messages. -/
def Switch.title (s : Switch) : String := "/".intercalate s.names

/-- All switches, in the order in which they are listed. -/
def switches : List Switch :=
  [⟨["-h", "--help"], .help⟩,
    ⟨["-p", "--incoming-proxy-port"], .int .incomingProxyPort⟩,
    ⟨["-o", "--outgoing-proxy-port"], .int .outgoingProxyPort⟩,
    ⟨["-u", "--proxy-uid"], .int .proxyUid⟩,
    ⟨["-g", "--proxy-gid"], .int .proxyGid⟩,
    ⟨["-r", "--ports-to-redirect"], .list .portsToRedirect⟩,
    ⟨["--inbound-ports-to-ignore"], .list .inboundPortsToIgnore⟩,
    ⟨["--outbound-ports-to-ignore"], .list .outboundPortsToIgnore⟩,
    ⟨["--subnets-to-ignore"], .list .subnetsToIgnore⟩,
    ⟨["--simulate"], .on .simulate⟩,
    ⟨["--netns"], .text .netns⟩,
    ⟨["-w", "--use-wait-flag"], .on .useWaitFlag⟩,
    ⟨["--timeout-close-wait-secs"], .int .timeoutCloseWaitSecs⟩,
    ⟨["--log-format"], .choice .logFormat ["plain", "json"]⟩,
    ⟨["--log-level"], .text .logLevel⟩,
    ⟨["--iptables-mode"], .choice .iptablesMode ["legacy", "nft", "plain", "auto"]⟩,
    ⟨["--ipv6", "--no-ipv6"], .toggle .ipv6⟩,
    ⟨["--firewall-bin-path"], .text .firewallBinPath⟩,
    ⟨["--firewall-save-bin-path"], .text .firewallSaveBinPath⟩,
    ⟨["--continue-on-error"], .on .continueOnError⟩,
    ⟨["--redirect-proxy-loopback"], .on .redirectProxyLoopback⟩,
    ⟨["--drop-fin-for-testing"], .on .dropFinForTesting⟩,
    ⟨["--cleanup"], .cleanup⟩,
    ⟨["--config"], .config⟩,
    ⟨["--script"], .script⟩,
    ⟨["-V", "--version"], .version⟩]

/-- The names of all switches, each with its switch. -/
def namedSwitches : List (String × Switch) :=
  switches.flatMap fun s => s.names.map fun n => (n, s)

/-- The switch with the given name. -/
def switch? (name : String) : Option Switch := namedSwitches.lookup name

end PodRedirect.CommandLine
