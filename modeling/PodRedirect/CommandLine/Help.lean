import PodRedirect.Script

/-!
# Help

What is written when help is asked for, or when the arguments are not understood.

## Main definitions

* `CommandLine.usage`: the forms of the arguments
* `CommandLine.help`: the same, with what each of them means
* `CommandLine.versionText`: which version this is
-/

namespace PodRedirect.CommandLine

/-- The name of the program. -/
def programName : String := "proxy-init"

/-- The lines about the forms of the arguments. -/
def usageLines : List String :=
  ["usage: proxy-init [-h] [-p INCOMING_PROXY_PORT] [-o OUTGOING_PROXY_PORT]",
    "                  [-u PROXY_UID] [-g PROXY_GID] [-r PORTS_TO_REDIRECT]",
    "                  [--inbound-ports-to-ignore INBOUND_PORTS_TO_IGNORE]",
    "                  [--outbound-ports-to-ignore OUTBOUND_PORTS_TO_IGNORE]",
    "                  [--subnets-to-ignore SUBNETS_TO_IGNORE] [--simulate]",
    "                  [--netns NETNS] [-w]",
    "                  [--timeout-close-wait-secs TIMEOUT_CLOSE_WAIT_SECS]",
    "                  [--log-format \x7bplain,json\x7d] [--log-level LOG_LEVEL]",
    "                  [--iptables-mode \x7blegacy,nft,plain,auto\x7d]",
    "                  [--ipv6 | --no-ipv6] [--firewall-bin-path FIREWALL_BIN_PATH]",
    "                  [--firewall-save-bin-path FIREWALL_SAVE_BIN_PATH]",
    "                  [--continue-on-error] [--redirect-proxy-loopback]",
    "                  [--cleanup] [--config CONFIG] [--script SCRIPT] [-V]"]

/-- The lines about what the arguments mean. -/
def optionLines : List String :=
  ["",
    "proxy-init adds a Kubernetes pod to the service mesh. It installs iptables NAT",
    "rules that redirect the pod's inbound and outbound TCP traffic to the proxy",
    "sidecar.",
    "",
    "options:",
    "  -h, --help            show this help message and exit",
    "  -p INCOMING_PROXY_PORT, --incoming-proxy-port INCOMING_PROXY_PORT",
    "                        port to redirect incoming traffic to",
    "  -o OUTGOING_PROXY_PORT, --outgoing-proxy-port OUTGOING_PROXY_PORT",
    "                        port to redirect outgoing traffic to",
    "  -u PROXY_UID, --proxy-uid PROXY_UID",
    "                        user ID the proxy runs as. Traffic of this user is not",
    "                        redirected, to avoid redirection loops",
    "  -g PROXY_GID, --proxy-gid PROXY_GID",
    "                        group ID the proxy runs as. Traffic of this group is",
    "                        not redirected",
    "  -r PORTS_TO_REDIRECT, --ports-to-redirect PORTS_TO_REDIRECT",
    "                        comma-separated inbound ports to redirect to the",
    "                        proxy. If none is given, all ports are redirected. Can",
    "                        be repeated",
    "  --inbound-ports-to-ignore INBOUND_PORTS_TO_IGNORE",
    "                        comma-separated inbound ports and/or port ranges",
    "                        (inclusive, \"lower-upper\") that are never redirected.",
    "                        Takes precedence over any other option",
    "  --outbound-ports-to-ignore OUTBOUND_PORTS_TO_IGNORE",
    "                        comma-separated outbound ports and/or port ranges",
    "                        (inclusive) that are never redirected. Takes",
    "                        precedence over any other option",
    "  --subnets-to-ignore SUBNETS_TO_IGNORE",
    "                        comma-separated source subnets (CIDR) whose inbound",
    "                        traffic is never redirected",
    "  --simulate            don't execute any command, just log what would be",
    "                        executed",
    "  --netns NETNS         network namespace to run the iptables commands in",
    "  -w, --use-wait-flag   append \"-w\" to the iptables commands to wait for the",
    "                        xtables lock",
    "  --timeout-close-wait-secs TIMEOUT_CLOSE_WAIT_SECS",
    "                        set net.netfilter.nf_conntrack_tcp_timeout_close_wait",
    "                        (0 = leave as is)",
    "  --log-format \x7bplain,json\x7d",
    "                        log format. Default: plain",
    "  --log-level LOG_LEVEL",
    "                        log level. Default: info",
    "  --iptables-mode \x7blegacy,nft,plain,auto\x7d",
    "                        variant of the iptables commands to use. \"auto\"",
    "                        detects the variant the host already uses. Default:",
    "                        legacy",
    "  --ipv6, --no-ipv6     also install the rules via ip6tables for dual-stack",
    "                        networking. Default: on",
    "  --firewall-bin-path FIREWALL_BIN_PATH",
    "                        explicit iptables binary for the IPv4 rules, bypassing",
    "                        backend selection. Requires --firewall-save-bin-path",
    "  --firewall-save-bin-path FIREWALL_SAVE_BIN_PATH",
    "                        explicit iptables-save binary for the IPv4 rules.",
    "                        Requires --firewall-bin-path",
    "  --continue-on-error   keep going when a command fails",
    "  --redirect-proxy-loopback",
    "                        send the proxy's own loopback traffic that is not",
    "                        aimed at localhost back to the inbound proxy port.",
    "                        Requires --proxy-uid",
    "  --cleanup             remove the rules installed by a previous run",
    "  --config CONFIG       YAML policy file. Options given on the command line",
    "                        take precedence",
    "  --script SCRIPT       write the planned commands as a shell script to this",
    "                        file (\"-\" for stdout) instead of executing them",
    "  -V, --version         show program's version number and exit"]

/-- Lines, each with its end. -/
def ofLines (ls : List String) : String := String.join (ls.map (· ++ "\n"))

/-- The forms of the arguments. -/
def usage : String := ofLines usageLines

/-- The forms of the arguments and what they mean. -/
def help : String := ofLines (usageLines ++ optionLines)

/-- Which version of the program this is, and whose. -/
def versionText : String :=
  programName ++ ": v" ++ version ++ " by Linuxfabrik GmbH, Zurich/Switzerland\n"

end PodRedirect.CommandLine
