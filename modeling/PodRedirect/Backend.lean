import PodRedirect.Text.Line
import PodRedirect.Failure

/-!
# Flavours of the firewall

The commands that change the rules of the kernel come in flavours, each with a set of rules of its
own. A flavour has a pair of binaries for each family of addresses, one that changes rules and one
that lists them, whose name is that of the first with a suffix.

## Main definitions

* `Mode`: the flavours that can be asked for
* `Selection`: the flavour and the binaries that are used
* `Backend.defaultBinaries`: the binaries of a flavour, by name alone
* `Backend.countRules`, `Backend.hasMarker`: what a listing tells about the use of a flavour
-/

namespace PodRedirect

/-- A flavour: `auto` stands for the one that the host uses, and `explicit` for binaries that are
given by their paths. -/
inductive Mode where
  | legacy
  | nft
  | plain
  | auto
  | explicit
  deriving DecidableEq, Repr

namespace Mode

/-- All flavours. -/
def all : List Mode := [legacy, nft, plain, auto, explicit]

/-- The name of a flavour. -/
def name : Mode → String
  | legacy => "legacy"
  | nft => "nft"
  | plain => "plain"
  | auto => "auto"
  | explicit => "explicit"

/-- The flavour with the given name. -/
def ofName? (s : String) : Option Mode := all.find? fun m => m.name = s

/-- The flavour that a value names. -/
def ofValue? : Value → Option Mode
  | .text s => ofName? s
  | _ => none

/-- A flavour as a constant. -/
def constant (m : Mode) : String :=
  "<BackendMode." ++ m.name.toUpper ++ ": '" ++ m.name ++ "'>"

end Mode

/-- The flavour and the binaries that are used, and the flavour that the host uses if that was
found out. -/
structure Selection where
  mode : Mode
  binary : String
  saveBinary : String
  detected : Option Mode
  deriving DecidableEq, Repr

/-- A selection in words. -/
def Selection.text (s : Selection) : String :=
  "BackendSelection(mode=" ++ s.mode.constant ++ ", bin_path=" ++ Text.quoted s.binary ++
    ", save_bin_path=" ++ Text.quoted s.saveBinary ++ ", detected=" ++
    s.detected.elim "None" Mode.constant ++ ")"

namespace Backend

/-- The name of the plain command of a family of addresses. -/
def command (ipv6 : Bool) : String := if ipv6 then "ip6tables" else "iptables"

/-- The binary that lists rules, for the one that changes them. -/
def saveName (binary : String) : String := binary ++ "-save"

/-- The binary of a flavour for a command. -/
def binaryName (command : String) : Mode → String
  | .legacy => command ++ "-legacy"
  | .nft => command ++ "-nft"
  | .plain | .auto | .explicit => command

/-- The binaries that a value asks for, by name alone. -/
def defaultBinaries (mode : Value) (ipv6 : Bool) : Except Failure (String × String) :=
  match Mode.ofValue? mode with
  | none => mode.said >>= fun text => .error (.rejected (.mode text))
  | some .explicit => .error (.rejected .explicitMode)
  | some m =>
    let binary := binaryName (command ipv6) m
    .ok (binary, saveName binary)

/-- The number of rules in a listing: the lines that start with a dash. -/
def countRules (listing : String) : Nat :=
  (Text.lines listing).countP fun l => l.head? = some '-'

/-- The chains that tell which flavour the node agent of a cluster uses. -/
def markerChains : List String := ["KUBE-IPTABLES-HINT", "KUBE-KUBELET-CANARY"]

/-- The listing mentions a marker chain. -/
def hasMarker (listing : String) : Bool :=
  markerChains.any (Text.contains listing)

end Backend

end PodRedirect
