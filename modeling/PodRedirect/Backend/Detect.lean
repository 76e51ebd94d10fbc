import PodRedirect.Backend
import PodRedirect.Host

/-!
# Finding the flavour in use

The node agent of a cluster leaves marker chains in the flavour that it uses. Where there are none,
the flavour with more rules is taken to be in use, the older one if both have as many. A listing
that cannot be had counts as empty.

## Main definitions

* `Backend.findBinary`: the name of a binary that the host knows
* `Backend.detect`: the flavour in use, and the binaries for the flavour asked for
* `Backend.select`: the same, unless binaries are given by their paths
* `Backend.fallback`: a pair of binaries that the host knows
-/

namespace PodRedirect.Backend

variable {σ : Type}

/-- Asks for binaries in turn until the host knows one. -/
def findAmong : List String → Action σ (Option String)
  | [] => return none
  | name :: names => do
    if ← Action.look name then
      Action.note .backend .debug ("Looked up iptables command " ++ name)
      return some name
    findAmong names

/-- The binary of a flavour, or the one without a flavour in its name. -/
def findBinary (command mode suffix : String) : Action σ String := do
  let candidates := [command ++ "-" ++ mode ++ "-" ++ suffix, command ++ "-" ++ suffix]
  match ← findAmong candidates with
  | some name => return name
  | none => throw (.noBinary candidates)

/-- How a listing is asked for. -/
abbrev Probe (σ : Type) := List String → Action σ String

/-- A listing, or an empty one if it cannot be had. -/
def listing (probe : Probe σ) (argv : List String) : Action σ String := do
  match ← (probe argv).attempt with
  | .ok output => return output
  | .error f =>
    if !f.isExpected then throw f
    Action.note .backend .debug
      ("backend probe " ++ " ".intercalate argv ++ " failed: " ++ f.message)
    return ""

/-- The flavour in use, seen from the listings of the two binaries. -/
def inUse (probe : Probe σ) (nftSave legacySave : String) : Action σ Mode := do
  if hasMarker (← listing probe [nftSave, "-t", "mangle"]) then return .nft
  if hasMarker (← listing probe [legacySave, "-t", "mangle"]) then return .legacy
  let legacy := countRules (← listing probe [legacySave])
  let nft := countRules (← listing probe [nftSave])
  Action.note .backend .debug
    ("rule count: legacy=" ++ toString legacy ++ " nft=" ++ toString nft)
  return if nft ≤ legacy then .legacy else .nft

/-- The flavour that is used: the one asked for, or the one in use if that is left open. -/
def settle (mode detected : Mode) : Action σ Mode := do
  let quote := fun m : Mode => "\"" ++ m.name ++ "\""
  if mode = .auto then
    Action.note .backend .debug ("Detected iptables backend: " ++ detected.name)
    return detected
  if mode ≠ detected then
    Action.note .backend .warning
      ("iptables backend " ++ quote mode ++ " does not match the detected backend " ++
        quote detected ++ "; honoring " ++ quote mode)
  else
    Action.note .backend .debug
      ("iptables backend " ++ quote mode ++ " matches the detected backend")
  return mode

/-- The flavour in use, and the binaries for the flavour that a value asks for, in any mixture of
capitals and small letters. -/
def detect (probe : Probe σ) (ipv6 : Bool) (requested : Value) : Action σ Selection := do
  let text ← requested.said
  let some mode := Mode.ofName? (Text.lower text) | throw (.rejected (.mode text))
  if mode = .explicit then throw (.rejected .explicitMode)
  let plain := command ipv6
  let nftSave ← findBinary plain Mode.nft.name "save"
  let legacySave ← findBinary plain Mode.legacy.name "save"
  let detected ← inUse probe nftSave legacySave
  let use ← settle mode detected
  let (binary, saveBinary) := match use with
    | .legacy => (Text.dropSuffix legacySave "-save", legacySave)
    | .nft => (Text.dropSuffix nftSave "-save", nftSave)
    | _ => (plain, saveName plain)
  Action.note .backend .debug
    ("Using iptables commands " ++ binary ++ " and " ++ saveBinary)
  return ⟨use, binary, saveBinary, some detected⟩

/-- The flavour and the binaries for one family of addresses. Binaries that are given by their
paths are taken as they are. -/
def select (probe : Probe σ) (ipv6 : Bool) (requested : Value) (binary saveBinary : String) :
    Action σ Selection := do
  if binary.isEmpty && saveBinary.isEmpty then detect probe ipv6 requested
  else
    if binary.isEmpty || saveBinary.isEmpty then throw (.rejected .unpairedPaths)
    Action.note .backend .debug
      ("Using explicit iptables commands " ++ binary ++ " and " ++ saveBinary)
    return ⟨.explicit, binary, saveBinary, none⟩

/-- The host knows both binaries; the second is asked for only if it knows the first. -/
def knowsPair (binary saveBinary : String) : Action σ Bool := do
  if ← Action.look binary then Action.look saveBinary else return false

/-- The first pair of binaries of the given flavours that the host knows. -/
def findPair (plain : String) : List Mode → Action σ (Option (String × String))
  | [] => return none
  | m :: ms => do
    let binary := binaryName plain m
    if ← knowsPair binary (saveName binary) then return some (binary, saveName binary)
    findPair plain ms

/-- A pair of binaries that the host knows: the given one, or one of another flavour for the same
family of addresses. If there is none, the given one. -/
def fallback (binary saveBinary : String) : Action σ (String × String) := do
  if ← knowsPair binary saveBinary then
    Action.note .backend .debug
      ("iptables: using configured binaries " ++ binary ++ " and " ++ saveBinary)
    return (binary, saveBinary)
  let six := command true
  let plain := command (Text.contains binary six || Text.contains saveBinary six)
  match ← findPair plain [.nft, .plain, .legacy] with
  | some (b, s) =>
    if (b, s) ≠ (binary, saveBinary) then
      Action.note .backend .warning
        ("iptables: " ++ binary ++ "/" ++ saveBinary ++ " not found; falling back to " ++ b ++
          "/" ++ s)
    return (b, s)
  | none =>
    Action.note .backend .error
      ("iptables: no suitable binaries found on PATH for " ++ binary ++ "/" ++ saveBinary ++
        "; commands may fail")
    return (binary, saveBinary)

end PodRedirect.Backend
