import PodRedirect.Failure
import PodRedirect.Log

/-!
# Groups of ports

A rule matches a limited number of port references, of which a single port is one and a range is
two. Ranges are put into groups in their order, and a new group starts where the next range would
exceed the limit, so that a range added at the end leaves earlier groups as they were.

## Main definitions

* `Port.Reading`: what tokens stand for, those that are refused apart
* `Port.pack`: ranges in groups
* `Port.groups`: the groups of destinations for tokens
* `Port.multiport`: these, or why not all tokens were read
* `Port.fill`: the same in one pass, which reports each token that is refused when it comes to it
-/

namespace PodRedirect.Port

/-- The number of port references in a rule. -/
def referenceLimit : Int := 15

/-- The ranges that tokens stand for, the tokens that are refused, both in order, and why the
reading stopped if it did not reach the end. -/
structure Reading where
  accepted : List PortRange
  refused : List Refusal
  fault : Option Numeral.Fault
  deriving Repr

/-- Reads tokens in order. -/
def read : List Value → Reading
  | [] => ⟨[], [], none⟩
  | token :: tokens =>
    match PortRange.parse token with
    | .ok r => let rest := read tokens; { rest with accepted := r :: rest.accepted }
    | .error (.refused r) => let rest := read tokens; { rest with refused := r :: rest.refused }
    | .error (.numeral f) => ⟨[], [], some f⟩

/-- Fills groups up to the capacity, the group begun so far being `current` with the given cost.
A group holds at least one range, whatever that costs. -/
def packFrom (capacity : Int) (current : List PortRange) (cost : Nat) :
    List PortRange → List (List PortRange)
  | [] => [current]
  | r :: rs =>
    if !current.isEmpty && capacity < cost + r.cost then
      current :: packFrom capacity [r] r.cost rs
    else packFrom capacity (current ++ [r]) (cost + r.cost) rs

/-- Ranges in groups of at most the given capacity. -/
def pack (capacity : Int) (rs : List PortRange) : List (List PortRange) :=
  packFrom capacity [] 0 rs

/-- The groups of destinations for tokens. Without tokens there is no group, and if all tokens are
refused there is an empty one. -/
def groups (capacity : Int) (tokens : List Value) : List (List String) :=
  if tokens.isEmpty then []
  else (pack capacity (read tokens).accepted).map fun g => g.map PortRange.destination

/-- The warning about a token that is refused. -/
def Refusal.warning (r : Refusal) : String :=
  "invalid port configuration of \"" ++ r.text ++ "\": " ++ r.message

/-- The groups of destinations for tokens, if all of them could be read. -/
def multiport (capacity : Int) (tokens : List Value) : Except Numeral.Fault (List (List String)) :=
  match (read tokens).fault with
  | some f => .error f
  | none => .ok (groups capacity tokens)

/-- Goes through tokens in order. One that is refused is reported and dropped; any other joins the
group begun so far, whose cost is given, or starts the next group. -/
def fillFrom {m : Type → Type} [Monad m] (report : Value → Refusal → m Unit) (capacity : Int)
    (current : List String) (cost : Nat) :
    List Value → ExceptT Numeral.Fault m (List (List String))
  | [] => return [current]
  | token :: tokens =>
    match PortRange.parse token with
    | .ok r =>
      if !current.isEmpty && capacity < cost + r.cost then do
        return current :: (← fillFrom report capacity [r.destination] r.cost tokens)
      else fillFrom report capacity (current ++ [r.destination]) (cost + r.cost) tokens
    | .error (.refused r) => do
      report token r
      fillFrom report capacity current cost tokens
    | .error (.numeral f) => throw f

/-- The groups of destinations for ports that may be absent, and a report of every token that is
refused. Without tokens there is no group. -/
def fill {m : Type → Type} [Monad m] (report : Value → Refusal → m Unit) (capacity : Int)
    (ports : Option (List Value)) : ExceptT Numeral.Fault m (List (List String)) :=
  match ports.getD [] with
  | [] => return []
  | tokens => fillFrom report capacity [] 0 tokens

/-- Reports a token that is refused to the log. -/
def logRefused (_token : Value) (r : Refusal) : StateM (Array Log.Entry) Unit :=
  modify (·.push ⟨.portGroups, .error, r.warning⟩)

/-- The groups of destinations for tokens, with an entry in the log for every token that is
refused. -/
def loggedMultiport (capacity : Int) (tokens : List Value) :
    Logged Failure (List (List String)) :=
  ExceptT.adapt Failure.ofNumeral (fill logRefused capacity (some tokens))

end PodRedirect.Port
