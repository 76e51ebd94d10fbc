import PodRedirect.CommandLine.Switch
import PodRedirect.Setting.Coerce

/-!
# Arguments

Arguments are read in two passes. The first tells for each of them whether it is a switch; a long
name may be cut short where that leaves no doubt, and a value may be joined to a name. The second
gives switches their values and does what they say, in order.

## Main definitions

* `CommandLine.UsageError`: why arguments are not understood, and `UsageError.message`
* `CommandLine.Shape`, `CommandLine.shape`: what an argument is
* `CommandLine.Arguments`: what the arguments say
* `CommandLine.parse`: reads arguments
-/

namespace PodRedirect.CommandLine

open Text

/-- Why arguments are not understood. -/
inductive UsageError where
  | ambiguous (argument : String) (candidates : List String)
  | unrecognized (arguments : List String)
  | noArgument (s : Switch)
  | uselessArgument (s : Switch) (argument : String)
  | noInteger (s : Switch) (argument : String)
  | noChoice (s : Switch) (argument : String) (words : List String)
  deriving DecidableEq, Repr

/-- A usage error in words. -/
def UsageError.message : UsageError → String
  | ambiguous a names =>
    "ambiguous option: " ++ a ++ " could match " ++ ", ".intercalate names
  | unrecognized as => "unrecognized arguments: " ++ " ".intercalate as
  | noArgument s => "argument " ++ s.title ++ ": expected one argument"
  | uselessArgument s a =>
    "argument " ++ s.title ++ ": ignored explicit argument " ++ quoted a
  | noInteger s a => "argument " ++ s.title ++ ": invalid int value: " ++ quoted a
  | noChoice s a words =>
    "argument " ++ s.title ++ ": invalid choice: " ++ quoted a ++ " (choose from " ++
      ", ".intercalate (words.map quoted) ++ ")"

/-! ## What an argument is -/

/-- What an argument is: a switch by one of its names, perhaps with a value joined to it, something
that looks like a switch, the sign that no switches follow, or anything else. -/
inductive Shape where
  | switch (s : Switch) (name : String) (joined : Option (List Char))
  | unknown
  | separator
  | other
  deriving DecidableEq, Repr

/-- The argument up to the first equals sign, and the value behind it. -/
def cutEquals (cs : List Char) : List Char × Option (List Char) :=
  let name := cs.takeWhile (· ≠ '=')
  match cs.dropWhile (· ≠ '=') with
  | [] => (name, none)
  | _ :: value => (name, some value)

/-- The switches that an argument may stand for: by the start of a long name, or by a short name
with a value behind it. -/
def readings (cs : List Char) : List (String × Shape) :=
  match cs with
  | '-' :: '-' :: _ =>
    let (start, joined) := cutEquals cs
    namedSwitches.filterMap fun (n, s) =>
      if start.isPrefixOf n.toList then some (n, .switch s n joined) else none
  | _ =>
    namedSwitches.filterMap fun (n, s) =>
      if n.toList = cs.take 2 then some (n, .switch s n (some (cs.drop 2)))
      else if cs.isPrefixOf n.toList then some (n, .switch s n none)
      else none

/-- Digits of any script. -/
def isDigits (cs : List Char) : Bool := cs.all fun c => (digitValue? c).isSome

/-- A number below zero, perhaps with a line feed behind it. -/
def isNegative (cs : List Char) : Bool :=
  match if cs.getLast? = some '\n' then cs.dropLast else cs with
  | '-' :: body =>
    match body.splitOn '.' with
    | [whole] => !whole.isEmpty && isDigits whole
    | [whole, part] => isDigits whole && !part.isEmpty && isDigits part
    | _ => false
  | _ => false

/-- What an argument is, if there is no doubt. -/
def shape (a : String) : Except UsageError Shape := do
  let cs := a.toList
  if cs.head? ≠ some '-' then return .other
  if let some s := switch? a then return .switch s a none
  if cs.length = 1 then return .other
  if let (name, some joined) := cutEquals cs then
    let name := String.ofList name
    if let some s := switch? name then return .switch s name (some joined)
  match readings cs with
  | [(_, found)] => return found
  | [] => return if isNegative cs || cs.contains ' ' then .other else .unknown
  | found => throw (.ambiguous a (found.map Prod.fst))

/-- What the arguments are. Nothing behind the separator is a switch. -/
def shapes : List String → Except UsageError (List (String × Shape))
  | [] => .ok []
  | a :: as =>
    if a = "--" then .ok ((a, .separator) :: as.map fun a => (a, .other))
    else do
      let s ← shape a
      return (a, s) :: (← shapes as)

/-! ## What the arguments say -/

/-- What the arguments say: the settings they give, whether the run is to remove a redirection, and
the paths of the policy file and of the script, which are empty if not given. -/
structure Arguments where
  given : Settings
  cleanup : Bool
  config : Value
  script : Value
  deriving Repr

/-- Nothing is said. -/
def Arguments.empty : Arguments := ⟨[], false, .text "", .text ""⟩

/-- Why nothing is run: help or the version is asked for, or the arguments are not understood. -/
inductive Halt where
  | help
  | version
  | usage (e : UsageError)
  deriving DecidableEq, Repr

/-- The use of a switch: the name it is called by, and its argument if it takes one. -/
structure Use where
  switch : Switch
  name : String
  argument : String
  deriving DecidableEq, Repr

/-- The argument of a switch, as it is read by `read`. The separator in its place, which only comes
there if it is joined to the switch, stands for nothing. That is the rule of the interpreter
compared with; newer ones keep it as an argument like any other. -/
def Use.value (u : Use) (read : String → Except UsageError Value) : Except Halt Value :=
  if u.argument = "--" then .ok (.list []) else (read u.argument).mapError .usage

/-- The argument of a switch for a number. -/
def Use.int (u : Use) : Except Halt Value :=
  u.value fun a =>
    match Numeral.read 10 a with
    | .ok n => .ok (.int n)
    | .error _ => .error (.noInteger u.switch a)

/-- The argument of a switch for one of some words. -/
def Use.choice (u : Use) (words : List String) : Except Halt Value :=
  u.value fun a => if words.contains a then .ok (.text a) else .error (.noChoice u.switch a words)

/-- The argument of a switch for a text. -/
def Use.text (u : Use) : Except Halt Value := u.value fun a => .ok (.text a)

/-- The argument of a switch for a list. By the same rule of the interpreter compared with, the
separator in its place has no members. -/
def Use.members (u : Use) : List Value :=
  if u.argument = "--" then [] else (Setting.pieces u.argument).map .text

/-- Does what a switch says. A list that is given more than once grows. -/
def Arguments.use (a : Arguments) (u : Use) : Except Halt Arguments :=
  let set := fun key v => { a with given := a.given.set key v }
  match u.switch.role with
  | .help => .error .help
  | .version => .error .version
  | .int key => u.int.map (set key)
  | .text key => u.text.map (set key)
  | .choice key words => (u.choice words).map (set key)
  | .list key =>
    let before := match a.given.get? key with
      | some (.list vs) => vs
      | _ => []
    .ok (set key (.list (before ++ u.members)))
  | .on key => .ok (set key (.flag true))
  | .toggle key => .ok (set key (.flag !("--no-".toList.isPrefixOf u.name.toList)))
  | .cleanup => .ok { a with cleanup := true }
  | .config => u.text.map fun v => { a with config := v }
  | .script => u.text.map fun v => { a with script := v }

/-- What an argument with switches comes to: their uses, and whether the next argument belongs to
it. -/
structure Cluster where
  uses : List Use
  tookNext : Bool
  deriving Repr

/-- The name is a dash with a single character. -/
def isShort (name : String) : Bool := name.toList[1]? ≠ some '-'

/-- Reads a switch without a joined value, given the next argument if it is none. -/
def single (next : Option String) (s : Switch) (name : String) : Except UsageError Cluster :=
  if s.role.takesArgument then
    match next with
    | some value => .ok ⟨[⟨s, name, value⟩], true⟩
    | none => .error (.noArgument s)
  else .ok ⟨[⟨s, name, ""⟩], false⟩

/-- Reads a switch with a joined value, given the next argument if it is none. Behind a short name
that takes no argument stand further short names. -/
def joinedCluster (next : Option String) (s : Switch) (name : String) :
    (value : List Char) → Except UsageError Cluster
  | [] =>
    if s.role.takesArgument then .ok ⟨[⟨s, name, ""⟩], false⟩
    else .error (.uselessArgument s "")
  | c :: rest =>
    let value := String.ofList (c :: rest)
    let name' := String.ofList ['-', c]
    if s.role.takesArgument then .ok ⟨[⟨s, name, value⟩], false⟩
    else if !isShort name then .error (.uselessArgument s value)
    else
      match switch? name' with
      | none => .error (.uselessArgument s value)
      | some s' =>
        let further := match rest with
          | [] => single next s' name'
          | c' :: more => joinedCluster next s' name' (c' :: more)
        further.map fun r => { r with uses := ⟨s, name, ""⟩ :: r.uses }

/-- Reads an argument with switches, given the next argument if it is none. -/
def cluster (next : Option String) (s : Switch) (name : String) (joined : Option (List Char)) :
    Except UsageError Cluster :=
  match joined with
  | none => single next s name
  | some value => joinedCluster next s name value

/-- Does what arguments say: what they say in the end, and what is left over. -/
def Arguments.follow (a : Arguments) : List (String × Shape) →
    Except Halt (Arguments × List String)
  | [] => .ok (a, [])
  | (_, .switch s name joined) :: rest => do
    let next := match rest with
      | (value, .other) :: _ => some value
      | _ => none
    let c ← (cluster next s name joined).mapError Halt.usage
    let a ← c.uses.foldlM Arguments.use a
    if c.tookNext then
      match rest with
      | [] => a.follow []
      | _ :: rest => a.follow rest
    else a.follow rest
  | (text, _) :: rest => do
    let (a, left) ← a.follow rest
    return (a, text :: left)

/-- Reads arguments. -/
def parse (as : List String) : Except Halt Arguments := do
  let shaped ← (shapes as).mapError Halt.usage
  let (a, left) ← Arguments.empty.follow shaped
  if left.isEmpty then return a else throw (.usage (.unrecognized left))

end PodRedirect.CommandLine
