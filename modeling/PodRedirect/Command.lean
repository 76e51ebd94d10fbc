import PodRedirect.Failure

/-!
# Commands

A command is what one of the two binaries of a flavour is asked to do: its arguments, without the
binary itself. Every rule carries a comment that names the rule and, if there is one, the run that
made it.

## Main definitions

* `Command`: a command with its kind and its tag
* `Command.comment`, `Command.commentArgs`: the comment of a rule
* `Command.dump`: lists the rules of a table
-/

namespace PodRedirect

namespace Command

/-- What a command does. -/
inductive Kind where
  | createChain
  | flushChain
  | deleteChain
  | append
  | deleteRule
  | dump
  deriving DecidableEq, Repr

namespace Kind

/-- All kinds. -/
def all : List Kind := [createChain, flushChain, deleteChain, append, deleteRule, dump]

/-- The name of a kind. -/
def name : Kind → String
  | createChain => "create-chain"
  | flushChain => "flush-chain"
  | deleteChain => "delete-chain"
  | append => "append"
  | deleteRule => "delete-rule"
  | dump => "dump"

/-- The kind that a value names. -/
def ofValue (v : Value) : Except Failure Kind :=
  let found := match v with
    | .text s => all.find? fun k => k.name = s
    | _ => none
  match found with
  | some k => .ok k
  | none => v.quoted.mapError Failure.ofNumeral >>= fun q => .error (.mishap (.commandKind q))

end Kind

end Command

/-- A command for one of the binaries. The tag tells commands apart for the reader. -/
structure Command where
  kind : Command.Kind
  args : List String
  tag : String
  deriving DecidableEq, Repr

namespace Command

/-- The command is for the binary that lists rules. -/
def isDump (c : Command) : Bool := c.kind = .dump

/-- The arguments on a shell's command line. -/
def text (c : Command) : String := Shell.join c.args

/-- The comment of the rule with the given tag, and of the given run unless that is empty. -/
def comment (tag traceId : String) : String :=
  "proxy-init/" ++ tag ++ (if traceId.isEmpty then "" else "/" ++ traceId)

/-- The arguments that give a rule its comment. -/
def commentArgs (tag traceId : String) : List String :=
  ["-m", "comment", "--comment", comment tag traceId]

/-- Lists the rules of a table, or of all tables if that is empty. -/
def dump (table : String) : Command :=
  if table.isEmpty then ⟨.dump, [], "dump-all"⟩ else ⟨.dump, ["-t", table], "dump-" ++ table⟩

end Command

end PodRedirect
