import PodRedirect.Executor
import PodRedirect.Text.Line

/-!
# Scripts

Instead of being run, commands may be written as a shell script. The script names the binaries, the
identifier of the run and the warnings in comments, and has one section for each family of
addresses.

## Main definitions

* `Script.Section`: the commands for one family of addresses
* `Script.render`: the script of sections
* `Script.fillTemplate`: the script from a template of the user's
-/

namespace PodRedirect

/-- The version of the program. -/
def version : String := "0.1.0"

namespace Script

/-- The commands for one family of addresses. -/
structure Section where
  family : String
  binary : String
  saveBinary : String
  commands : List (List String)
  warnings : List String
  deriving DecidableEq, Repr

/-- The section for the commands of a policy. -/
def ofPolicy (p : Policy) (commands : List Command) (warnings : List String) : Section :=
  ⟨Policy.familyName p.ipv6, p.binary, p.saveBinary, commands.map p.argv, warnings⟩

/-- The line about a section at the start of the script. -/
def Section.summary (s : Section) : String :=
  "# " ++ s.family ++ ": " ++ s.binary ++ " / " ++ s.saveBinary

/-- The lines of a section. -/
def Section.lines (s : Section) : List String :=
  ["", "# -- " ++ s.family ++ " --"] ++ s.warnings.map ("# warning: " ++ ·) ++
    s.commands.map Shell.join

/-- The lines of the script. -/
def lines (sections : List Section) (traceId : String) (simulate : Bool) : List String :=
  ["#!/bin/sh", "#", "# Generated by proxy-init v" ++ version, "#", "# trace id:  " ++ traceId] ++
    sections.map Section.summary ++
    (if simulate then ["#", "# Planned with --simulate; nothing has been applied yet."] else []) ++
    ["#", "", "set -e"] ++ sections.flatMap Section.lines

/-- The script of sections. -/
def render (sections : List Section) (traceId : String) (simulate : Bool) : String :=
  String.join ((lines sections traceId simulate).map (· ++ "\n"))

/-- The text that stands in a template for the name between braces. -/
def filling? (traceId : String) (name : String) : Option String :=
  if name = "trace_id" then some traceId
  else if name = "version" then some version
  else none

/-- The characters up to two closing braces, and those after them. -/
def upToBraces : List Char → Option (List Char × List Char)
  | '\x7d' :: '\x7d' :: rest => some ([], rest)
  | c :: rest => (upToBraces rest).map fun r => (c :: r.1, r.2)
  | [] => none

/-- Fills in the variables of a template, each of which stands between double braces; a round takes
a character at least. -/
def fillFrom (traceId : String) : (fuel : Nat) → List Char → List Char
  | 0, cs => cs
  | _ + 1, [] => []
  | fuel + 1, '\x7b' :: '\x7b' :: rest =>
    let filled := do
      let (name, after) ← upToBraces rest
      let text ← filling? traceId (Text.strip (String.ofList name))
      return (text.toList, after)
    match filled with
    | some (text, after) => text ++ fillFrom traceId fuel after
    | none => '\x7b' :: '\x7b' :: fillFrom traceId fuel rest
  | fuel + 1, c :: rest => c :: fillFrom traceId fuel rest

/-- The script from a template of the user's, which has places for the identifier of the run and for
the version. -/
def fillTemplate (template traceId : String) : String :=
  let cs := Text.unifyEnds template.toList
  String.ofList (fillFrom traceId (cs.length + 1) cs)

end Script

end PodRedirect
