import PodRedirect.Policy.Build
import PodRedirect.Proofs.Compilation
import PodRedirect.Proofs.Port.Refusal
import PodRedirect.Proofs.Shell
import PodRedirect.Run
import PodRedirect.Script

/-!
# What a script runs

A shell that reads a script runs the commands of its sections and nothing else, as long as what the
script shows in comments stays on one line each. Words of commands may have any characters, since
they stand between quotes. A comment is written as it is: of a binary or a refused token with a line
end, what comes after that is read as a command.

## Main definitions

* `Policy.OneLine`: what a script for the policy shows in comments stays on its line
* `Script.Planned`: a section that installs a policy, or removes one

## Main results

* `Compiler.exists_of_mem_warnings`: a compilation warns about the tokens that are refused
* `Script.read_render_sections`: a script is read as the commands of its sections
* `Script.read_render`: a script is read as its plan
* `Script.read_render_twoLines`: a token whose second line is run as a command
-/

namespace PodRedirect

/-- What a script for the policy shows in comments has no line end: the two binaries, and the tokens
that are refused, if the script installs the policy. -/
structure Policy.OneLine (p : Policy) (purpose : Run.Purpose) : Prop where
  binary : '\n' ∉ p.binary.toList
  saveBinary : '\n' ∉ p.saveBinary.toList
  refused : purpose = .configure → ∀ token ∈ p.inboundIgnored ++ p.outboundIgnored,
    '\n' ∈ token.toList → ∃ range, PortRange.parse (.text token) = .ok range

/-! ## The warnings of a compilation -/

namespace Compiler

variable {p : Policy} {traceId chain : String} {i : Installed} {r : Port.Refusal}

theorem refuse_not_mem_ensureChain (exists_ : Bool) :
    Step.refuse r ∉ ensureChain chain exists_ := by
  cases exists_ <;> simp [ensureChain]

theorem refuse_not_mem_ensureJump (target tag : String) (exists_ : Bool) (drop : Option Command) :
    Step.refuse r ∉ ensureJump chain target tag exists_ drop := by
  cases exists_ <;> cases drop <;> simp [ensureJump]

theorem refuse_not_mem_ignoreSubnets (subnets : List String) :
    Step.refuse r ∉ ignoreSubnets traceId chain subnets := by
  simp [ignoreSubnets]

theorem refuse_not_mem_redirectInbound : Step.refuse r ∉ redirectInbound p traceId chain := by
  unfold redirectInbound
  split <;> simp

theorem refuse_not_mem_emitFor (number : Int) (cs : List Command) :
    Step.refuse r ∉ emitFor number cs := by
  unfold emitFor
  split <;> simp

theorem refuse_not_mem_ignoreProxy : Step.refuse r ∉ ignoreProxy p traceId chain := by
  rw [ignoreProxy, List.mem_append, not_or]
  constructor
  all_goals
    split
    · exact refuse_not_mem_emitFor _ _
    · exact List.not_mem_nil

/-- Among the steps about ports, what is refused is one of the tokens. -/
theorem exists_of_refuse_mem_ignorePorts {texts : List String}
    (h : Step.refuse r ∈ ignorePorts traceId chain (tokens texts)) :
    ∃ token ∈ texts, PortRange.parse (.text token) = .error (.refused r) := by
  rw [ignorePorts, List.mem_append] at h
  rcases h with h | h
  · obtain ⟨r', hr, heq⟩ := List.mem_map.mp h
    obtain ⟨token, htoken, hrefused⟩ := Port.exists_of_mem_refused hr
    obtain ⟨text, htext, rfl⟩ := List.mem_map.mp htoken
    cases heq
    exact ⟨text, htext, hrefused⟩
  · -- the steps for a group are a remark and a command
    split at h
    · simp at h
    · obtain ⟨g, -, hg⟩ := List.mem_flatMap.mp h
      unfold ignoreGroup at hg
      split at hg <;> simp at hg

/-- What is refused in a compilation is one of the policy's tokens. -/
theorem exists_of_refuse_mem_steps (h : Step.refuse r ∈ steps p traceId i) :
    ∃ token ∈ p.inboundIgnored ++ p.outboundIgnored,
      PortRange.parse (.text token) = .error (.refused r) := by
  simp only [steps, inbound, outbound, List.mem_append, refuse_not_mem_ensureChain,
    refuse_not_mem_ensureJump, refuse_not_mem_ignoreSubnets, refuse_not_mem_redirectInbound,
    refuse_not_mem_ignoreProxy, List.mem_singleton, reduceCtorEq, or_false, false_or] at h
  rcases h with h | h
  · obtain ⟨token, htoken, hrefused⟩ := exists_of_refuse_mem_ignorePorts h
    exact ⟨token, List.mem_append_left _ htoken, hrefused⟩
  · obtain ⟨token, htoken, hrefused⟩ := exists_of_refuse_mem_ignorePorts h
    exact ⟨token, List.mem_append_right _ htoken, hrefused⟩

/-- **A compilation warns about nothing but tokens that are refused.** -/
theorem exists_of_mem_warnings {listing : String} {result : Result}
    (h : ((new p traceId).compile listing).1 = .ok result) {w : String}
    (hw : w ∈ result.warnings) :
    ∃ token ∈ p.inboundIgnored ++ p.outboundIgnored, ∃ r : Port.Refusal,
      PortRange.parse (.text token) = .error (.refused r) ∧ r.warning = w := by
  obtain ⟨-, rfl⟩ := (compile_eq_ok_iff p traceId).mp h
  obtain ⟨step, hstep, hwarning⟩ := List.mem_filterMap.mp hw
  cases step with
  | refuse r =>
    obtain ⟨token, htoken, hrefused⟩ := exists_of_refuse_mem_steps hstep
    exact ⟨token, htoken, r, hrefused, Option.some.inj hwarning⟩
  | emit c => cases hwarning
  | remark text => cases hwarning
  | stop f => cases hwarning

end Compiler

namespace Script

open Shell (Says)

/-! ## Lines -/

/-- The text of lines. -/
def text (ls : List String) : List Char := ls.flatMap fun l => l.toList ++ ['\n']

theorem text_append (ls ms : List String) : text (ls ++ ms) = text ls ++ text ms :=
  List.flatMap_append

theorem toList_render (sections : List Section) (traceId : String) (simulate : Bool) :
    (render sections traceId simulate).toList = text (lines sections traceId simulate) := by
  rw [render, String.toList_join, List.flatMap_map]
  simp [text]

/-- The line is a comment. -/
def IsComment (l : String) : Prop := l.toList.head? = some '#' ∧ '\n' ∉ l.toList

/-- Comments and empty lines are read as nothing. -/
theorem says_text_of_isComment {ls : List String} (h : ∀ l ∈ ls, l = "" ∨ IsComment l) :
    Says (text ls) [] := by
  have hline : ∀ l ∈ ls, Says (l.toList ++ ['\n']) [] := by
    intro l hl
    rcases h l hl with rfl | ⟨hhead, hnewline⟩
    · exact Shell.says_blank
    · obtain ⟨rest, hrest⟩ := List.head?_eq_some_iff.mp hhead
      rw [hrest] at hnewline ⊢
      exact Shell.says_comment fun hmem => hnewline (List.mem_cons_of_mem _ hmem)
  have hnil : ls.flatMap (fun _ => ([] : List (List String))) = [] :=
    List.flatMap_eq_nil_iff.mpr fun _ _ => rfl
  rw [← hnil]
  exact Shell.says_flatMap hline

/-- The lines of commands are read as the commands. -/
theorem says_text_join {commands : List (List String)} (h : [] ∉ commands) :
    Says (text (commands.map Shell.join)) commands := by
  have hline : ∀ ws ∈ commands, Says ((Shell.join ws).toList ++ ['\n']) [ws] := fun ws hws =>
    Shell.says_join fun hnil => h (hnil ▸ hws)
  rw [text, List.flatMap_map]
  simpa using Shell.says_flatMap hline

/-! ## Sections -/

/-- What the section shows in comments stays on its line, and its commands have words. -/
structure Section.OneLine (s : Section) : Prop where
  family : '\n' ∉ s.family.toList
  binary : '\n' ∉ s.binary.toList
  saveBinary : '\n' ∉ s.saveBinary.toList
  warnings : ∀ w ∈ s.warnings, '\n' ∉ w.toList
  commands : [] ∉ s.commands

variable {s : Section}

theorem Section.OneLine.isComment_summary (h : s.OneLine) : IsComment s.summary := by
  constructor
  · simp [Section.summary]
  · simp [Section.summary, h.family, h.binary, h.saveBinary]

/-- The lines of a section are read as its commands. -/
theorem Section.OneLine.says_lines (h : s.OneLine) : Says (text s.lines) s.commands := by
  rw [Section.lines, text_append, text_append, ← List.nil_append s.commands]
  refine Says.append ?_ (says_text_join h.commands)
  rw [← text_append]
  -- what stands before the commands is an empty line, the family and the warnings
  refine says_text_of_isComment fun l hl => ?_
  rcases List.mem_append.mp hl with hl | hl
  · simp only [List.mem_cons, List.not_mem_nil, or_false] at hl
    rcases hl with rfl | rfl
    · exact Or.inl rfl
    · exact Or.inr ⟨by simp, by simp [h.family]⟩
  · obtain ⟨w, hw, rfl⟩ := List.mem_map.mp hl
    exact Or.inr ⟨by simp, by simp [h.warnings w hw]⟩

/-- The lines before those of the sections. -/
def header (sections : List Section) (traceId : String) (simulate : Bool) : List String :=
  ["#!/bin/sh", "#", "# Generated by proxy-init v" ++ version, "#", "# trace id:  " ++ traceId] ++
    sections.map Section.summary ++
    (if simulate then ["#", "# Planned with --simulate; nothing has been applied yet."] else []) ++
    ["#", ""]

theorem lines_eq_header (sections : List Section) (traceId : String) (simulate : Bool) :
    lines sections traceId simulate =
      header sections traceId simulate ++ [["set", "-e"]].map Shell.join ++
        sections.flatMap Section.lines := by
  have hset : [["set", "-e"]].map Shell.join = ["set -e"] := by decide
  rw [hset, lines, header]
  simp only [List.append_assoc]
  rfl

/-- All lines of the header are comments, or empty. -/
theorem isComment_of_mem_header {sections : List Section}
    (h : ∀ s ∈ sections, IsComment s.summary) {traceId : String}
    (htrace : '\n' ∉ traceId.toList) {simulate : Bool} {l : String}
    (hl : l ∈ header sections traceId simulate) : l = "" ∨ IsComment l := by
  have hsimulate : ∀ l ∈ ["#", "# Planned with --simulate; nothing has been applied yet."],
      IsComment l := by
    simp only [List.forall_mem_cons]
    exact ⟨⟨by decide, by decide⟩, ⟨by decide, by decide⟩, fun _ hl => nomatch hl⟩
  simp only [header, List.mem_append, List.mem_map, List.mem_cons, List.not_mem_nil, or_false] at hl
  rcases hl with (((rfl | rfl | rfl | rfl | rfl) | ⟨s, hs, rfl⟩) | hl) | rfl | rfl
  · exact Or.inr ⟨by decide, by decide⟩
  · exact Or.inr ⟨by decide, by decide⟩
  · exact Or.inr ⟨by decide, by decide⟩
  · exact Or.inr ⟨by decide, by decide⟩
  · exact Or.inr ⟨by simp, by simp [htrace]⟩
  · exact Or.inr (h s hs)
  · split at hl
    · exact Or.inr (hsimulate l hl)
    · cases hl
  · exact Or.inr ⟨by decide, by decide⟩
  · exact Or.inl rfl

/-- A script is read as what the lines of its sections are read as, after the command that lets it
end at the first failure. -/
theorem says_render {sections : List Section} {commands : Section → List (List String)}
    (hsummary : ∀ s ∈ sections, IsComment s.summary)
    (hlines : ∀ s ∈ sections, Says (text s.lines) (commands s)) {traceId : String}
    (htrace : '\n' ∉ traceId.toList) (simulate : Bool) :
    Says (render sections traceId simulate).toList
      (["set", "-e"] :: sections.flatMap commands) := by
  have hheader : Says (text (header sections traceId simulate)) [] :=
    says_text_of_isComment fun _ hl => isComment_of_mem_header hsummary htrace hl
  have hset : Says (text ([["set", "-e"]].map Shell.join)) [["set", "-e"]] :=
    says_text_join (by decide)
  have hsections : text (sections.flatMap Section.lines) =
      sections.flatMap fun s => text s.lines := List.flatMap_assoc
  rw [toList_render, lines_eq_header, text_append, text_append, hsections]
  exact (hheader.append hset).append (Shell.says_flatMap hlines)

/-- **Quoting loses nothing.** A script is read as the commands of its sections, in order and word
for word, whatever characters the words have, if the comments stay on their lines. -/
theorem read_render_sections {sections : List Section} {traceId : String}
    (htrace : '\n' ∉ traceId.toList) (h : ∀ s ∈ sections, s.OneLine) (simulate : Bool) :
    Shell.read (render sections traceId simulate) =
      some (["set", "-e"] :: sections.flatMap Section.commands) :=
  (says_render (fun s hs => (h s hs).isComment_summary) (fun s hs => (h s hs).says_lines) htrace
    simulate).read

/-- Words that would be read otherwise without quotes: an empty one, ones with blanks, quotes, line
ends, escapes and variables, and one that starts as a comment does. -/
def quotedWords : List (List String) :=
  [["echo", "", "a b", "it's", "\"quoted\"", "two\nlines\n"], ["#x", "$HOME", "`id`", "a\\"], [""]]

theorem read_render_sections_quoted :
    Shell.read (render [⟨"ipv4", "iptables", "iptables-save", quotedWords, ["$(reboot) 'a"]⟩,
        ⟨"ipv6", "ip6tables", "ip6tables-save", [["true"]], []⟩] "1700000000" true) =
      some (["set", "-e"] :: (quotedWords ++ [["true"]])) := by
  refine read_render_sections (by decide) (fun s hs => ?_) true
  simp only [List.mem_cons, List.not_mem_nil, or_false] at hs
  rcases hs with rfl | rfl
  · exact ⟨by decide, by decide, by decide, by decide, by decide⟩
  · exact ⟨by decide, by decide, by decide, by decide, by decide⟩

/-! ## Plans -/

/-- The section installs the policy, whatever is installed already, or removes a redirection. -/
def Planned (traceId : String) (p : Policy) : Run.Purpose → Section → Prop
  | .configure, s => ∃ listing result,
      ((Compiler.new p traceId).compile listing).1 = .ok result ∧
        s = ofPolicy p result.commands result.warnings
  | .cleanup, s => s = ofPolicy p Compiler.teardown []

theorem argv_ne_nil (p : Policy) (c : Command) : p.argv c ≠ [] := by
  unfold Policy.argv Policy.wrap
  split <;> split <;> simp

theorem nil_not_mem_commands (p : Policy) (commands : List Command) (warnings : List String) :
    [] ∉ (ofPolicy p commands warnings).commands := by
  intro hnil
  obtain ⟨c, -, hc⟩ := List.mem_map.mp hnil
  exact argv_ne_nil p c hc

/-- A section stays on its lines if its warnings do. -/
theorem oneLine_ofPolicy {p : Policy} {purpose : Run.Purpose} (h : p.OneLine purpose)
    (commands : List Command) {warnings : List String}
    (hwarnings : ∀ w ∈ warnings, '\n' ∉ w.toList) :
    (ofPolicy p commands warnings).OneLine where
  family := by
    cases hv : p.ipv6 <;> simp [ofPolicy, Policy.familyName, hv]
  binary := h.binary
  saveBinary := h.saveBinary
  warnings := hwarnings
  commands := nil_not_mem_commands p commands warnings

theorem Planned.oneLine {traceId : String} {p : Policy} {purpose : Run.Purpose} {s : Section}
    (h : Planned traceId p purpose s) (hp : p.OneLine purpose) : s.OneLine := by
  cases purpose with
  | cleanup =>
    rw [Planned] at h
    exact h ▸ oneLine_ofPolicy hp _ fun w hw => absurd hw List.not_mem_nil
  | configure =>
    obtain ⟨listing, result, hcompiled, rfl⟩ := h
    refine oneLine_ofPolicy hp _ fun w hw hnewline => ?_
    -- a warning with a line end is about a refused token with one
    obtain ⟨token, htoken, r, hrefused, rfl⟩ := Compiler.exists_of_mem_warnings hcompiled hw
    rw [(Port.isOf_of_parse hrefused).newline_mem_warning_iff] at hnewline
    obtain ⟨range, hrange⟩ := hp.refused rfl token htoken hnewline
    rw [hrange] at hrefused
    cases hrefused

/-- **A script runs nothing but its plan**, if what it shows in comments stays on its lines: a shell
reads it as the commands of the sections, word for word. -/
theorem read_render {sections : List Section} {traceId : String} (htrace : '\n' ∉ traceId.toList)
    (h : ∀ s ∈ sections, ∃ p purpose, Planned traceId p purpose s ∧ p.OneLine purpose)
    (simulate : Bool) :
    Shell.read (render sections traceId simulate) =
      some (["set", "-e"] :: sections.flatMap Section.commands) := by
  have honeLine : ∀ s ∈ sections, s.OneLine := by
    intro s hs
    obtain ⟨p, purpose, hplanned, hp⟩ := h s hs
    exact hplanned.oneLine hp
  exact (says_render (fun s hs => (honeLine s hs).isComment_summary)
    (fun s hs => (honeLine s hs).says_lines) htrace simulate).read

/-- A script that installs a policy with a token that is refused, and removes it again. -/
theorem read_render_sidecar :
    ∃ result, ((Compiler.new Policy.sidecar "1700000000").compile "").1 = .ok result ∧
      Shell.read (render [ofPolicy Policy.sidecar result.commands result.warnings,
          ofPolicy Policy.sidecar Compiler.teardown []] "1700000000" false) =
        some (["set", "-e"] :: (result.commands ++ Compiler.teardown).map Policy.sidecar.argv) := by
  obtain ⟨result, compiled⟩ := (Compiler.exists_compile_iff Policy.sidecar "1700000000" "").mpr
    ⟨by decide +kernel, fun _ => ⟨_, rfl⟩, fun _ => ⟨_, rfl⟩⟩
  have htokens : ∀ token ∈ Policy.sidecar.inboundIgnored ++ Policy.sidecar.outboundIgnored,
      '\n' ∉ token.toList := by decide
  have honeLine (purpose : Run.Purpose) : Policy.sidecar.OneLine purpose :=
    ⟨by decide, by decide, fun _ token htoken hnewline => absurd hnewline (htokens token htoken)⟩
  refine ⟨result, compiled, (read_render (by decide) (fun s hs => ?_) false).trans ?_⟩
  · simp only [List.mem_cons, List.not_mem_nil, or_false] at hs
    rcases hs with rfl | rfl
    · exact ⟨_, .configure, ⟨_, _, compiled, rfl⟩, honeLine _⟩
    · exact ⟨_, .cleanup, rfl, honeLine _⟩
  · simp [ofPolicy]

/-- Settings with a token of two lines that stands for no port. -/
def twoLines : Settings :=
  Settings.defaults.update [(.incomingProxyPort, .int 4143), (.outgoingProxyPort, .int 4140),
    (.inboundPortsToIgnore, .list [.text "80\nreboot #"])]

/-- The second line of a token is run as a command, which is none of the plan. -/
theorem read_render_twoLines :
    ∃ p result, ((Policy.build twoLines false).run #[]).1 = .ok p ∧
      ((Compiler.new p "1700000000").compile "").1 = .ok result ∧
      Shell.read (render [ofPolicy p result.commands result.warnings] "1700000000" false) =
        some (["set", "-e"] :: ["reboot"] :: result.commands.map p.argv) ∧
      Shell.read (render [ofPolicy p result.commands result.warnings] "1700000000" false) ≠
        some (["set", "-e"] :: result.commands.map p.argv) := by
  let p : Policy :=
    { Policy.sidecar with
      redirect := .all, uid := -1, gid := -1, redirectPorts := [], subnets := []
      inboundIgnored := ["80\nreboot #"], outboundIgnored := [], proxyLoopback := false
      binary := "iptables-legacy", saveBinary := "iptables-legacy-save" }
  have hbuilt : ((Policy.build twoLines false).run #[]).1 = .ok p := rfl
  obtain ⟨result, compiled⟩ := (Compiler.exists_compile_iff p "1700000000" "").mpr
    ⟨by decide +kernel, fun h => absurd h (by decide), fun h => absurd h (by decide)⟩
  have hwarnings : result.warnings = ["invalid port configuration of \"80\nreboot #\": " ++
      "ranges expected as <lower>-<upper>"] := by
    obtain ⟨-, rfl⟩ := (Compiler.compile_eq_ok_iff p "1700000000").mp compiled
    decide +kernel
  -- the comment ends in the middle of the warning, and the next one begins behind a command
  have hremarks : Says (text ["", "# -- ipv4 --", "# warning: invalid port configuration of " ++
      "\"80\nreboot #\": ranges expected as <lower>-<upper>"]) [["reboot"]] :=
    Shell.says_iff.mpr (by decide +kernel)
  let s := ofPolicy p result.commands result.warnings
  have hsummary : ∀ x ∈ [s], IsComment x.summary := by
    intro x hx
    have hline : s.summary =
        "# " ++ "ipv4" ++ ": " ++ "iptables-legacy" ++ " / " ++ "iptables-legacy-save" := rfl
    rw [List.mem_singleton.mp hx, hline]
    exact ⟨by decide, by decide⟩
  have hlines : ∀ x ∈ [s], Says (text x.lines) (["reboot"] :: x.commands) := by
    intro x hx
    have hcommands := says_text_join (nil_not_mem_commands p result.commands result.warnings)
    rw [List.mem_singleton.mp hx, Section.lines, text_append]
    simp only [s, ofPolicy, hwarnings]
    exact hremarks.append hcommands
  have hread : Shell.read (render [s] "1700000000" false) =
      some (["set", "-e"] :: ["reboot"] :: result.commands.map p.argv) := by
    have hsays := says_render hsummary hlines (by decide : '\n' ∉ "1700000000".toList) false
    simpa [s, ofPolicy] using hsays.read
  refine ⟨p, result, hbuilt, compiled, hread, fun hplan => ?_⟩
  -- the script has one command more than the plan
  have hlength := congrArg List.length (Option.some.inj (hread.symm.trans hplan))
  simp at hlength

end Script

end PodRedirect
