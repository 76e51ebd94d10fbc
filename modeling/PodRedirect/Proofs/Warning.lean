import Mathlib.Data.List.TakeWhile
import PodRedirect.Proofs.Script

/-!
# Warnings of a compiler

A compiler keeps the warnings that it has given. Operations add to them, a compilation and a reset
forget the older ones first, and all others leave them alone. So after any history the warnings are
those of the operations since the last one that forgets, and what an operation gives has nothing to
do with them.

## Main definitions

* `Port.warnings`: the warnings about tokens, up to the first that cannot be read
* `Compiler.Builder`: the commands that can be asked for one by one
* `Compiler.Operation`, `Compiler.after`: an operation of a compiler, and a history of them
* `Compiler.current`: the operations since the last one that forgets

## Main results

* `Compiler.warned_steps`: the warnings of a compilation
* `Compiler.run_keeps`, `Compiler.warnings_run`: what one operation does
* `Compiler.history_immaterial`: what any history comes to
-/

namespace PodRedirect

/-! ## Tokens -/

namespace Port

/-- The token is a range, or it is refused. -/
def isLegible (token : Value) : Bool :=
  match PortRange.parse token with
  | .error (.numeral _) => false
  | _ => true

/-- The warning about a token, if it is refused. -/
def warning? (token : Value) : Option String :=
  match PortRange.parse token with
  | .error (.refused r) => some r.warning
  | _ => none

/-- The warnings about tokens, one for each that is refused, up to the first that cannot be read. -/
def warnings (tokens : List Value) : List String :=
  (tokens.takeWhile isLegible).filterMap warning?

/-- **A reading refuses the tokens that there are warnings about.** -/
theorem map_warning_refused (tokens : List Value) :
    (read tokens).refused.map Refusal.warning = warnings tokens := by
  induction tokens with
  | nil => rfl
  | cons token tokens ih =>
    rw [warnings] at ih
    rw [read, warnings, List.takeWhile_cons, isLegible]
    cases hparse : PortRange.parse token with
    | ok range => simpa [warning?, hparse] using ih
    | error fault =>
      cases fault with
      | refused r => simpa [warning?, hparse] using ih
      | numeral f => simp

/-- Where all tokens can be read, there is a warning for each that is refused. -/
theorem warnings_of_legible {texts : List String} (h : ∀ token ∈ texts, Legible token) :
    warnings (Compiler.tokens texts) = (Compiler.tokens texts).filterMap warning? := by
  have hall : ∀ token ∈ Compiler.tokens texts, isLegible token = true := by
    intro token htoken
    obtain ⟨text, htext, rfl⟩ := List.mem_map.mp htoken
    unfold isLegible
    split
    next f hf => exact absurd hf (h text htext f)
    next => rfl
  rw [warnings, List.takeWhile_eq_self_iff.mpr hall]

end Port

instance (n : Int) : Decidable (Numeral.Writable n) :=
  match h : Numeral.write n with
  | .ok text => isTrue ⟨text, h⟩
  | .error _ => isFalse fun ⟨_, ht⟩ => nomatch h.symm.trans ht

namespace Compiler

open Port (Legible)

/-! ## The warnings of steps -/

/-- The warnings of steps, up to the one that stops them. -/
def warned (ss : List Step) : List String := warningsOf (reached ss)

section Warned

variable {ss rest : List Step}

/-- What comes after steps that stop is not reached. -/
theorem warned_append_of_some {f : Numeral.Fault} (h : stopped? ss = some f) :
    warned (ss ++ rest) = warned ss := by
  induction ss with
  | nil => cases h
  | cons s ss ih =>
    cases s with
    | stop f => rfl
    | refuse r => exact congrArg (r.warning :: ·) (ih h)
    | emit c => exact ih h
    | remark text => exact ih h

theorem warned_append_of_none (h : stopped? ss = none) :
    warned (ss ++ rest) = warned ss ++ warned rest := by
  induction ss with
  | nil => rfl
  | cons s ss ih =>
    cases s with
    | stop f => cases h
    | refuse r => exact congrArg (r.warning :: ·) (ih h)
    | emit c => exact ih h
    | remark text => exact ih h

/-- Steps that give no warning may be left out behind others. -/
theorem warned_append_silent (h : warned rest = []) : warned (ss ++ rest) = warned ss := by
  cases hstopped : stopped? ss with
  | some f => exact warned_append_of_some hstopped
  | none => rw [warned_append_of_none hstopped, h, List.append_nil]

/-- Steps that refuse nothing give no warning. -/
theorem warned_eq_nil (h : ∀ r, Step.refuse r ∉ ss) : warned ss = [] := by
  induction ss with
  | nil => rfl
  | cons s ss ih =>
    have hrest := ih fun r hr => h r (List.mem_cons_of_mem _ hr)
    cases s with
    | stop f => rfl
    | refuse r => exact absurd List.mem_cons_self (h r)
    | emit c => exact hrest
    | remark text => exact hrest

theorem warned_map_refuse (rs : List Port.Refusal) :
    warned (rs.map .refuse) = rs.map Port.Refusal.warning := by
  induction rs with
  | nil => rfl
  | cons r rs ih => exact congrArg _ ih

theorem stopped?_map_refuse (rs : List Port.Refusal) : stopped? (rs.map .refuse) = none := by
  induction rs with
  | nil => rfl
  | cons r rs ih => exact ih

end Warned

variable (p : Policy) (traceId chain : String) (i : Installed)

theorem warned_ignorePorts (tokens : List Value) :
    warned (ignorePorts traceId chain tokens) = Port.warnings tokens := by
  rw [ignorePorts, warned_append_of_none (stopped?_map_refuse _), warned_map_refuse,
    Port.map_warning_refused]
  -- the groups are made of tokens that are not refused
  refine (congrArg _ (warned_eq_nil ?_)).trans (List.append_nil _)
  intro r hr
  split at hr
  · simp at hr
  · obtain ⟨g, -, hg⟩ := List.mem_flatMap.mp hr
    unfold ignoreGroup at hg
    split at hg <;> simp at hg

theorem warned_ensureChain (exists_ : Bool) : warned (ensureChain chain exists_) = [] :=
  warned_eq_nil fun _ => refuse_not_mem_ensureChain exists_

theorem warned_inbound :
    warned (inbound p traceId i) = Port.warnings (tokens p.inboundIgnored) := by
  simp only [inbound, List.append_assoc]
  rw [warned_append_of_none (stopped?_ensureChain _ _), warned_ensureChain, List.nil_append,
    warned_append_silent, warned_ignorePorts]
  -- what comes after the tokens refuses nothing
  apply warned_eq_nil
  intro r
  simp [refuse_not_mem_ignoreSubnets, refuse_not_mem_redirectInbound, refuse_not_mem_ensureJump]

/-- The numbers of the proxy's user and group can be written. -/
abbrev WritesOwners : Prop :=
  (0 < p.uid → Numeral.Writable p.uid) ∧ (0 < p.gid → Numeral.Writable p.gid)

theorem warned_outbound :
    warned (outbound p traceId i) =
      if WritesOwners p then Port.warnings (tokens p.outboundIgnored) else [] := by
  have hproxy : warned (ignoreProxy p traceId Rule.outputChain) = [] :=
    warned_eq_nil fun _ => refuse_not_mem_ignoreProxy
  have hstopped : stopped? (ignoreProxy p traceId Rule.outputChain) = none ↔ WritesOwners p :=
    stopped?_ignoreProxy_eq_none_iff p traceId Rule.outputChain
  simp only [outbound, List.append_assoc]
  rw [warned_append_of_none (stopped?_ensureChain _ _), warned_ensureChain, List.nil_append]
  by_cases howners : WritesOwners p
  · rw [if_pos howners, warned_append_of_none (hstopped.mpr howners), hproxy, List.nil_append,
      warned_append_of_none rfl, warned_append_silent, warned_ignorePorts]
    · rfl
    · apply warned_eq_nil
      intro r
      simp [refuse_not_mem_ensureJump]
  · -- the tokens are not reached
    rw [if_neg howners]
    rcases hfault : stopped? (ignoreProxy p traceId Rule.outputChain) with _ | f
    · exact absurd (hstopped.mp hfault) howners
    · rw [warned_append_of_some hfault, hproxy]

/-- The warnings of a compilation: those about inbound tokens, and then, if it gets there, those
about outbound ones. -/
def compileWarnings : List String :=
  Port.warnings (tokens p.inboundIgnored) ++
    if (∀ token ∈ p.inboundIgnored, Legible token) ∧ WritesOwners p then
      Port.warnings (tokens p.outboundIgnored)
    else []

/-- **A compilation warns about inbound tokens and then about outbound ones.** -/
theorem warned_steps : warned (steps p traceId i) = compileWarnings p := by
  have hstopped : stopped? (inbound p traceId i) = none ↔ ∀ token ∈ p.inboundIgnored, Legible token :=
    stopped?_inbound_eq_none_iff p traceId i
  rw [steps, compileWarnings]
  by_cases hlegible : ∀ token ∈ p.inboundIgnored, Legible token
  · rw [warned_append_of_none (hstopped.mpr hlegible), warned_inbound, warned_outbound]
    by_cases howners : WritesOwners p
    · rw [if_pos howners, if_pos ⟨hlegible, howners⟩]
    · rw [if_neg howners, if_neg fun h => howners h.2]
  · rw [if_neg fun h => hlegible h.1, List.append_nil]
    rcases hfault : stopped? (inbound p traceId i) with _ | f
    · exact absurd (hstopped.mp hfault) hlegible
    · rw [warned_append_of_some hfault, warned_inbound]

/-! ## Operations -/

/-- The commands that can be asked for one by one. -/
inductive Builder where
  | createChain (chain : String)
  | flushChain (chain : String)
  | deleteChain (chain : String)
  | jump (chain target tag : String)
  | deleteJump (chain target tag : String)
  | ignoreUser (chain : String) (uid : Int) (tag : String)
  | ignoreGroup (chain : String) (gid : Int) (tag : String)
  | ignoreLoopback (chain tag : String)
  | ignorePorts (chain : String) (destinations : List String) (tag : String)
  | ignoreSubnet (chain subnet tag : String)
  | redirectAll (chain : String) (port : Int) (tag : String)
  | redirectPort (chain : String) (destination port : Int) (tag : String)
  | redirectLoopback (chain target : String) (uid : Int) (tag : String)
  | dropFin (chain : String) (port : Int) (tag : String)

/-- The numbers that the command shows. -/
def Builder.numbers : Builder → List Int
  | ignoreUser _ n _ | ignoreGroup _ n _ | redirectAll _ n _ | redirectLoopback _ _ n _
  | dropFin _ n _ => [n]
  | redirectPort _ destination port _ => [destination, port]
  | _ => []

/-- The command, for the policy and the run of a compiler. -/
def Builder.rule (c : Compiler) : Builder → Command
  | createChain chain => Rule.createChain chain
  | flushChain chain => Rule.flushChain chain
  | deleteChain chain => Rule.deleteChain chain
  | jump chain target tag => Rule.jump chain target tag
  | deleteJump chain target tag => Rule.deleteJump chain target tag
  | ignoreUser chain uid tag => Rule.ignoreUser c.traceId chain uid tag
  | ignoreGroup chain gid tag => Rule.ignoreGroup c.traceId chain gid tag
  | ignoreLoopback chain tag => Rule.ignoreLoopback c.traceId chain tag
  | ignorePorts chain destinations tag => Rule.ignorePorts c.traceId chain destinations tag
  | ignoreSubnet chain subnet tag => Rule.ignoreSubnet c.traceId chain subnet tag
  | redirectAll chain port tag => Rule.redirectAll c.traceId chain port tag
  | redirectPort chain destination port tag =>
    Rule.redirectPort c.traceId chain destination port tag
  | redirectLoopback chain target uid tag =>
    Rule.redirectLoopback c.traceId c.policy.loopbackNetwork chain target uid tag
  | dropFin chain port tag => Rule.dropFin c.traceId chain port tag

/-- The command, unless one of its numbers cannot be written. -/
def Builder.command (c : Compiler) (b : Builder) : Except Failure Command := do
  let _ ← (b.numbers.mapM Numeral.write).mapError Failure.ofNumeral
  return b.rule c

/-- An operation of a compiler. -/
inductive Operation where
  | compile (listing : String)
  | teardown
  | make (b : Builder)
  | ignorePorts (tokens : List Value) (chain : String)
  | warn (text : String)
  | reset

/-- What an operation gives. -/
inductive Answer where
  | compiled (r : Result)
  | commands (cs : List Command)
  | command (c : Command)
  | nothing

/-- What an operation gives, and the compiler after it. -/
def Operation.run (c : Compiler) : Operation → Except Failure Answer × Compiler
  | compile listing =>
    let (r, c, _) := c.compile listing
    (r.map .compiled, c)
  | teardown => (.ok (.commands Compiler.teardown), c)
  | make b => ((b.command c).map .command, c)
  | ignorePorts tokens chain =>
    let (r, c, _) := c.ignoredPorts tokens chain
    (r.map .commands, c)
  | warn text => (.ok .nothing, (c.warning text).1)
  | reset => (.ok .nothing, c.reset)

/-- The compiler after operations, one after the other. -/
def after (c : Compiler) (os : List Operation) : Compiler := os.foldl (fun c o => (o.run c).2) c

/-- The operation forgets the warnings before it. -/
def Operation.forgets : Operation → Bool
  | compile _ | reset => true
  | teardown | make _ | ignorePorts _ _ | warn _ => false

/-- The operation has no part in warnings. -/
def Operation.isSilent : Operation → Bool
  | teardown | make _ => true
  | compile _ | ignorePorts _ _ | warn _ | reset => false

/-- The warnings that an operation of a compiler for the policy adds. -/
def Operation.adds (p : Policy) : Operation → List String
  | compile _ => compileWarnings p
  | ignorePorts tokens _ => Port.warnings tokens
  | warn text => [text]
  | teardown | make _ | reset => []

/-- The operations since the last one that forgets, with that one, or all if there is none. -/
def current : List Operation → List Operation
  | [] => []
  | o :: os => if os.any Operation.forgets then current os else o :: os

/-- One more operation stands alone if it forgets. -/
theorem current_append_singleton (os : List Operation) (o : Operation) :
    current (os ++ [o]) = if o.forgets then [o] else current os ++ [o] := by
  induction os with
  | nil => simp [current]
  | cons o' os ih =>
    rw [List.cons_append, current, current, ih, List.any_append]
    by_cases hforgets : o.forgets = true
    · simp [hforgets]
    · by_cases hany : os.any Operation.forgets = true
      · simp [hforgets, hany]
      · simp [hforgets, hany]

theorem after_append_singleton (c : Compiler) (os : List Operation) (o : Operation) :
    c.after (os ++ [o]) = (o.run (c.after os)).2 := by
  simp [after]

/-! ## Histories -/

variable {p traceId} {c : Compiler}

/-- The compiler is for the policy and the run, and it is flagged if it has given a warning. -/
structure Keeps (p : Policy) (traceId : String) (c : Compiler) : Prop where
  policy : c.policy = p
  traceId : c.traceId = traceId
  flagged : c.flagged = !c.warnings.isEmpty

theorem keeps_new : Keeps p traceId (new p traceId) := ⟨rfl, rfl, rfl⟩

/-- A reset leaves nothing of a history. -/
theorem Keeps.reset_eq (h : Keeps p traceId c) : c.reset = new p traceId := by
  obtain ⟨rfl, rfl, -⟩ := h
  rfl

/-- A compilation starts with a reset. -/
theorem Keeps.compile_eq (h : Keeps p traceId c) (listing : String) :
    c.compile listing = (new p traceId).compile listing := by
  unfold compile
  rw [h.reset_eq, h.policy, h.traceId]
  rfl

theorem Keeps.reset (h : Keeps p traceId c) : Keeps p traceId c.reset := by
  rw [h.reset_eq]
  exact keeps_new

/-- Further warnings flag the compiler if there are any. -/
theorem Keeps.warn (h : Keeps p traceId c) (texts : List String) :
    Keeps p traceId (c.warn texts) := by
  refine ⟨h.policy, h.traceId, ?_⟩
  show (c.flagged || !texts.isEmpty) = !(c.warnings ++ texts).isEmpty
  rw [h.flagged]
  cases c.warnings <;> simp

/-- **Every operation keeps the compiler consistent.** -/
theorem run_keeps (h : Keeps p traceId c) (o : Operation) : Keeps p traceId (o.run c).2 := by
  cases o with
  | compile listing => exact h.reset.warn _
  | teardown => exact h
  | make b => exact h
  | ignorePorts tokens chain => exact h.warn _
  | warn text => exact h.warn _
  | reset => exact h.reset

/-- **An operation adds its warnings**, after those before it unless it forgets them. -/
theorem warnings_run (h : Keeps p traceId c) (o : Operation) :
    (o.run c).2.warnings = (if o.forgets then [] else c.warnings) ++ o.adds p := by
  cases o with
  | compile listing =>
    show [] ++ warned (steps c.policy c.traceId (Installed.scan listing)) = [] ++ compileWarnings p
    rw [warned_steps, h.policy]
  | teardown => exact (List.append_nil _).symm
  | make b => exact (List.append_nil _).symm
  | ignorePorts tokens chain =>
    show c.warnings ++ warned (Compiler.ignorePorts c.traceId chain tokens) =
      c.warnings ++ Port.warnings tokens
    rw [warned_ignorePorts]
  | warn text => rfl
  | reset => rfl

/-- **What an operation gives depends on the policy and the run only.** -/
theorem answer_run (h : Keeps p traceId c) (o : Operation) :
    (o.run c).1 = (o.run (new p traceId)).1 := by
  obtain ⟨rfl, rfl, -⟩ := h
  cases o with
  | compile listing => rfl
  | teardown => rfl
  | make b => cases b <;> rfl
  | ignorePorts tokens chain => rfl
  | warn text => rfl
  | reset => rfl

/-- After any history the warnings are those of the operations since the last one that forgets. -/
theorem keeps_after (p : Policy) (traceId : String) (os : List Operation) :
    Keeps p traceId ((new p traceId).after os) ∧
      ((new p traceId).after os).warnings = (current os).flatMap (Operation.adds p) := by
  induction os using List.reverseRecOn with
  | nil => exact ⟨keeps_new, rfl⟩
  | append_singleton os o ih =>
    obtain ⟨hkeeps, hwarnings⟩ := ih
    rw [after_append_singleton, current_append_singleton]
    refine ⟨run_keeps hkeeps o, ?_⟩
    rw [warnings_run hkeeps, hwarnings]
    by_cases hforgets : o.forgets = true
    · simp [hforgets]
    · simp [hforgets]

/-- A compilation that succeeds warns about every token that is refused, and the compiler keeps
these warnings. -/
theorem warnings_of_compile {listing : String} {r : Result}
    (h : ((new p traceId).compile listing).1 = .ok r) :
    r.warnings = (tokens (p.inboundIgnored ++ p.outboundIgnored)).filterMap Port.warning? ∧
      ((new p traceId).compile listing).2.1.warnings = r.warnings := by
  obtain ⟨hlegible, howners⟩ := (exists_compile_iff p traceId listing).mp ⟨r, h⟩
  obtain ⟨hin, hout⟩ := List.forall_mem_append.mp hlegible
  obtain ⟨hstopped, rfl⟩ := (compile_eq_ok_iff p traceId).mp h
  have hsteps : warningsOf (steps p traceId (Installed.scan listing)) = compileWarnings p := by
    rw [← warned_steps p traceId (Installed.scan listing), warned, reached_of_stopped? hstopped]
  have hcompile : compileWarnings p =
      (tokens (p.inboundIgnored ++ p.outboundIgnored)).filterMap Port.warning? := by
    rw [compileWarnings, if_pos ⟨hin, howners⟩, Port.warnings_of_legible hin,
      Port.warnings_of_legible hout, ← List.filterMap_append, tokens, tokens, tokens, List.map_append]
  refine ⟨hsteps.trans hcompile, ?_⟩
  show [] ++ warned (steps p traceId (Installed.scan listing)) = _
  rw [warned_steps, List.nil_append]
  exact hsteps.symm

/-- **What a compiler gives and warns about does not depend on its history.** After any operations it
is flagged exactly if it keeps a warning, and the warnings that it keeps are those of the operations
since the last one that forgets. Every operation gives what it gives at first, and a compilation
leaves the compiler as the first one does; if it succeeds, it warns about every token that is
refused, the inbound ones before the outbound ones, and the compiler keeps these warnings only.
Commands to remove a redirection and single commands leave the compiler as it is. -/
theorem history_immaterial (p : Policy) (traceId : String) (os : List Operation) :
    let c := (new p traceId).after os
    (c.flagged = true ↔ c.warnings ≠ []) ∧
    c.warnings = (current os).flatMap (Operation.adds p) ∧
    (∀ o : Operation, (o.run c).1 = (o.run (new p traceId)).1) ∧
    (∀ listing, c.compile listing = (new p traceId).compile listing ∧
      ∀ r, (c.compile listing).1 = .ok r →
        r.warnings = (tokens (p.inboundIgnored ++ p.outboundIgnored)).filterMap Port.warning? ∧
        (c.compile listing).2.1.warnings = r.warnings) ∧
    ∀ o : Operation, o.isSilent = true → (o.run c).2 = c := by
  intro c
  obtain ⟨hkeeps, hwarnings⟩ := keeps_after p traceId os
  refine ⟨?_, hwarnings, answer_run hkeeps, ?_, ?_⟩
  · rw [hkeeps.flagged]
    simp [c]
  · intro listing
    rw [hkeeps.compile_eq listing]
    exact ⟨rfl, fun r hr => warnings_of_compile hr⟩
  · intro o hsilent
    cases o with
    | teardown => rfl
    | make b => rfl
    | compile _ => cases hsilent
    | ignorePorts _ _ => cases hsilent
    | warn _ => cases hsilent
    | reset => cases hsilent

/-- Operations of all kinds but a reset. The first of them are forgotten by a compilation. -/
def operations : List Operation :=
  [.warn "the listing is empty", .ignorePorts [.text "80-70000"] Rule.redirectChain, .compile "",
    .teardown, .ignorePorts [.int 443, .int 70000] Rule.outputChain, .make (.flushChain "OTHER")]

/-- After these operations, the compiler keeps the warning of the compilation and a later one. Another
compilation forgets the later one. -/
theorem history_immaterial_sidecar :
    let c := (new Policy.sidecar "1700000000").after operations
    c.flagged = true ∧
    c.warnings =
      ["invalid port configuration of \"none\": ranges expected as <lower>-<upper>",
        "invalid port configuration of \"70000\": \"70000\" is not a valid TCP port"] ∧
    ∃ r, (c.compile "").1 = .ok r ∧
      r.warnings = ["invalid port configuration of \"none\": ranges expected as <lower>-<upper>"] ∧
      (c.compile "").2.1.warnings = r.warnings := by
  intro c
  obtain ⟨hflagged, hwarnings, -, hcompile, -⟩ :=
    history_immaterial Policy.sidecar "1700000000" operations
  have hkept : c.warnings = _ := hwarnings.trans (by decide +kernel :
    (current operations).flatMap (Operation.adds Policy.sidecar) =
      ["invalid port configuration of \"none\": ranges expected as <lower>-<upper>",
        "invalid port configuration of \"70000\": \"70000\" is not a valid TCP port"])
  obtain ⟨heq, hfresh⟩ := hcompile ""
  obtain ⟨r, hr⟩ := (exists_compile_iff Policy.sidecar "1700000000" "").mpr (by decide +kernel)
  refine ⟨hflagged.mpr ?_, hkept, r, heq ▸ hr, ?_⟩
  · show c.warnings ≠ []
    rw [hkept]
    exact List.cons_ne_nil _ _
  · obtain ⟨hrefused, hkeeps⟩ := hfresh r (heq ▸ hr)
    exact ⟨hrefused.trans (by decide +kernel), hkeeps⟩

end Compiler

end PodRedirect
