import PodRedirect.Proofs.Warning

/-!
# The mark of a run

A run may have a name, and then the comment of every rule that it appends ends with this name, so
that rules of different runs can be told apart. The jumps that install a redirection are left out,
since they are removed by exactly what they were added by. Nothing else of a compilation depends on
the name of the run.

## Main definitions

* `Command.bearsMark`: the command appends a rule that is marked
* `Command.marked`: a command with the mark of a run
* `Compiler.removal`: what is asked of a compiler to remove a redirection

## Main results

* `Compiler.steps_eq_map_marked`: the steps of a named run are those of a run without a name, marked
* `Compiler.commented_of_mem_compile`: every rule that is appended ends in its comment
* `Compiler.name_only_marks`: what the name of a run changes
-/

namespace PodRedirect

open Rule (natTable)

/-! ## Marked commands -/

namespace Command

/-- The command appends a rule, and is not one of the jumps that install a redirection. -/
def bearsMark (c : Command) : Bool :=
  c.kind = .append && c ≠ Direction.inbound.link && c ≠ Direction.outbound.link

/-- The command with its last argument made longer. -/
def extended (c : Command) (text : String) : Command :=
  { c with args := c.args.dropLast ++ c.args.getLast?.toList.map (· ++ text) }

/-- The command with the mark of the run with the given name, if it has one. -/
def marked (traceId : String) (c : Command) : Command :=
  if c.bearsMark && !traceId.isEmpty then c.extended ("/" ++ traceId) else c

/-- The command adds a rule or removes one. -/
def IsRule (c : Command) : Prop := c.kind = .append ∨ c.kind = .deleteRule

/-- The arguments end in the comment for the tag of the command, with the mark of the run if it
bears one. -/
def Commented (traceId : String) (c : Command) : Prop :=
  commentArgs c.tag (if c.bearsMark then traceId else "") <:+ c.args

variable {traceId table chain tag : String} {s : List String} {c : Command}

@[simp] theorem marked_kind (traceId : String) (c : Command) :
    (c.marked traceId).kind = c.kind := by
  unfold marked
  split <;> rfl

@[simp] theorem marked_tag (traceId : String) (c : Command) : (c.marked traceId).tag = c.tag := by
  unfold marked
  split <;> rfl

/-- Without a name there is no mark. -/
@[simp] theorem marked_empty (c : Command) : c.marked "" = c := by
  rw [marked, show "".isEmpty = true from rfl, Bool.not_true, Bool.and_false]
  exact if_neg Bool.false_ne_true

theorem marked_of_not_bearsMark (h : c.bearsMark = false) : c.marked traceId = c := by
  rw [marked, h, Bool.false_and]
  exact if_neg Bool.false_ne_true

theorem bearsMark_of_kind_ne (h : c.kind ≠ .append) : c.bearsMark = false := by
  rw [bearsMark, decide_eq_false h, Bool.false_and, Bool.false_and]

@[simp] theorem bearsMark_link (d : Direction) : d.link.bearsMark = false := by
  cases d <;> rfl

/-- A rule that is appended elsewhere than to a chain that packets come through is no jump of a
redirection. -/
theorem bearsMark_append (h : table = natTable → ∀ d : Direction, chain ≠ d.hook) :
    (Rule.append traceId table chain s tag).bearsMark = true := by
  have hlink : ∀ d : Direction, Rule.append traceId table chain s tag ≠ d.link := by
    intro d heq
    have hargs := congrArg Command.args heq
    simp only [Rule.append, Direction.link, Rule.jump, Rule.jumpSpec, List.cons_append,
      List.nil_append, List.cons.injEq] at hargs
    exact h hargs.2.1 d hargs.2.2.2.1
  simp only [bearsMark, hlink, ne_eq, not_false_eq_true, decide_true, Bool.and_true]
  rfl

/-- The comment of a named run is that of a run without a name, and the name behind it. -/
theorem comment_eq_append (h : traceId.isEmpty = false) :
    comment tag traceId = comment tag "" ++ ("/" ++ traceId) := by
  rw [comment, comment, h, if_neg Bool.false_ne_true,
    if_pos (show "".isEmpty = true from rfl), String.append_empty]

/-- **A rule of a named run is that of a run without a name, marked.** -/
theorem marked_append (h : table = natTable → ∀ d : Direction, chain ≠ d.hook) :
    (Rule.append "" table chain s tag).marked traceId = Rule.append traceId table chain s tag := by
  by_cases hname : traceId.isEmpty = true
  · rw [String.isEmpty_iff.mp hname, marked_empty]
  · rw [Bool.not_eq_true] at hname
    have hargs : ∀ t, (Rule.append t table chain s tag).args =
        (["-t", table, "-A", chain] ++ s ++ ["-m", "comment", "--comment"]) ++ [comment tag t] :=
      fun t => by simp [Rule.append, commentArgs]
    -- the comment is the last argument
    rw [marked, bearsMark_append h, hname, Bool.not_false, Bool.and_true, if_pos rfl, extended,
      hargs, List.dropLast_concat, List.getLast?_concat, Option.toList_some, List.map_singleton,
      ← comment_eq_append hname, ← hargs]
    rfl

theorem commented_append (h : table = natTable → ∀ d : Direction, chain ≠ d.hook) :
    (Rule.append traceId table chain s tag).Commented traceId := by
  rw [Commented, bearsMark_append h, if_pos rfl]
  exact List.suffix_append _ _

theorem commented_link (d : Direction) : d.link.Commented traceId := by
  rw [Commented, bearsMark_link, if_neg Bool.false_ne_true]
  exact List.suffix_append ["-t", natTable, "-A", d.hook, "-j", d.chain] _

theorem commented_unlink (d : Direction) : d.unlink.Commented traceId := by
  have hkind : d.unlink.kind ≠ .append := fun h => Command.Kind.noConfusion h
  rw [Commented, bearsMark_of_kind_ne hkind, if_neg Bool.false_ne_true]
  exact List.suffix_append ["-t", natTable, "-D", d.hook, "-j", d.chain] _

end Command

/-! ## Marked steps -/

namespace Compiler

open Command (marked marked_append marked_of_not_bearsMark bearsMark_of_kind_ne)

/-- The step with the mark of a run, if it comes to a command. -/
def Step.marked (traceId : String) : Step → Step
  | .emit c => .emit (c.marked traceId)
  | s => s

section Steps

variable {traceId : String} {ss : List Step}

theorem commands_map_marked :
    commands (ss.map (Step.marked traceId)) = (commands ss).map (Command.marked traceId) := by
  induction ss with
  | nil => rfl
  | cons s ss ih =>
    cases s with
    | emit c => exact congrArg (c.marked traceId :: ·) ih
    | remark _ | refuse _ | stop _ => exact ih

theorem warningsOf_map_marked : warningsOf (ss.map (Step.marked traceId)) = warningsOf ss := by
  induction ss with
  | nil => rfl
  | cons s ss ih =>
    cases s with
    | refuse r => exact congrArg (r.warning :: ·) ih
    | emit _ | remark _ | stop _ => exact ih

theorem entries_map_marked : entries (ss.map (Step.marked traceId)) = entries ss := by
  induction ss with
  | nil => rfl
  | cons s ss ih =>
    cases s with
    | remark text => exact congrArg (⟨.rules, .debug, text⟩ :: ·) ih
    | refuse r => exact congrArg (⟨.compiler, .warning, r.warning⟩ :: ·) ih
    | emit _ | stop _ => exact ih

theorem stopped?_map_marked : stopped? (ss.map (Step.marked traceId)) = stopped? ss := by
  induction ss with
  | nil => rfl
  | cons s ss ih =>
    cases s with
    | stop f => rfl
    | emit _ | remark _ | refuse _ => exact ih

theorem reached_map_marked :
    reached (ss.map (Step.marked traceId)) = (reached ss).map (Step.marked traceId) := by
  induction ss with
  | nil => rfl
  | cons s ss ih =>
    cases s with
    | stop f => rfl
    | emit _ | remark _ | refuse _ => exact congrArg (_ :: ·) ih

end Steps

/-! ## The steps of a named run -/

section Named

variable {p : Policy} {traceId chain : String} {i : Installed} {d : Direction}

@[simp] theorem map_marked_ensureChain (exists_ : Bool) :
    (ensureChain chain exists_).map (Step.marked traceId) = ensureChain chain exists_ := by
  have hcreate : (Rule.createChain chain).marked traceId = Rule.createChain chain :=
    marked_of_not_bearsMark (bearsMark_of_kind_ne nofun)
  have hflush : (Rule.flushChain chain).marked traceId = Rule.flushChain chain :=
    marked_of_not_bearsMark (bearsMark_of_kind_ne nofun)
  cases exists_ <;> simp [ensureChain, Step.marked, hcreate, hflush]

@[simp] theorem map_marked_ensureJump (exists_ : Bool) (drop : Option Command) :
    (ensureJump d.hook d.chain d.tag exists_ drop).map (Step.marked traceId) =
      ensureJump d.hook d.chain d.tag exists_ (drop.map (Command.marked traceId)) := by
  have hlink : (Rule.jump d.hook d.chain d.tag).marked traceId = Rule.jump d.hook d.chain d.tag :=
    marked_of_not_bearsMark (Command.bearsMark_link d)
  cases exists_ <;> cases drop <;> simp [ensureJump, Step.marked, hlink]

@[simp] theorem map_marked_refuse (rs : List Port.Refusal) :
    (rs.map Step.refuse).map (Step.marked traceId) = rs.map Step.refuse := by
  rw [List.map_map]
  rfl

/-- The commands about a number are marked if it can be written. -/
theorem map_marked_emitFor (number : Int) (cs : List Command) :
    (emitFor number cs).map (Step.marked traceId) =
      emitFor number (cs.map (Command.marked traceId)) := by
  unfold emitFor
  cases Numeral.write number with
  | error f => rfl
  | ok text =>
    dsimp only
    rw [List.map_map, List.map_map]
    rfl

-- what follows is about the rules of chains that no packets come through by themselves
variable (own : ∀ d : Direction, chain ≠ d.hook)

include own

theorem marked_rule (s : List String) (tag : String) :
    (Rule.append "" natTable chain s tag).marked traceId =
      Rule.append traceId natTable chain s tag :=
  marked_append fun _ => own

theorem map_marked_ignoreGroup (destinations : List String) :
    (ignoreGroup "" chain destinations).map (Step.marked traceId) =
      ignoreGroup traceId chain destinations := by
  unfold ignoreGroup
  split
  · rfl
  · simp only [List.map_cons, List.map_nil, Step.marked, Rule.ignorePorts, marked_rule own]

theorem map_marked_ignorePorts (tokens : List Value) :
    (ignorePorts "" chain tokens).map (Step.marked traceId) =
      ignorePorts traceId chain tokens := by
  rw [ignorePorts, ignorePorts, List.map_append, map_marked_refuse]
  cases Port.multiport Port.referenceLimit tokens with
  | error f => rfl
  | ok groups =>
    dsimp only
    rw [List.map_flatMap]
    simp only [map_marked_ignoreGroup own]

theorem map_marked_ignoreSubnets (subnets : List String) :
    (ignoreSubnets "" chain subnets).map (Step.marked traceId) =
      ignoreSubnets traceId chain subnets := by
  rw [ignoreSubnets, ignoreSubnets, List.map_map]
  exact List.map_congr_left fun subnet _ => congrArg Step.emit (marked_rule own _ _)

theorem map_marked_redirectInbound :
    (redirectInbound p "" chain).map (Step.marked traceId) = redirectInbound p traceId chain := by
  unfold redirectInbound
  cases p.redirect with
  | all => simp only [List.map_cons, List.map_nil, Step.marked, Rule.redirectAll, marked_rule own]
  | listed =>
    dsimp only
    rw [List.map_cons, List.map_map]
    refine congrArg (_ :: ·) (List.map_congr_left fun port _ => ?_)
    exact congrArg Step.emit (marked_rule own _ _)

theorem map_marked_ignoreProxy :
    (ignoreProxy p "" chain).map (Step.marked traceId) = ignoreProxy p traceId chain := by
  unfold ignoreProxy
  rw [List.map_append]
  congr 1
  · split
    · rw [map_marked_emitFor]
      cases p.proxyLoopback <;> simp [Rule.redirectLoopback, Rule.ignoreUser, marked_rule own]
    · rfl
  · split
    · rw [map_marked_emitFor]
      simp only [List.map_cons, List.map_nil, Rule.ignoreGroup, marked_rule own]
    · rfl

omit own

theorem map_marked_body :
    (body p "" d).map (Step.marked traceId) = body p traceId d := by
  have hin : ∀ e : Direction, Rule.redirectChain ≠ e.hook := Direction.chain_ne_hook .inbound
  have hout : ∀ e : Direction, Rule.outputChain ≠ e.hook := Direction.chain_ne_hook .outbound
  cases d with
  | inbound =>
    simp only [body, List.map_append, map_marked_ignorePorts hin, map_marked_ignoreSubnets hin,
      map_marked_redirectInbound hin]
  | outbound =>
    simp only [body, List.map_append, List.map_cons, List.map_nil, map_marked_ignoreProxy hout,
      map_marked_ignorePorts hout, Step.marked, Rule.ignoreLoopback, Rule.redirectAll,
      marked_rule hout]

/-- The rule that drops packets is no jump: it is one of another table. -/
theorem exists_of_mem_drop {c : Command} (h : c ∈ drop p traceId d) :
    ∃ chain s tag, c = Rule.append traceId Rule.filterTable chain s tag := by
  cases d <;>
    simp only [drop, Option.mem_def, Option.ite_none_right_eq_some, Option.some.injEq] at h <;>
    exact ⟨_, _, _, h.2.symm⟩

theorem map_marked_drop :
    (drop p "" d).map (Command.marked traceId) = drop p traceId d := by
  have hfilter : ∀ chain s tag, (Rule.append "" Rule.filterTable chain s tag).marked traceId =
      Rule.append traceId Rule.filterTable chain s tag :=
    fun _ _ _ => marked_append fun htable => absurd htable (by decide)
  cases d <;> unfold drop <;> split <;> simp [Rule.dropFin, hfilter]

/-- **The steps of a named run are those of a run without a name, marked.** -/
theorem steps_eq_map_marked (p : Policy) (traceId : String) (i : Installed) :
    steps p traceId i = (steps p "" i).map (Step.marked traceId) := by
  simp only [steps_eq_directed, directed, List.map_append, map_marked_ensureChain, map_marked_body,
    map_marked_ensureJump, map_marked_drop]

/-! ## Comments -/

/-- Every rule that the steps for a direction add ends in its comment. -/
theorem commented_of_mem_directed {c : Command} (h : c ∈ commands (directed p traceId i d))
    (rule : c.IsRule) : c.Commented traceId := by
  rw [directed, commands_append, commands_append, commands_ensureChain, commands_ensureJump] at h
  rcases List.mem_append.mp h with h | h
  · rcases List.mem_append.mp h with h | h
    · -- a command on the chain itself is about no rule
      rw [List.mem_singleton] at h
      subst h
      split at rule <;> rcases rule with rule | rule <;> cases rule
    · obtain ⟨s, tag, rfl, -⟩ := fills_body p traceId d h
      exact Command.commented_append fun _ => Direction.chain_ne_hook d
  · split at h
    · cases h
    · rcases List.mem_cons.mp h with rfl | h
      · exact Command.commented_link d
      · obtain ⟨chain, s, tag, rfl⟩ := exists_of_mem_drop (Option.mem_toList.mp h)
        exact Command.commented_append fun htable => absurd htable (by decide)

theorem commented_of_mem_compile {listing : String} {r : Result}
    (h : ((new p traceId).compile listing).1 = .ok r) {c : Command} (hc : c ∈ r.commands)
    (rule : c.IsRule) : c.Commented traceId := by
  rw [commands_compile p traceId h, List.mem_append] at hc
  exact hc.elim (commented_of_mem_directed · rule) (commented_of_mem_directed · rule)

/-- Every rule that is removed is told by its comment too. -/
theorem commented_of_mem_teardown {c : Command} (hc : c ∈ teardown) (rule : c.IsRule) :
    c.Commented traceId := by
  simp only [teardown, List.mem_cons, List.not_mem_nil, or_false] at hc
  rcases hc with rfl | rfl | rfl | rfl | rfl | rfl
  · exact Command.commented_unlink .inbound
  · exact Command.commented_unlink .outbound
  all_goals rcases rule with rule | rule <;> cases rule

end Named

/-! ## Compilations -/

/-- What is asked of a compiler, command by command, to remove a redirection. -/
def removal : List Builder :=
  [.deleteJump Rule.prerouting Rule.redirectChain Rule.preroutingTag,
    .deleteJump Rule.output Rule.outputChain Rule.outputTag,
    .flushChain Rule.outputChain, .flushChain Rule.redirectChain,
    .deleteChain Rule.outputChain, .deleteChain Rule.redirectChain]

/-- A compilation for a named run, as a whole. -/
theorem compile_eq_marked (p : Policy) (traceId listing : String) :
    (new p traceId).compile listing =
      let (result, c, said) := (new p "").compile listing
      (result.map fun r => { r with commands := r.commands.map (Command.marked traceId) },
        { c with traceId := traceId }, said) := by
  simp only [compile, take, new, reset, warn, steps_eq_map_marked p traceId,
    stopped?_map_marked, reached_map_marked, commands_map_marked, warningsOf_map_marked,
    entries_map_marked]
  cases stopped? (steps p "" (Installed.scan listing)) <;> rfl

/-- **The name of a run only marks the comments of rules.** A compilation for a named run gives what
one for a run without a name gives, with the mark on every rule that is appended but the jumps, and
warns, logs and fails alike. The commands that remove a redirection are the same for all runs,
whatever the compiler has done before. Every rule that is added or removed ends in its comment. -/
theorem name_only_marks (p : Policy) (traceId listing : String) :
    ((new p traceId).compile listing =
      let (result, c, said) := (new p "").compile listing
      (result.map fun r => { r with commands := r.commands.map (Command.marked traceId) },
        { c with traceId := traceId }, said)) ∧
    (∀ r, ((new p traceId).compile listing).1 = .ok r →
      ∀ c ∈ r.commands, c.IsRule → c.Commented traceId) ∧
    (∀ os, let c := (new p traceId).after os
      (Operation.teardown.run c).1 = .ok (.commands teardown) ∧
        removal.map (Builder.rule c) = teardown) ∧
    ∀ c ∈ teardown, c.IsRule → c.Commented traceId :=
  ⟨compile_eq_marked p traceId listing, fun _ h _ hc => commented_of_mem_compile h hc,
    fun _ => ⟨rfl, rfl⟩, fun _ hc => commented_of_mem_teardown hc⟩

/-- A rule for a network, of which the comment ends with the mark, and a command that removes a
jump, of which it does not. -/
theorem name_only_marks_sidecar :
    ∃ r c, ((new Policy.sidecar "1700000000").compile "").1 = .ok r ∧ c ∈ r.commands ∧ c.IsRule ∧
      c.args.getLast? = some "proxy-init/ignore-subnet-192.168.0.0/16/1700000000" ∧
      c.Commented "1700000000" ∧
      Direction.inbound.unlink ∈ teardown ∧ Direction.inbound.unlink.IsRule ∧
      Direction.inbound.unlink.args.getLast? = some "proxy-init/install-proxy-init-prerouting" ∧
      Direction.inbound.unlink.Commented "1700000000" := by
  obtain ⟨-, hcompiled, -, hteardown⟩ := name_only_marks Policy.sidecar "1700000000" ""
  have hr := (@compile_eq_ok_iff Policy.sidecar "1700000000" "" _).mpr ⟨by decide +kernel, rfl⟩
  have hrule : Rule.ignoreSubnet "1700000000" Rule.redirectChain "192.168.0.0/16"
      "ignore-subnet-192.168.0.0/16" ∈
        commands (steps Policy.sidecar "1700000000" (Installed.scan "")) := by decide +kernel
  have hunlink : Direction.inbound.unlink ∈ teardown := List.mem_cons_self
  exact ⟨_, _, hr, hrule, Or.inl rfl, by decide, hcompiled _ hr _ hrule (Or.inl rfl), hunlink,
    Or.inr rfl, by decide, hteardown _ hunlink (Or.inr rfl)⟩

end Compiler

end PodRedirect
