import PodRedirect.Proofs.Table.Extension

/-!
# Histories of a table

A history is any sequence of runs that install or remove redirections, for any policies. Every
command of a run may fail, and the run may end with it or go on. A run that installs a redirection
is compiled against a listing of the table as it is then.

## Main definitions

* `Table.Reachable`: the tables that histories lead to
* `Compiler.OneLine`: commands whose arguments hold no line break

## Main results

* `Compiler.linking_compile`: a compilation against a listing adds no jump that is there
* `Table.Reachable.extends`: every history keeps the invariant `Table.Extends`
-/

namespace PodRedirect

open Rule (natTable)

namespace Compiler

/-- The arguments of the commands hold no line break. -/
def OneLine (cs : List Command) : Prop := ∀ c ∈ cs, ∀ a ∈ c.args, '\n' ∉ a.toList

variable {p : Policy} {traceId : String} {i : Installed} {d e : Direction}

/-! ## The commands of a compilation -/

theorem own_of_fills {c : Command} (h : Fills traceId d c) (line : ∀ a ∈ c.args, '\n' ∉ a.toList) :
    c.Own := by
  obtain ⟨s, tag, rfl, target⟩ := h
  refine ⟨natTable, _, operation?_append d.chain traceId tag s natTable, fun _ => ?_⟩
  refine Operation.Own.fill d (fun a ha => line a ?_) target
  simp only [Rule.append, List.mem_append] at ha ⊢
  tauto

theorem own_of_drop {c : Command} (h : c ∈ drop p traceId d) : c.Own := by
  obtain ⟨chain, s, hop⟩ := operation?_drop p traceId d h
  exact ⟨Rule.filterTable, _, hop, fun htable => absurd htable (by decide)⟩

/-- The steps for a direction come to commands of a redirection. -/
theorem own_of_mem_directed {c : Command} (h : c ∈ commands (directed p traceId i d))
    (line : ∀ a ∈ c.args, '\n' ∉ a.toList) : c.Own := by
  rw [directed, commands_append, commands_append, commands_ensureChain, commands_ensureJump] at h
  rcases List.mem_append.mp h with h | h
  · rcases List.mem_append.mp h with h | h
    · rw [List.mem_singleton] at h
      subst h
      split
      · exact ⟨_, _, operation?_flushChain d.chain, fun _ => .flush d⟩
      · exact ⟨_, _, operation?_createChain d.chain, fun _ => .create d⟩
    · exact own_of_fills (fills_body p traceId d h) line
  · split at h
    · cases h
    · rcases List.mem_cons.mp h with rfl | h
      · exact ⟨_, _, operation?_link d, fun _ => .link d⟩
      · exact own_of_drop (Option.mem_toList.mp h)

theorem links_eq_false_of_fills {c : Command} (h : Fills traceId e c) : c.links d = false := by
  obtain ⟨s, tag, rfl, -⟩ := h
  simp [Command.links]

theorem links_eq_false_of_drop {c : Command} (h : c ∈ drop p traceId e) : c.links d = false := by
  obtain ⟨chain, s, hop⟩ := operation?_drop p traceId e h
  simp [Command.links, hop, Rule.filterTable, natTable]

/-- The steps for a direction add its jump, and once, if and only if it is not installed. -/
theorem countP_links_directed :
    (commands (directed p traceId i e)).countP (Command.links d) =
      if e = d ∧ i.jump d = false then 1 else 0 := by
  -- among the commands for a direction, only the one for its jump is counted
  have hensure : (commands (ensureChain e.chain (i.chain e))).countP (Command.links d) = 0 := by
    rw [commands_ensureChain]
    cases i.chain e <;> simp [Command.links]
  have hbody : (commands (body p traceId e)).countP (Command.links d) = 0 := by
    refine List.countP_eq_zero.mpr fun c hc => ?_
    simp [links_eq_false_of_fills (fills_body p traceId e hc)]
  have hdrop : (drop p traceId e).toList.countP (Command.links d) = 0 := by
    refine List.countP_eq_zero.mpr fun c hc => ?_
    simp [links_eq_false_of_drop (Option.mem_toList.mp hc)]
  rw [directed, commands_append, commands_append, List.countP_append, List.countP_append, hensure,
    hbody, commands_ensureJump]
  have hlink : Command.links d e.link = decide (e = d) := by
    simp only [Command.links, operation?_link]
    cases d <;> cases e <;> decide
  by_cases hed : e = d
  · subst hed
    cases i.jump e <;> simp [hlink, hdrop]
  · cases i.jump e <;> simp [hlink, hdrop, hed]

/-- A compilation adds the jump of a direction, and once, if and only if the scan has not seen
it. -/
theorem countP_links_compile {listing : String} {r : Result}
    (compiled : ((new p traceId).compile listing).1 = .ok r) (d : Direction) :
    r.commands.countP (Command.links d) =
      if (Installed.scan listing).jump d = false then 1 else 0 := by
  rw [commands_compile p traceId compiled, List.countP_append, countP_links_directed,
    countP_links_directed]
  cases d <;> simp

theorem exists_links_iff {listing : String} {r : Result}
    (compiled : ((new p traceId).compile listing).1 = .ok r) (d : Direction) :
    (∃ c ∈ r.commands, c.links d) ↔ (Installed.scan listing).jump d = false := by
  have hcount := countP_links_compile compiled d
  rw [← List.countP_pos_iff, hcount]
  split <;> simp [*]

/-- **A compilation against a listing adds no jump that is there**, and each of the others once. -/
theorem linking_compile {t₀ t : Table} (base : t₀.Base) (ext : t₀.Extends t) {listing : String}
    (lists : t.Lists listing) {r : Result}
    (compiled : ((new p traceId).compile listing).1 = .ok r) (line : OneLine r.commands) :
    Table.Linking t₀ t r.commands := by
  have hcommands := commands_compile p traceId compiled
  refine ⟨fun c hc => ?_, fun d => ?_, fun d hd => ?_⟩
  · have hline := line c hc
    rw [hcommands] at hc
    rcases List.mem_append.mp hc with hc | hc
    · exact own_of_mem_directed hc hline
    · exact own_of_mem_directed hc hline
  · rw [countP_links_compile compiled]
    split <;> omega
  · exact ext.scan_jump_eq_false base lists d ((exists_links_iff compiled d).mp hd)

/-- The commands that remove a redirection add no jump. -/
theorem linking_teardown (t₀ t : Table) : Table.Linking t₀ t teardown := by
  have hlinks : ∀ d, ∀ c ∈ teardown, c.links d = false := by
    intro d c hc
    simp only [teardown, List.mem_cons, List.not_mem_nil, or_false] at hc
    rcases hc with rfl | rfl | rfl | rfl | rfl | rfl <;> rfl
  refine ⟨fun c hc => ?_, fun d => ?_, fun d hd => ?_⟩
  · simp only [teardown, List.mem_cons, List.not_mem_nil, or_false] at hc
    rcases hc with rfl | rfl | rfl | rfl | rfl | rfl
    · exact ⟨_, _, rfl, fun _ => .unlink .inbound⟩
    · exact ⟨_, _, rfl, fun _ => .unlink .outbound⟩
    · exact ⟨_, _, rfl, fun _ => .flush .outbound⟩
    · exact ⟨_, _, rfl, fun _ => .flush .inbound⟩
    · exact ⟨_, _, rfl, fun _ => .remove .outbound⟩
    · exact ⟨_, _, rfl, fun _ => .remove .inbound⟩
  · rw [List.countP_eq_zero.mpr fun c hc => by simp [hlinks d c hc]]
    omega
  · obtain ⟨c, hc, hlink⟩ := hd
    rw [hlinks d c hc] at hlink
    cases hlink

end Compiler

/-! ## Reachable tables -/

namespace Table

/-- The tables that a history leads to from a table: after any runs that install a redirection, each
compiled against a listing of the table as it was then, and any runs that remove one. -/
inductive Reachable (t₀ : Table) : Table → Prop
  | start : Reachable t₀ t₀
  | configured {t u : Table} {p : Policy} {traceId listing : String} {r : Compiler.Result}
    (before : Reachable t₀ t) (lists : t.Lists listing)
    (compiled : ((Compiler.new p traceId).compile listing).1 = .ok r)
    (line : Compiler.OneLine r.commands) (run : Attempt natTable r.commands t u) : Reachable t₀ u
  | cleaned {t u : Table} (before : Reachable t₀ t) (run : Attempt natTable Compiler.teardown t u) :
    Reachable t₀ u

/-- **Every history keeps the invariant.** -/
theorem Reachable.extends {t₀ t : Table} (base : t₀.Base) (h : Reachable t₀ t) :
    Extends t₀ t := by
  induction h with
  | start => exact base.extends
  | configured before lists compiled line run ih =>
    exact run.extends base ih (Compiler.linking_compile base ih lists compiled line)
  | cleaned before run ih => exact run.extends base ih (Compiler.linking_teardown t₀ _)

/-! ## A history that is broken off -/

/-- The chains of a table without a redirection. -/
def plain : AList fun _ : String => List Spec :=
  ⟨[⟨"PREROUTING", [["-j", "KUBE-SERVICES"]]⟩, ⟨"OUTPUT", [["-j", "KUBE-SERVICES"]]⟩,
    ⟨"KUBE-SERVICES", []⟩], by unfold List.NodupKeys; decide⟩

/-- The same chains after a run that made the chain for inbound traffic, missed its first rule,
added the next one and ended there. -/
def brokenOff : AList fun _ : String => List Spec :=
  ⟨[⟨"PROXY_INIT_REDIRECT", [["-p", "all", "-j", "RETURN", "-s", "192.168.0.0/16", "-m", "comment",
      "--comment", "proxy-init/ignore-subnet-192.168.0.0/16/1700000000"]]⟩,
    ⟨"PREROUTING", [["-j", "KUBE-SERVICES"]]⟩, ⟨"OUTPUT", [["-j", "KUBE-SERVICES"]]⟩,
    ⟨"KUBE-SERVICES", []⟩], by unfold List.NodupKeys; decide⟩

theorem base_plain : Base plain.toFinmap where
  hooks := by intro d; cases d <;> decide
  chains := by intro d; cases d <;> decide
  closed := by intro d; cases d <;> decide
  noJump := by
    intro d rules hrules
    obtain rfl : [["-j", "KUBE-SERVICES"]] = rules := by
      cases d <;> exact Option.some.inj hrules
    cases d <;> decide
  readable := by
    have key : ∀ name ∈ plain.toFinmap.keys, (' ' ∉ name.toList ∧ '\n' ∉ name.toList) ∧
        ∀ s ∈ (plain.toFinmap.lookup name).getD [], ∀ a ∈ s, '\n' ∉ a.toList := by decide
    refine ⟨fun name hname => (key name (Finmap.mem_keys.mpr hname)).1, ?_⟩
    intro name rules hrules s hs
    have hname := key name (Finmap.mem_keys.mpr (mem_of_lookup hrules))
    exact hname.2 s (by rw [hrules]; exact hs)

theorem reachable_brokenOff : Reachable plain.toFinmap brokenOff.toFinmap := by
  refine .configured .start (lists_listing plain)
    ((Compiler.compile_eq_ok_iff Policy.sidecar "1700000000").mpr ⟨by decide +kernel, rfl⟩)
    (by unfold Compiler.OneLine; decide +kernel) ?_
  -- of the commands, the first and the third are obeyed
  exact attempt_iff.mpr ⟨[Rule.createChain Rule.redirectChain, Rule.ignoreSubnet "1700000000"
    Rule.redirectChain "192.168.0.0/16" "ignore-subnet-192.168.0.0/16"], by decide +kernel,
    by decide +kernel⟩

end Table

end PodRedirect
