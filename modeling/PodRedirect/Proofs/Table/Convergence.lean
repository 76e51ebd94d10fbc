import PodRedirect.Proofs.Table.History

/-!
# Convergence

A run that installs a policy and in which no command fails on its own account leads to the same
table from wherever a history may have led: the table at the start, with the rules of the policy in
the two chains of the redirection and one jump to each of them.

## Main definitions

* `Table.Redirects`: a table is another one with a redirection

## Main results

* `Table.Redirects.unique`: a redirection over a table is determined by its rules
* `Table.obeyAll_compile`: the run, from any table with parts of a redirection
* `Table.configure_converges`: the run, after any history
-/

namespace PodRedirect

open Rule (natTable)
open Compiler (Result Fills new body directed drop commands ensureChain ensureJump)

namespace Table

variable {t₀ t u : Table} {p : Policy} {traceId : String} {i : Installed} {d : Direction}

/-! ## A table with a redirection -/

/-- A table with the given rules in the chain of a direction and in the one that its packets come
through. -/
def withDirection (t : Table) (d : Direction) (rules hooked : List Spec) : Table :=
  (t.insert d.chain rules).insert d.hook hooked

/-- The chain that the packets of a direction come through, with the jump of the direction at its
end. -/
def hooked (t : Table) (d : Direction) : List Spec := (t.lookup d.hook).getD [] ++ [d.jump]

section WithDirections

variable (t : Table) (rules hooks : Direction → List Spec)

theorem lookup_withDirection_of_ne {name : String} (hchain : name ≠ d.chain)
    (hhook : name ≠ d.hook) (r h : List Spec) :
    (t.withDirection d r h).lookup name = t.lookup name := by
  rw [withDirection, Finmap.lookup_insert_of_ne _ hhook, Finmap.lookup_insert_of_ne _ hchain]

theorem lookup_withDirection_chain (r h : List Spec) :
    (t.withDirection d r h).lookup d.chain = some r := by
  rw [withDirection, Finmap.lookup_insert_of_ne _ (Direction.chain_ne_hook d d),
    Finmap.lookup_insert]

theorem lookup_withDirection_hook (r h : List Spec) :
    (t.withDirection d r h).lookup d.hook = some h := by
  rw [withDirection, Finmap.lookup_insert]

/-- Both directions, one after the other. -/
theorem lookup_withDirections_chain (d : Direction) :
    ((t.withDirection .inbound (rules .inbound) (hooks .inbound)).withDirection .outbound
      (rules .outbound) (hooks .outbound)).lookup d.chain = some (rules d) := by
  cases d with
  | inbound => rw [lookup_withDirection_of_ne _ (by decide) (by decide), lookup_withDirection_chain]
  | outbound => rw [lookup_withDirection_chain]

theorem lookup_withDirections_hook (d : Direction) :
    ((t.withDirection .inbound (rules .inbound) (hooks .inbound)).withDirection .outbound
      (rules .outbound) (hooks .outbound)).lookup d.hook = some (hooks d) := by
  cases d with
  | inbound => rw [lookup_withDirection_of_ne _ (by decide) (by decide), lookup_withDirection_hook]
  | outbound => rw [lookup_withDirection_hook]

theorem lookup_withDirections_of_ne {name : String}
    (hname : ∀ d : Direction, name ≠ d.chain ∧ name ≠ d.hook) :
    ((t.withDirection .inbound (rules .inbound) (hooks .inbound)).withDirection .outbound
      (rules .outbound) (hooks .outbound)).lookup name = t.lookup name := by
  rw [lookup_withDirection_of_ne _ (hname .outbound).1 (hname .outbound).2,
    lookup_withDirection_of_ne _ (hname .inbound).1 (hname .inbound).2]

end WithDirections

/-- Tables are the same if they agree on the parts of a redirection and on everything else. -/
theorem ext_parts (hchain : ∀ d : Direction, t.lookup d.chain = u.lookup d.chain)
    (hhook : ∀ d : Direction, t.lookup d.hook = u.lookup d.hook)
    (hforeign : ∀ name, (∀ d : Direction, name ≠ d.chain ∧ name ≠ d.hook) →
      t.lookup name = u.lookup name) : t = u := by
  refine Finmap.ext_lookup fun name => ?_
  rcases Direction.name_cases name with ⟨d, rfl⟩ | ⟨d, rfl⟩ | hname
  · exact hchain d
  · exact hhook d
  · exact hforeign name hname

/-- The table is another one with a redirection: two chains with the given rules, one jump to each
at the end of a chain that packets come through, and nothing else that is new. -/
structure Redirects (t₀ : Table) (rules : Direction → List Spec) (u : Table) : Prop where
  chains : ∀ d : Direction, u.lookup d.chain = some (rules d)
  hooks : ∀ d : Direction, ∃ old, t₀.lookup d.hook = some old ∧ d.jump ∉ old ∧
    u.lookup d.hook = some (old ++ [d.jump])
  foreign : ∀ name, (∀ d : Direction, name ≠ d.chain ∧ name ≠ d.hook) →
    u.lookup name = t₀.lookup name

/-- A redirection over a table is determined by its rules. -/
theorem Redirects.unique {rules : Direction → List Spec} (h : Redirects t₀ rules t)
    (h' : Redirects t₀ rules u) : t = u := by
  refine ext_parts (fun d => ?_) (fun d => ?_) fun name hname => ?_
  · rw [h.chains, h'.chains]
  · obtain ⟨old, hold, -, hhook⟩ := h.hooks d
    obtain ⟨old', hold', -, hhook'⟩ := h'.hooks d
    obtain rfl : old = old' := Option.some.inj (hold.symm.trans hold')
    rw [hhook, hhook']
  · rw [h.foreign name hname, h'.foreign name hname]

/-! ## The run for a direction -/

/-- The chain is empty after the command that makes or empties it, as long as that is chosen by
whether the chain is there. -/
theorem obeyAll_ensureChain (hchain : i.chain d = true ↔ d.chain ∈ t) :
    obeyAll natTable t (commands (ensureChain d.chain (i.chain d))) =
      some (t.insert d.chain []) := by
  rw [Compiler.commands_ensureChain, obeyAll_cons]
  by_cases h : d.chain ∈ t
  · rw [if_pos (hchain.mpr h), obey_of_operation (operation?_flushChain _),
      Operation.perform_flush.mpr ⟨h, rfl⟩]
    rfl
  · rw [if_neg fun hi => h (hchain.mp hi), obey_of_operation (operation?_createChain _),
      Operation.perform_create.mpr ⟨h, rfl⟩]
    rfl

/-- The commands that fill a chain add their rules to it, in order. -/
theorem obeyAll_fill {cs : List Command} (fills : ∀ c ∈ cs, Fills traceId d c)
    (target : d = .outbound → Direction.inbound.chain ∈ t) (rules : List Spec) :
    obeyAll natTable (t.insert d.chain rules) cs =
      some (t.insert d.chain (rules ++ appended natTable d.chain cs)) := by
  -- every command adds to the rules so far, so the induction is for any of them
  induction cs generalizing rules with
  | nil => rw [obeyAll_nil, appended_nil, List.append_nil]
  | cons c cs ih =>
    obtain ⟨s, tag, rfl, htarget⟩ := fills c List.mem_cons_self
    have hop := operation?_append d.chain traceId tag s natTable
    have hadmits : Admits (t.insert d.chain rules) (s ++ Command.commentArgs tag traceId) := by
      intro x hx
      rcases htarget x hx with hx | ⟨hd, rfl⟩
      · exact Or.inl hx
      · exact Or.inr (Finmap.mem_insert.mpr (Or.inr (target hd)))
    have hperform := Operation.perform_append.mpr
      ⟨rules, Finmap.lookup_insert t, hadmits, rfl⟩
    have happended : appended natTable d.chain
        (Rule.append traceId natTable d.chain s tag :: cs) =
          (s ++ Command.commentArgs tag traceId) :: appended natTable d.chain cs := by
      simp [appended, appended?]
    rw [obeyAll_cons, obey_of_operation hop, hperform, Finmap.insert_insert, happended]
    exact (ih (fun x hx => fills x (List.mem_cons_of_mem _ hx)) _).trans (by simp)

/-- Commands on other tables change nothing. -/
theorem obeyAll_drop : obeyAll natTable t (drop p traceId d).toList = some t := by
  cases h : drop p traceId d with
  | none => rfl
  | some c =>
    obtain ⟨chain, s, hop⟩ := Compiler.operation?_drop p traceId d h
    rw [Option.toList_some, obeyAll_cons, obey_of_other hop (by decide)]
    rfl

/-- The jump is there after the command that adds it, as long as that is left out only if the jump
is there. -/
theorem obeyAll_ensureJump {old : List Spec} (hchain : d.chain ∈ t)
    (hhook : t.lookup d.hook = some (if i.jump d then old ++ [d.jump] else old)) :
    obeyAll natTable t
        (commands (ensureJump d.hook d.chain d.tag (i.jump d) (drop p traceId d))) =
      some (t.insert d.hook (old ++ [d.jump])) := by
  rw [Compiler.commands_ensureJump]
  cases hi : i.jump d with
  | true =>
    rw [hi, if_pos rfl] at hhook
    rw [if_pos rfl, obeyAll_nil, insert_of_lookup hhook]
  | false =>
    rw [hi, if_neg Bool.false_ne_true] at hhook
    have hadmits : t.Admits d.jump := by
      intro x hx
      rw [Direction.target?_jump, Option.mem_some_iff] at hx
      exact Or.inr (hx ▸ hchain)
    rw [if_neg Bool.false_ne_true, obeyAll_cons, obey_of_operation (operation?_link d),
      Operation.perform_append.mpr ⟨old, hhook, hadmits, rfl⟩]
    exact obeyAll_drop

/-- The run for a direction: its chain has the rules of the policy and its jump is there. -/
theorem obeyAll_directed {old : List Spec} (hchain : i.chain d = true ↔ d.chain ∈ t)
    (hhook : t.lookup d.hook = some (if i.jump d then old ++ [d.jump] else old))
    (target : d = .outbound → Direction.inbound.chain ∈ t) :
    obeyAll natTable t (commands (directed p traceId i d)) =
      some (t.withDirection d (p.rules traceId d) (old ++ [d.jump])) := by
  have hfill := obeyAll_fill (t := t) (fun c hc => Compiler.fills_body p traceId d hc) target []
  have hjump : obeyAll natTable (t.insert d.chain (p.rules traceId d))
      (commands (ensureJump d.hook d.chain d.tag (i.jump d) (drop p traceId d))) =
        some (t.withDirection d (p.rules traceId d) (old ++ [d.jump])) := by
    refine obeyAll_ensureJump (Finmap.mem_insert.mpr (Or.inl rfl)) ?_
    rw [Finmap.lookup_insert_of_ne _ (Direction.hook_ne_chain d d), hhook]
  rw [directed, Compiler.commands_append, Compiler.commands_append, obeyAll_append, obeyAll_append,
    obeyAll_ensureChain hchain, Option.bind_some, hfill, Option.bind_some, List.nil_append]
  exact hjump

/-! ## The whole run -/

/-- What a scan says of the jump of a direction, and what the packets of it meet. -/
theorem Extends.lookup_hook (base : t₀.Base) (ext : Extends t₀ t) {listing : String}
    (lists : t.Lists listing) {old : List Spec} (hold : t₀.lookup d.hook = some old) :
    t.lookup d.hook =
      some (if (Installed.scan listing).jump d then old ++ [d.jump] else old) := by
  cases hscan : (Installed.scan listing).jump d with
  | true => rw [(ext.scan_jump base lists d).mp hscan, hold]; rfl
  | false => rw [ext.scan_jump_eq_false base lists d hscan, hold]; rfl

/-- **A run that installs a policy leads to a table with its redirection**, from any table with
parts of one, and no command of it is rejected. -/
theorem obeyAll_compile (base : t₀.Base) (ext : Extends t₀ t) {listing : String}
    (lists : t.Lists listing) {r : Result}
    (compiled : ((new p traceId).compile listing).1 = .ok r) :
    ∃ u, obeyAll natTable t r.commands = some u ∧ Redirects t₀ (p.rules traceId) u := by
  have readable := ext.readable base
  choose old hold using base.exists_hook
  have hhook := fun d => ext.lookup_hook base lists (hold d)
  -- the outbound direction starts from the table that the inbound one leads to
  let hooks : Direction → List Spec := fun d => old d ++ [d.jump]
  let v := t.withDirection .inbound (p.rules traceId .inbound) (hooks .inbound)
  have hinbound : obeyAll natTable t
      (commands (directed p traceId (Installed.scan listing) .inbound)) = some v :=
    obeyAll_directed (lists.scan_chain readable .inbound) (hhook .inbound) nofun
  have hchain : (Installed.scan listing).chain .outbound = true ↔ Direction.outbound.chain ∈ v := by
    rw [lists.scan_chain readable, ← Finmap.lookup_isSome, ← Finmap.lookup_isSome,
      lookup_withDirection_of_ne t (by decide) (by decide)]
  -- by then the inbound chain is there, so that outbound rules may go on in it
  have houtbound : obeyAll natTable v
      (commands (directed p traceId (Installed.scan listing) .outbound)) =
        some (v.withDirection .outbound (p.rules traceId .outbound) (hooks .outbound)) :=
    obeyAll_directed hchain
      ((lookup_withDirection_of_ne t (by decide) (by decide) _ _).trans (hhook .outbound))
      (fun _ => mem_of_lookup (lookup_withDirection_chain t _ _))
  refine ⟨v.withDirection .outbound (p.rules traceId .outbound) (hooks .outbound), ?_, ?_⟩
  · rw [Compiler.commands_compile p traceId compiled, obeyAll_append, hinbound, Option.bind_some,
      houtbound]
  · constructor
    · exact lookup_withDirections_chain t (p.rules traceId) hooks
    · intro d
      have hhooks := lookup_withDirections_hook t (p.rules traceId) hooks d
      exact ⟨old d, hold d, base.jump_not_mem (hold d), hhooks⟩
    · intro name hname
      have hother := lookup_withDirections_of_ne t (p.rules traceId) hooks hname
      exact hother.trans (ext.foreign name hname)

/-- **Every run that installs a policy converges.** After any history, none of its commands is
rejected, and it leads to the table at the start with the redirection of the policy: the rules that
its commands append, which are those of the policy whatever was installed, and one jump to each of
the two chains. -/
theorem configure_converges (base : t₀.Base) (reached : Reachable t₀ t) {listing : String}
    (lists : t.Lists listing) {r : Result}
    (compiled : ((new p traceId).compile listing).1 = .ok r) :
    ∃ u, obeyAll natTable t r.commands = some u ∧ Redirects t₀ (p.rules traceId) u ∧
      ∀ d : Direction, appended natTable d.chain r.commands = p.rules traceId d := by
  obtain ⟨u, hrun, hu⟩ := obeyAll_compile base (reached.extends base) lists compiled
  exact ⟨u, hrun, hu, Compiler.appended_compile compiled⟩

/-- Another policy, after a run that was broken off. -/
theorem configure_converges_brokenOff :
    Base plain.toFinmap ∧ Reachable plain.toFinmap brokenOff.toFinmap ∧
      Lists brokenOff.toFinmap (listing brokenOff) ∧
      ∃ r u, ((new { Policy.sidecar with redirect := .all } "1700000001").compile
        (listing brokenOff)).1 = .ok r ∧ obeyAll natTable brokenOff.toFinmap r.commands = some u ∧
      Redirects plain.toFinmap
        (Policy.rules { Policy.sidecar with redirect := .all } "1700000001") u := by
  have compiled := (Compiler.compile_eq_ok_iff { Policy.sidecar with redirect := .all }
    "1700000001").mpr ⟨(by decide +kernel : Compiler.stopped? (Compiler.steps
      { Policy.sidecar with redirect := .all } "1700000001" (Installed.scan (listing brokenOff))) =
      none), rfl⟩
  have lists := lists_listing brokenOff
  obtain ⟨u, hrun, hu, -⟩ := configure_converges base_plain reachable_brokenOff lists compiled
  exact ⟨base_plain, reachable_brokenOff, lists, _, u, compiled, hrun, hu⟩

end Table

end PodRedirect
