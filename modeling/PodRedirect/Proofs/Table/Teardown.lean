import PodRedirect.Proofs.Table.Convergence

/-!
# Teardown

Whatever a history has left of a redirection, the commands that remove one lead back to the table at
the start, if those that are rejected are passed over. After a run that has installed a policy, none
of them is rejected.

## Main definitions

* `Table.Cleared`: of a redirection, at most empty chains are left

## Main results

* `Table.Cleared.not_mentions`: no rule goes on in a chain that is to be removed
* `Table.teardown_restores`: the commands that remove a redirection, after any history
-/

namespace PodRedirect

open Rule (natTable)
open Compiler (Result new teardown)

namespace Table

variable {t₀ t u : Table} {d e : Direction}

/-! ## The single commands -/

section Steps

variable {old : List Spec}

/-- The jump of a direction is deleted if it is there. -/
theorem obey_unlink (hnot : d.jump ∉ old) (hhook : t.lookup d.hook = some (old ++ [d.jump])) :
    obey natTable t d.unlink = some (t.insert d.hook old) := by
  have hmem : d.jump ∈ old ++ [d.jump] := List.mem_append_right old List.mem_cons_self
  have herase : (old ++ [d.jump]).erase d.jump = old := by
    rw [List.erase_append_right _ hnot]
    simp
  rw [obey_of_operation (operation?_unlink d)]
  exact Operation.perform_delete.mpr ⟨_, hhook, hmem, by rw [herase]⟩

/-- The command that deletes the jump of a direction leaves the packets of it as they were at the
start. -/
theorem proceed_unlink (base : t₀.Base) (hold : t₀.lookup d.hook = some old)
    (hhook : t.lookup d.hook = some old ∨ t.lookup d.hook = some (old ++ [d.jump])) :
    proceed natTable t d.unlink = t.insert d.hook old := by
  have hnot := base.jump_not_mem hold
  rcases hhook with hhook | hhook
  · -- there is no jump, and the command is rejected
    rw [insert_of_lookup hhook]
    refine proceed_of_rejected ?_
    rw [obey_of_operation (operation?_unlink d), Option.eq_none_iff_forall_ne_some]
    intro u hu
    obtain ⟨rules, hrules, hmem, -⟩ := Operation.perform_delete.mp hu
    obtain rfl : old = rules := Option.some.inj (hhook.symm.trans hrules)
    exact hnot hmem
  · exact proceed_of_obey (obey_unlink hnot hhook)

/-- The table without the rules of the chain of a direction, if the chain is there. -/
def emptied (t : Table) (d : Direction) : Table :=
  if d.chain ∈ t then t.insert d.chain [] else t

theorem lookup_emptied (t : Table) (d : Direction) :
    (t.emptied d).lookup d.chain = (t.lookup d.chain).map fun _ => [] := by
  by_cases h : d.chain ∈ t
  · obtain ⟨rules, hrules⟩ := Finmap.mem_iff.mp h
    rw [emptied, if_pos h, Finmap.lookup_insert, hrules]
    rfl
  · rw [emptied, if_neg h, Finmap.lookup_eq_none.mpr h]
    rfl

theorem lookup_emptied_of_ne {name : String} (h : name ≠ d.chain) (t : Table) :
    (t.emptied d).lookup name = t.lookup name := by
  unfold emptied
  split
  · exact Finmap.lookup_insert_of_ne _ h
  · rfl

theorem obey_flush (h : d.chain ∈ t) :
    obey natTable t (Rule.flushChain d.chain) = some (t.emptied d) := by
  rw [obey_of_operation (operation?_flushChain d.chain), emptied, if_pos h]
  exact Operation.perform_flush.mpr ⟨h, rfl⟩

theorem proceed_flush (t : Table) (d : Direction) :
    proceed natTable t (Rule.flushChain d.chain) = t.emptied d := by
  by_cases h : d.chain ∈ t
  · exact proceed_of_obey (obey_flush h)
  · rw [emptied, if_neg h]
    refine proceed_of_rejected ?_
    rw [obey_of_operation (operation?_flushChain d.chain), Option.eq_none_iff_forall_ne_some]
    exact fun u hu => h (Operation.perform_flush.mp hu).1

end Steps

/-! ## What is left before the chains are removed -/

/-- Of a redirection, at most empty chains are left. -/
structure Cleared (t₀ t : Table) : Prop where
  rest : ∀ name, (∀ d : Direction, name ≠ d.chain) → t.lookup name = t₀.lookup name
  empty : ∀ (d : Direction) (rules : List Spec), t.lookup d.chain = some rules → rules = []

namespace Cleared

/-- No rule goes on in a chain of the redirection. -/
theorem not_mentions (base : t₀.Base) (h : Cleared t₀ t) (d : Direction) :
    ¬ t.Mentions d.chain := by
  intro hmentions
  obtain ⟨name, rules, hrules, s, hs, htarget⟩ := mentions_iff.mp hmentions
  -- a rule outside of the redirection was there at the start, and there are none inside of it
  by_cases hname : ∀ e : Direction, name ≠ e.chain
  · rw [h.rest name hname] at hrules
    exact base.closed d (mentions_iff.mpr ⟨name, rules, hrules, s, hs, htarget⟩)
  · push Not at hname
    obtain ⟨e, rfl⟩ := hname
    rw [h.empty e rules hrules] at hs
    cases hs

theorem obey_remove (base : t₀.Base) (h : Cleared t₀ t) (hd : d.chain ∈ t) :
    obey natTable t (Rule.deleteChain d.chain) = some (t.erase d.chain) := by
  obtain ⟨rules, hrules⟩ := Finmap.mem_iff.mp hd
  rw [obey_of_operation (operation?_deleteChain d.chain)]
  exact Operation.perform_remove.mpr
    ⟨h.empty d rules hrules ▸ hrules, h.not_mentions base d, rfl⟩

/-- An empty chain is removed. -/
theorem proceed_remove (base : t₀.Base) (h : Cleared t₀ t) (d : Direction) :
    proceed natTable t (Rule.deleteChain d.chain) = t.erase d.chain := by
  by_cases hd : d.chain ∈ t
  · exact proceed_of_obey (h.obey_remove base hd)
  · -- there is nothing to remove, and the command is rejected
    have herase : t.erase d.chain = t := by
      refine Finmap.ext_lookup fun name => ?_
      by_cases hname : name = d.chain
      · rw [hname, Finmap.lookup_erase, Finmap.lookup_eq_none.mpr hd]
      · exact Finmap.lookup_erase_ne hname
    rw [herase]
    refine proceed_of_rejected ?_
    rw [obey_of_operation (operation?_deleteChain d.chain), Option.eq_none_iff_forall_ne_some]
    exact fun u hu => hd (mem_of_lookup (Operation.perform_remove.mp hu).1)

theorem erase (h : Cleared t₀ t) (d : Direction) : Cleared t₀ (t.erase d.chain) where
  rest := fun name hname => by rw [Finmap.lookup_erase_ne (hname d), h.rest name hname]
  empty := by
    intro e rules hrules
    by_cases he : e = d
    · rw [he, Finmap.lookup_erase] at hrules
      cases hrules
    · rw [Finmap.lookup_erase_ne (mt Direction.chain_inj.mp he)] at hrules
      exact h.empty e rules hrules

/-- Without the two chains, the table is the one at the start. -/
theorem erase_erase (base : t₀.Base) (h : Cleared t₀ t) :
    (t.erase Direction.outbound.chain).erase Direction.inbound.chain = t₀ := by
  have hcleared := (h.erase .outbound).erase .inbound
  have hgone : ∀ d : Direction, ((t.erase Direction.outbound.chain).erase
      Direction.inbound.chain).lookup d.chain = none := by
    intro d
    cases d with
    | inbound => exact Finmap.lookup_erase _ _
    | outbound => rw [Finmap.lookup_erase_ne (by decide), Finmap.lookup_erase]
  refine Finmap.ext_lookup fun name => ?_
  by_cases hname : ∀ d : Direction, name ≠ d.chain
  · exact hcleared.rest name hname
  · push Not at hname
    obtain ⟨d, rfl⟩ := hname
    rw [hgone d, Finmap.lookup_eq_none.mpr (base.chains d)]

end Cleared

/-! ## The commands in order -/

section Cleared

variable {old : Direction → List Spec}

/-- The table whose packets meet the given rules. -/
def unlinked (t : Table) (old : Direction → List Spec) : Table :=
  (t.insert Direction.inbound.hook (old .inbound)).insert Direction.outbound.hook (old .outbound)

theorem lookup_unlinked_hook (t : Table) (old : Direction → List Spec) (d : Direction) :
    (t.unlinked old).lookup d.hook = some (old d) := by
  cases d with
  | inbound =>
    rw [unlinked, Finmap.lookup_insert_of_ne _ (by decide), Finmap.lookup_insert]
  | outbound => exact Finmap.lookup_insert _

theorem lookup_unlinked_of_ne {name : String} (h : ∀ d : Direction, name ≠ d.hook) (t : Table)
    (old : Direction → List Spec) : (t.unlinked old).lookup name = t.lookup name := by
  rw [unlinked, Finmap.lookup_insert_of_ne _ (h _), Finmap.lookup_insert_of_ne _ (h _)]

/-- The same table with no rules in the chains of the redirection. -/
def hollowed (t : Table) (old : Direction → List Spec) : Table :=
  ((t.unlinked old).emptied .outbound).emptied .inbound

theorem lookup_hollowed_chain (t : Table) (old : Direction → List Spec) (d : Direction) :
    (t.hollowed old).lookup d.chain = (t.lookup d.chain).map fun _ => [] := by
  have hunlinked := lookup_unlinked_of_ne (Direction.chain_ne_hook d) t old
  cases d with
  | inbound => rw [hollowed, lookup_emptied, lookup_emptied_of_ne (by decide), hunlinked]
  | outbound => rw [hollowed, lookup_emptied_of_ne (by decide), lookup_emptied, hunlinked]

/-- The commands on the jumps and on the rules of the chains leave at most empty chains. -/
theorem cleared_hollowed (hold : ∀ d : Direction, t₀.lookup d.hook = some (old d))
    (hforeign : ∀ name, (∀ d : Direction, name ≠ d.chain ∧ name ≠ d.hook) →
      t.lookup name = t₀.lookup name) : Cleared t₀ (t.hollowed old) where
  rest := by
    intro name hname
    rw [hollowed, lookup_emptied_of_ne (hname .inbound),
      lookup_emptied_of_ne (hname .outbound)]
    rcases Direction.name_cases name with ⟨d, rfl⟩ | ⟨d, rfl⟩ | hother
    · exact absurd rfl (hname d)
    · rw [lookup_unlinked_hook, hold d]
    · rw [lookup_unlinked_of_ne fun d => (hother d).2, hforeign name hother]
  empty := by
    intro d rules hrules
    rw [lookup_hollowed_chain] at hrules
    obtain ⟨-, -, rfl⟩ := Option.map_eq_some_iff.mp hrules
    rfl

end Cleared

theorem teardown_eq : teardown =
    [Direction.inbound.unlink, Direction.outbound.unlink,
      Rule.flushChain Direction.outbound.chain, Rule.flushChain Direction.inbound.chain,
      Rule.deleteChain Direction.outbound.chain, Rule.deleteChain Direction.inbound.chain] := rfl

/-- The commands that remove a redirection lead back to the start from any table with parts of
one. -/
theorem Extends.persist_teardown (base : t₀.Base) (ext : Extends t₀ t) :
    persist natTable t teardown = t₀ := by
  choose old hold using base.exists_hook
  have hhook : ∀ d : Direction, t.lookup d.hook = some (old d) ∨
      t.lookup d.hook = some (old d ++ [d.jump]) := by
    intro d
    have hhooks := ext.hooks d
    rwa [hold d] at hhooks
  have hcleared := cleared_hollowed hold ext.foreign
  -- the jumps have to go first, since no chain is removed that one leads to
  have hinbound := proceed_unlink base (hold .inbound) (hhook .inbound)
  have houtbound : proceed natTable (t.insert Direction.inbound.hook (old .inbound))
      Direction.outbound.unlink = t.unlinked old := by
    refine proceed_unlink base (hold .outbound) ?_
    rw [Finmap.lookup_insert_of_ne _ (by decide)]
    exact hhook .outbound
  calc persist natTable t teardown
      = persist natTable (t.hollowed old) [Rule.deleteChain Direction.outbound.chain,
          Rule.deleteChain Direction.inbound.chain] := by
        rw [teardown_eq, persist_cons, hinbound, persist_cons, houtbound, persist_cons,
          proceed_flush, persist_cons, proceed_flush, hollowed]
    _ = ((t.hollowed old).erase Direction.outbound.chain).erase Direction.inbound.chain := by
        rw [persist_cons, hcleared.proceed_remove base, persist_cons,
          (hcleared.erase .outbound).proceed_remove base, persist_nil]
    _ = t₀ := hcleared.erase_erase base

/-- None of the commands that remove a redirection is rejected if all of it is there. -/
theorem Redirects.obeyAll_teardown (base : t₀.Base) {rules : Direction → List Spec}
    (h : Redirects t₀ rules u) : obeyAll natTable u teardown = some t₀ := by
  choose old hold hnot hhook using h.hooks
  have hcleared := cleared_hollowed hold h.foreign
  have houtbound : obey natTable (u.insert Direction.inbound.hook (old .inbound))
      Direction.outbound.unlink = some (u.unlinked old) := by
    refine obey_unlink (hnot .outbound) ?_
    rw [Finmap.lookup_insert_of_ne _ (by decide)]
    exact hhook .outbound
  -- the two chains stay there until they are removed themselves
  have hunlinked : ∀ d : Direction, d.chain ∈ u.unlinked old := by
    intro d
    have hchain := lookup_unlinked_of_ne (Direction.chain_ne_hook d) u old
    exact mem_of_lookup (hchain.trans (h.chains d))
  have hemptied : Direction.inbound.chain ∈ (u.unlinked old).emptied .outbound := by
    rw [← Finmap.lookup_isSome, lookup_emptied_of_ne (by decide), Finmap.lookup_isSome]
    exact hunlinked .inbound
  have hhollowed : ∀ d : Direction, d.chain ∈ u.hollowed old := by
    intro d
    rw [← Finmap.lookup_isSome, lookup_hollowed_chain, h.chains d]
    rfl
  have herased : Direction.inbound.chain ∈ (u.hollowed old).erase Direction.outbound.chain :=
    Finmap.mem_erase.mpr ⟨by decide, hhollowed .inbound⟩
  rw [teardown_eq, obeyAll_cons, obey_unlink (hnot .inbound) (hhook .inbound), Option.bind_some,
    obeyAll_cons, houtbound, Option.bind_some, obeyAll_cons, obey_flush (hunlinked .outbound),
    Option.bind_some, obeyAll_cons, obey_flush hemptied, Option.bind_some, ← hollowed,
    obeyAll_cons, hcleared.obey_remove base (hhollowed .outbound), Option.bind_some, obeyAll_cons,
    (hcleared.erase .outbound).obey_remove base herased, Option.bind_some, obeyAll_nil,
    hcleared.erase_erase base]

/-- **Teardown restores the table at the start**, after any history, if rejected commands are passed
over. After a run that has installed a policy, with which the history may go on, no command of it is
rejected. -/
theorem teardown_restores (base : t₀.Base) (reached : Reachable t₀ t) :
    persist natTable t teardown = t₀ ∧
      ∀ (p : Policy) (traceId listing : String) (r : Result), t.Lists listing →
        ((new p traceId).compile listing).1 = .ok r →
        ∃ u, obeyAll natTable t r.commands = some u ∧ obeyAll natTable u teardown = some t₀ := by
  have ext := reached.extends base
  refine ⟨ext.persist_teardown base, fun p traceId listing r lists compiled => ?_⟩
  obtain ⟨u, hrun, hu⟩ := obeyAll_compile base ext lists compiled
  exact ⟨u, hrun, hu.obeyAll_teardown base⟩

/-- After a run that was broken off. -/
theorem teardown_restores_brokenOff :
    Base plain.toFinmap ∧ Reachable plain.toFinmap brokenOff.toFinmap ∧
      persist natTable brokenOff.toFinmap teardown = plain.toFinmap :=
  ⟨base_plain, reachable_brokenOff, (teardown_restores base_plain reachable_brokenOff).1⟩

end Table

end PodRedirect
