import PodRedirect.Proofs.Table.Teardown
import PodRedirect.Proofs.Traffic.Meaning

/-!
# Cutting over

A run that installs a policy fills the chain of a direction before it adds the jump, and a run that
removes one deletes the jump first. So wherever such a run ends, each chain that packets come
through treats them as before the run or as after it, and no packet meets a chain half full. This
holds for whatever the rules of others do with packets.

## Main definitions

* `Command.place?`: the chain that a command changes
* `Direction.way`: the chains that packets of a direction meet once the jump is there
* `Command.Precedes`: the order of commands that this rests on
* `Table.Between`: each direction is as in one table or as in another
* `Table.CutOver`: packets are treated as in one of two tables

## Main results

* `Compiler.pairwise_precedes`, `Compiler.pairwise_precedes_teardown`: the commands of both runs are
  in that order
* `Table.Between.cutOver`: in a table between two others, packets are treated as in one of them
* `Table.cutover_atomic`: so they are wherever a run ends
-/

namespace PodRedirect

open Rule (natTable)
open Compiler (Result new directed body drop commands ensureChain ensureJump teardown Fills)

/-! ## What a command changes -/

/-- The chain of address translation that a command changes, if it changes one. -/
def Command.place? (c : Command) : Option String :=
  match c.operation? with
  | some (table, op) => if table = natTable then some op.chain else none
  | none => none

theorem Command.place?_of_operation {c : Command} {op : Operation}
    (h : c.operation? = some (natTable, op)) : c.place? = some op.chain := by
  rw [place?, h]
  exact if_pos rfl

/-- The chains that packets of a direction meet once the jump is there: the one that has the jump,
and those that the jump and the rules of a redirection lead to. -/
def Direction.way : Direction → List String
  | inbound => [inbound.hook, inbound.chain]
  | outbound => [outbound.hook, outbound.chain, inbound.chain]

/-- The chain is neither one of a redirection nor one that a redirection adds a jump to. -/
def Table.Foreign (name : String) : Prop := ∀ d : Direction, name ≠ d.chain ∧ name ≠ d.hook

/-- The first command may come before the second in a run that installs a policy: once the chain
that has the jump of a direction is changed, no chain that its packets then meet is. -/
def Command.Precedes (a b : Command) : Prop :=
  ∀ d : Direction, a.place? = some d.hook → ∀ name ∈ d.way, b.place? ≠ some name

namespace Table

variable {t u w : Table} {cs rest : List Command}

/-- Commands change only the chains that they are about. -/
theorem lookup_of_obeyAll {name : String} (h : obeyAll natTable t cs = some u)
    (hname : ∀ c ∈ cs, c.place? ≠ some name) : u.lookup name = t.lookup name := by
  induction cs generalizing t with
  | nil => exact congrArg (Finmap.lookup name) (Option.some.inj h).symm
  | cons c cs ih =>
    obtain ⟨hc, hcs⟩ := List.forall_mem_cons.mp hname
    rw [obeyAll_cons] at h
    obtain ⟨w, hw, h⟩ := Option.bind_eq_some_iff.mp h
    rw [ih h hcs]
    -- the first command is about another table, or about another chain
    cases hop : c.operation? with
    | none =>
      rw [obey, hop] at hw
      cases hw
    | some o =>
      obtain ⟨table, op⟩ := o
      by_cases htable : table = natTable
      · subst htable
        rw [obey_of_operation hop] at hw
        refine Operation.perform_lookup_of_ne hw fun heq => hc ?_
        rw [Command.place?_of_operation hop, heq]
      · rw [obey_of_other hop htable] at hw
        exact congrArg (Finmap.lookup name) (Option.some.inj hw).symm

/-- Of commands none of which is rejected, the first ones lead to a table from which the others go
on. -/
theorem exists_of_obeyAll_append (h : obeyAll natTable t (cs ++ rest) = some u) :
    ∃ w, obeyAll natTable t cs = some w ∧ obeyAll natTable w rest = some u := by
  rw [obeyAll_append] at h
  exact Option.bind_eq_some_iff.mp h

end Table

/-! ## The order of the commands -/

namespace Compiler

variable {p : Policy} {traceId : String} {i : Installed} {d e : Direction} {c : Command}

theorem place?_of_fills (h : Fills traceId d c) : c.place? = some d.chain := by
  obtain ⟨s, tag, rfl, -⟩ := h
  exact Command.place?_of_operation (operation?_append d.chain traceId tag s natTable)

theorem place?_of_drop (h : c ∈ drop p traceId d) : c.place? = none := by
  obtain ⟨chain, s, hop⟩ := operation?_drop p traceId d h
  rw [Command.place?, hop]
  exact if_neg (by decide)

theorem place?_link (d : Direction) : d.link.place? = some d.hook :=
  Command.place?_of_operation (operation?_link d)

/-- Before the jump, the commands for a direction change its chain only. -/
theorem place?_of_mem_filling
    (h : c ∈ commands (ensureChain d.chain (i.chain d)) ++ commands (body p traceId d)) :
    c.place? = some d.chain := by
  rcases List.mem_append.mp h with h | h
  · rw [commands_ensureChain, List.mem_singleton] at h
    subst h
    split
    · exact Command.place?_of_operation (operation?_flushChain d.chain)
    · exact Command.place?_of_operation (operation?_createChain d.chain)
  · exact place?_of_fills (fills_body p traceId d h)

theorem place?_of_mem_directed (h : c ∈ commands (directed p traceId i d)) :
    c.place? = some d.chain ∨ c.place? = some d.hook ∨ c.place? = none := by
  rw [directed, commands_append, commands_append] at h
  rcases List.mem_append.mp h with h | h
  · exact Or.inl (place?_of_mem_filling h)
  · rw [commands_ensureJump] at h
    split at h
    · cases h
    · rcases List.mem_cons.mp h with rfl | h
      · exact Or.inr (Or.inl (place?_link d))
      · exact Or.inr (Or.inr (place?_of_drop (Option.mem_toList.mp h)))

theorem precedes_of_place?_eq_none {a b : Command} (h : b.place? = none) : a.Precedes b := by
  intro e _ name _ hb
  rw [h] at hb
  cases hb

/-- A command that changes a chain of a redirection may come before any. -/
theorem precedes_of_place?_eq_chain {a b : Command} (h : a.place? = some d.chain) :
    a.Precedes b := by
  intro e ha
  rw [h] at ha
  exact absurd (Option.some.inj ha) (Direction.chain_ne_hook d e)

/-- **The jump of a direction is added after all other changes** to the chains that its packets then
meet. -/
theorem pairwise_precedes_directed :
    (commands (directed p traceId i d)).Pairwise Command.Precedes := by
  rw [directed, commands_append, commands_append, List.pairwise_append]
  refine ⟨?_, ?_, fun a ha b _ => precedes_of_place?_eq_chain (place?_of_mem_filling ha)⟩
  · exact List.pairwise_of_forall_mem_list fun a ha b _ =>
      precedes_of_place?_eq_chain (place?_of_mem_filling ha)
  · rw [commands_ensureJump]
    split
    · exact List.Pairwise.nil
    · refine List.pairwise_cons.mpr ⟨fun b hb => ?_, ?_⟩
      · exact precedes_of_place?_eq_none (place?_of_drop (Option.mem_toList.mp hb))
      · cases hdrop : drop p traceId d with
        | none => exact List.Pairwise.nil
        | some c => exact List.pairwise_singleton _ _

/-- **The commands of a compilation are in an order that cuts over.** -/
theorem pairwise_precedes {listing : String} {r : Result}
    (h : ((new p traceId).compile listing).1 = .ok r) : r.commands.Pairwise Command.Precedes := by
  rw [commands_compile p traceId h, List.pairwise_append]
  refine ⟨pairwise_precedes_directed, pairwise_precedes_directed, fun a ha b hb => ?_⟩
  -- outbound commands come last, and change no chain that inbound packets meet
  intro d hplace name hname hb'
  obtain rfl : d = .inbound := by
    rcases place?_of_mem_directed ha with h | h | h <;> rw [h] at hplace
    · exact absurd (Option.some.inj hplace) (Direction.chain_ne_hook _ _)
    · exact (Direction.hook_inj.mp (Option.some.inj hplace)).symm
    · cases hplace
  have hother : ∀ e : Option String, e = some Direction.outbound.chain ∨
      e = some Direction.outbound.hook ∨ e = none → e ≠ some name := by
    simp only [Direction.way, List.mem_cons, List.not_mem_nil, or_false] at hname
    rcases hname with rfl | rfl <;> rintro e (rfl | rfl | rfl) <;> decide
  exact hother _ (place?_of_mem_directed hb) hb'

/-- The commands of a compilation change no chain of others. -/
theorem place?_ne_of_foreign {listing : String} {r : Result}
    (h : ((new p traceId).compile listing).1 = .ok r) {name : String} (hname : Table.Foreign name)
    (hc : c ∈ r.commands) : c.place? ≠ some name := by
  have hplace : ∃ d : Direction,
      c.place? = some d.chain ∨ c.place? = some d.hook ∨ c.place? = none := by
    rw [commands_compile p traceId h] at hc
    rcases List.mem_append.mp hc with hc | hc
    · exact ⟨_, place?_of_mem_directed hc⟩
    · exact ⟨_, place?_of_mem_directed hc⟩
  obtain ⟨d, h | h | h⟩ := hplace <;> rw [h]
  · exact fun heq => (hname d).1 (Option.some.inj heq).symm
  · exact fun heq => (hname d).2 (Option.some.inj heq).symm
  · exact nofun

/-- **The commands that remove a redirection are in the opposite order.** -/
theorem pairwise_precedes_teardown : teardown.Pairwise fun a b => Command.Precedes b a := by
  -- only the first two commands change chains that have a jump, and these are different chains
  have hunlink : Direction.outbound.unlink.Precedes Direction.inbound.unlink := by
    intro d hplace name hname
    obtain rfl : Direction.outbound = d := Direction.hook_inj.mp (Option.some.inj hplace)
    simp only [Direction.way, List.mem_cons, List.not_mem_nil, or_false] at hname
    rcases hname with rfl | rfl | rfl <;> decide
  have hchain : ∀ c ∈ teardown.drop 2, ∀ a, Command.Precedes c a := by
    intro c hc a
    have hplace : c.place? = some Direction.outbound.chain ∨
        c.place? = some Direction.inbound.chain := by
      revert c
      decide
    exact hplace.elim precedes_of_place?_eq_chain precedes_of_place?_eq_chain
  refine List.pairwise_cons.mpr ⟨?_, List.pairwise_cons.mpr ⟨fun c hc => hchain c hc _, ?_⟩⟩
  · exact List.forall_mem_cons.mpr ⟨hunlink, fun c hc => hchain c hc _⟩
  · exact List.pairwise_of_forall_mem_list fun a _ c hc => hchain c hc a

/-- Nor do the commands that remove a redirection. -/
theorem place?_teardown_ne_of_foreign {name : String} (hname : Table.Foreign name)
    (hc : c ∈ teardown) : c.place? ≠ some name := by
  have hplace : c.place? ∈ [some Direction.inbound.hook, some Direction.outbound.hook,
      some Direction.outbound.chain, some Direction.inbound.chain] := by
    revert c
    decide
  simp only [List.mem_cons, List.not_mem_nil, or_false] at hplace
  rcases hplace with h | h | h | h <;> rw [h] <;> intro heq
  · exact (hname _).2 (Option.some.inj heq).symm
  · exact (hname _).2 (Option.some.inj heq).symm
  · exact (hname _).1 (Option.some.inj heq).symm
  · exact (hname _).1 (Option.some.inj heq).symm

/-- The rules of a policy go on nowhere in a redirection but from the outbound to the inbound
chain. -/
theorem target_of_mem_rules {s : Spec} (h : s ∈ p.rules traceId d) {x : String}
    (hx : x ∈ s.target?) : x ∈ builtinTargets ∨ d = .outbound ∧ x = Direction.inbound.chain := by
  obtain ⟨c, hc, hs⟩ := List.mem_filterMap.mp h
  obtain ⟨s', tag, rfl, target⟩ := fills_body p traceId d hc
  simp only [Table.appended?, operation?_append, true_and, if_pos, Option.some.injEq] at hs
  exact target x (hs ▸ hx)

end Compiler

/-! ## Tables between two others -/

namespace Table

variable {t₀ t u w : Table} {p : Policy} {traceId : String} {cs rest : List Command}

/-- The table is another one as far as others are concerned, and the packets of each direction come
through the same rules as there, or meet the same rules as in a table with a redirection. -/
structure Between (t₀ u w : Table) : Prop where
  foreign : ∀ name, Foreign name → w.lookup name = t₀.lookup name
  directions : ∀ d : Direction, w.lookup d.hook = t₀.lookup d.hook ∨
    ∀ name ∈ d.way, w.lookup name = u.lookup name

/-- Every chain but those of a redirection does with packets, whatever the meaning of rules, what it
does in one of two tables. -/
def CutOver (t u w : Table) : Prop :=
  ∀ name, (∀ d : Direction, name ≠ d.chain) → ∀ (π ω : Type) (m : Meaning π ω),
    m.Alike w t name ∨ m.Alike w u name

theorem foreign_of_mem_builtinTargets {name : String} (h : name ∈ builtinTargets) :
    Foreign name := by
  intro d
  revert name
  cases d <;> decide

/-- Rules of others go on in chains of others only. -/
theorem Base.within_foreign (base : t₀.Base) {name : String} {rules : List Spec}
    (hrules : t₀.lookup name = some rules) {s : Spec} (hs : s ∈ rules) : s.Within Foreign := by
  intro x hx hbuiltin d
  refine ⟨?_, ?_⟩
  · rintro rfl
    exact base.closed d (mentions_iff.mpr ⟨name, rules, hrules, s, hs, hx⟩)
  · rintro rfl
    revert hbuiltin
    cases d <;> decide

theorem Base.within_of_mem_chains (base : t₀.Base) {name : String} {s : Spec}
    (hs : s ∈ t₀.chains name) : s.Within Foreign := by
  cases hrules : t₀.lookup name with
  | none =>
    rw [Table.chains, hrules] at hs
    cases hs
  | some rules => exact base.within_foreign hrules (chains_of_lookup hrules ▸ hs)

/-- Nothing in a table with a redirection leads packets of a direction away from the chains of their
way and those of others. -/
theorem Redirects.within_way (base : t₀.Base) (installed : Redirects t₀ (p.rules traceId) u)
    {d : Direction} {name : String} (hname : name ∈ d.way ∨ Foreign name) {s : Spec}
    (hs : s ∈ u.chains name) : s.Within fun x => x ∈ d.way ∨ Foreign x := by
  have hbody : ∀ {e : Direction}, s ∈ u.chains e.chain → (e = .outbound → d = .outbound) →
      s.Within fun x => x ∈ d.way ∨ Foreign x := by
    intro e hs he x hx _
    rw [chains_of_lookup (installed.chains e)] at hs
    -- outbound packets may go on to the inbound chain, but no packets the other way
    rcases Compiler.target_of_mem_rules hs hx with hx | ⟨rfl, rfl⟩
    · exact Or.inr (foreign_of_mem_builtinTargets hx)
    · obtain rfl := he rfl
      exact Or.inl (by decide)
  have hhook : s ∈ u.chains d.hook → s.Within fun x => x ∈ d.way ∨ Foreign x := by
    intro hs x hx hbuiltin
    obtain ⟨old, hold, -, hlookup⟩ := installed.hooks d
    rw [chains_of_lookup hlookup] at hs
    rcases List.mem_append.mp hs with hs | hs
    · exact Or.inr (base.within_foreign hold hs x hx hbuiltin)
    · -- the rule is the jump
      rw [List.mem_singleton.mp hs, Direction.target?_jump, Option.mem_some_iff] at hx
      subst hx
      cases d <;> exact Or.inl (by decide)
  rcases hname with hname | hname
  · cases d with
    | inbound =>
      simp only [Direction.way, List.mem_cons, List.not_mem_nil, or_false] at hname
      rcases hname with rfl | rfl
      · exact hhook hs
      · exact hbody hs nofun
    | outbound =>
      simp only [Direction.way, List.mem_cons, List.not_mem_nil, or_false] at hname
      rcases hname with rfl | rfl | rfl
      · exact hhook hs
      · exact hbody hs fun _ => rfl
      · exact hbody hs nofun
  · have hchains : u.chains name = t₀.chains name := by
      rw [Table.chains, installed.foreign name hname, Table.chains]
    rw [hchains] at hs
    exact fun x hx hbuiltin => Or.inr (base.within_of_mem_chains hs x hx hbuiltin)

namespace Between

variable {π ω : Type} (m : Meaning π ω)

/-- Where packets come through the same rules as in the table without a redirection, they are
treated as there. -/
theorem alike_start (base : t₀.Base) (h : Between t₀ u w) {name : String}
    (hname : w.lookup name = t₀.lookup name) : m.Alike w t₀ name := by
  have key : m.Alike t₀ w name := by
    refine Meaning.alike_of_agree (P := fun x => x = name ∨ Foreign x) (Or.inl rfl) ?_ ?_
    · rintro x (rfl | hx)
      · exact hname.symm
      · exact (h.foreign x hx).symm
    · intro x _ s hs chain hchain hbuiltin
      exact Or.inr (base.within_of_mem_chains hs chain hchain hbuiltin)
  exact fun pkt v => (key pkt v).symm

/-- Where packets meet the same rules as in the table with a redirection, they are treated as
there. -/
theorem alike_installed (base : t₀.Base) (installed : Redirects t₀ (p.rules traceId) u)
    (h : Between t₀ u w) {d : Direction} (hway : ∀ name ∈ d.way, w.lookup name = u.lookup name) :
    m.Alike w u d.hook := by
  have key : m.Alike u w d.hook := by
    refine Meaning.alike_of_agree (P := fun x => x ∈ d.way ∨ Foreign x) ?_ ?_ ?_
    · cases d <;> exact Or.inl List.mem_cons_self
    · rintro x (hx | hx)
      · exact (hway x hx).symm
      · rw [h.foreign x hx, installed.foreign x hx]
    · exact fun x hx s hs => installed.within_way base hx hs
  exact fun pkt v => (key pkt v).symm

/-- **In a table between two others, packets are treated as in one of them.** -/
theorem cutOver (base : t₀.Base) (installed : Redirects t₀ (p.rules traceId) u)
    (h : Between t₀ u w) : CutOver t₀ u w := by
  intro name hname π ω m
  rcases Direction.name_cases name with ⟨d, rfl⟩ | ⟨d, rfl⟩ | hforeign
  · exact absurd rfl (hname d)
  · exact (h.directions d).imp (h.alike_start m base) (h.alike_installed m base installed)
  · exact Or.inl (h.alike_start m base (h.foreign name hforeign))

/-- A run that installs, with commands in an order that cuts over, is between its two ends wherever
it is. -/
theorem of_install (hrun : obeyAll natTable t₀ cs = some w)
    (hrest : obeyAll natTable w rest = some u)
    (order : (cs ++ rest).Pairwise Command.Precedes)
    (own : ∀ c ∈ cs ++ rest, ∀ name, Foreign name → c.place? ≠ some name) : Between t₀ u w where
  foreign := fun name hname =>
    lookup_of_obeyAll hrun fun c hc => own c (List.mem_append_left rest hc) name hname
  directions := by
    intro d
    -- once the jump is there, the rest of the run changes nothing that its packets meet
    by_cases hjump : ∃ c ∈ cs, c.place? = some d.hook
    · obtain ⟨c, hc, hplace⟩ := hjump
      refine Or.inr fun name hname => (lookup_of_obeyAll hrest fun c' hc' => ?_).symm
      exact (List.pairwise_append.mp order).2.2 c hc c' hc' d hplace name hname
    · exact Or.inl (lookup_of_obeyAll hrun fun c hc hplace => hjump ⟨c, hc, hplace⟩)

/-- So is a run that removes, with commands in the opposite order. -/
theorem of_remove (hrun : obeyAll natTable u cs = some w)
    (hrest : obeyAll natTable w rest = some t₀)
    (order : (cs ++ rest).Pairwise fun a b => Command.Precedes b a)
    (own : ∀ c ∈ cs ++ rest, ∀ name, Foreign name → c.place? ≠ some name) : Between t₀ u w where
  foreign := fun name hname => Eq.symm <|
    lookup_of_obeyAll hrest fun c hc => own c (List.mem_append_right cs hc) name hname
  directions := by
    intro d
    -- as long as the jump is there, the run has changed nothing that its packets meet
    by_cases hjump : ∃ c ∈ rest, c.place? = some d.hook
    · obtain ⟨c, hc, hplace⟩ := hjump
      refine Or.inr fun name hname => lookup_of_obeyAll hrun fun c' hc' => ?_
      exact (List.pairwise_append.mp order).2.2 c' hc' c hc d hplace name hname
    · exact Or.inl (lookup_of_obeyAll hrest fun c hc hplace => hjump ⟨c, hc, hplace⟩).symm

end Between

/-- **Wherever a run ends that installs a policy or removes it, packets are treated as before it or
as after it**: no command of either run is rejected, and in the table after any first ones of its
commands, each chain that packets come through does with all packets what it does in the table
without a redirection, or what it does in the one with all of it. -/
theorem cutover_atomic (base : t₀.Base) {listing : String} (lists : t₀.Lists listing) {r : Result}
    (compiled : ((new p traceId).compile listing).1 = .ok r) :
    ∃ u, obeyAll natTable t₀ r.commands = some u ∧ obeyAll natTable u teardown = some t₀ ∧
      (∀ cs, cs <+: r.commands → ∃ w, obeyAll natTable t₀ cs = some w ∧ CutOver t₀ u w) ∧
      ∀ cs, cs <+: teardown → ∃ w, obeyAll natTable u cs = some w ∧ CutOver t₀ u w := by
  obtain ⟨u, hrun, installed⟩ := obeyAll_compile base base.extends lists compiled
  have hremove := installed.obeyAll_teardown base
  refine ⟨u, hrun, hremove, ?_, ?_⟩
  · rintro cs ⟨rest, hcommands⟩
    obtain ⟨w, hw, hrest⟩ := exists_of_obeyAll_append (hcommands ▸ hrun)
    refine ⟨w, hw, (Between.of_install hw hrest ?_ ?_).cutOver base installed⟩
    · exact hcommands ▸ Compiler.pairwise_precedes compiled
    · exact fun c hc name hname => Compiler.place?_ne_of_foreign compiled hname (hcommands ▸ hc)
  · rintro cs ⟨rest, hcommands⟩
    obtain ⟨w, hw, hrest⟩ := exists_of_obeyAll_append (hcommands ▸ hremove)
    refine ⟨w, hw, (Between.of_remove hw hrest ?_ ?_).cutOver base installed⟩
    · exact hcommands ▸ Compiler.pairwise_precedes_teardown
    · exact fun c hc name hname => Compiler.place?_teardown_ne_of_foreign hname (hcommands ▸ hc)

/-- A run that ends when the chain for inbound traffic has one rule. -/
theorem cutover_atomic_sidecar :
    Base plain.toFinmap ∧ Lists plain.toFinmap (listing plain) ∧
      ∃ r u w, ((new Policy.sidecar "1700000000").compile (listing plain)).1 = .ok r ∧
        obeyAll natTable plain.toFinmap r.commands = some u ∧
        obeyAll natTable plain.toFinmap (r.commands.take 2) = some w ∧
        CutOver plain.toFinmap u w := by
  have compiled := (Compiler.compile_eq_ok_iff Policy.sidecar "1700000000").mpr
    ⟨(by decide +kernel : Compiler.stopped? (Compiler.steps Policy.sidecar "1700000000"
      (Installed.scan (listing plain))) = none), rfl⟩
  obtain ⟨u, hrun, -, hinstall, -⟩ := cutover_atomic base_plain (lists_listing plain) compiled
  obtain ⟨w, hw, hcut⟩ := hinstall _ (List.take_prefix 2 _)
  exact ⟨base_plain, lists_listing plain, _, u, w, compiled, hrun, hw, hcut⟩

end Table

end PodRedirect
