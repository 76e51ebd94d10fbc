import PodRedirect.Proofs.Table.Teardown

/-!
# What cycles leave in the table of filters

A policy may ask for rules that drop packets, for tests. These are the only ones outside the table
of address translation. The commands that remove a redirection do not know about them, so every
cycle of a run that installs such a policy and a run that removes it leaves one of each at the end
of its chain.

## Main definitions

* `Command.Grows`: a command that appends to a chain of a table, or is about another table
* `Policy.drops`: the rules that a policy has in the chains of the table of filters
* `Table.Cycles`: the commands of any number of cycles

## Main results

* `Table.exists_obeyAll_of_grows`: what commands that append leave in a table
* `Table.cycles_filters`: what cycles leave in both tables, and when that is what was there before
-/

namespace PodRedirect

open Rule (natTable filterTable)

/-- The command is about another table, or appends a rule to a chain that is there. The rule goes on
in no chain. -/
def Command.Grows (table : String) (t : Table) (c : Command) : Prop :=
  ∃ name op, c.operation? = some (name, op) ∧
    (name = table → ∃ chain s, op = .append chain s ∧ chain ∈ t ∧
      ∀ x ∈ Spec.target? s, x ∈ builtinTargets)

theorem Command.grows_of_ne {table name : String} {c : Command} {op : Operation}
    (h : c.operation? = some (name, op)) (hname : name ≠ table) (t : Table) : c.Grows table t :=
  ⟨name, op, h, fun heq => absurd heq hname⟩

/-- Appending a rule that goes on in no chain. -/
theorem Command.grows_append {table chain traceId tag x : String} {s : Spec} {t : Table}
    (hchain : chain ∈ t) (hx : x ∈ builtinTargets)
    (h : Spec.target? (s ++ Command.commentArgs tag traceId) = some x) :
    (Rule.append traceId table chain s tag).Grows table t := by
  refine ⟨table, _, operation?_append chain traceId tag s table, fun _ => ?_⟩
  refine ⟨chain, _, rfl, hchain, fun y hy => ?_⟩
  rw [h, Option.mem_some_iff] at hy
  exact hy ▸ hx

/-! ## Commands that append -/

namespace Table

variable {table : String} {t u : Table} {c : Command} {cs : List Command}

/-- Such a command leaves every chain with what it appends. -/
theorem obey_of_grows (h : c.Grows table t) :
    ∃ u, obey table t c = some u ∧
      ∀ name, u.lookup name = (t.lookup name).map (· ++ appended table name [c]) := by
  obtain ⟨place, op, hop, happend⟩ := h
  by_cases htable : place = table
  · obtain ⟨chain, s, rfl, hchain, htarget⟩ := happend htable
    subst place
    obtain ⟨rules, hrules⟩ := Finmap.mem_iff.mp hchain
    have hadmits : t.Admits s := fun x hx => Or.inl (htarget x hx)
    refine ⟨t.insert chain (rules ++ [s]), ?_, fun name => ?_⟩
    · rw [obey_of_operation hop]
      exact Operation.perform_append.mpr ⟨rules, hrules, hadmits, rfl⟩
    · by_cases hname : name = chain
      · subst name
        rw [Finmap.lookup_insert, hrules]
        simp [appended, appended?, hop]
      · rw [Finmap.lookup_insert_of_ne _ hname]
        simp [appended, appended?, hop, Ne.symm hname]
  · refine ⟨t, obey_of_other hop htable, fun name => ?_⟩
    have hnone : appended? table name c = none := by
      cases op <;> simp [appended?, hop, htable]
    simp [appended, hnone]

theorem mem_iff_of_lookup {rules : String → List Spec}
    (h : ∀ name, u.lookup name = (t.lookup name).map (· ++ rules name)) (name : String) :
    name ∈ u ↔ name ∈ t := by
  rw [← Finmap.lookup_isSome, ← Finmap.lookup_isSome, h, Option.isSome_map]

/-- **Commands that only append leave every chain with what they append**, and none of them is
rejected. -/
theorem exists_obeyAll_of_grows (h : ∀ c ∈ cs, c.Grows table t) :
    ∃ u, obeyAll table t cs = some u ∧
      ∀ name, u.lookup name = (t.lookup name).map (· ++ appended table name cs) := by
  induction cs generalizing t with
  | nil => exact ⟨t, rfl, fun name => by simp⟩
  | cons c cs ih =>
    rw [List.forall_mem_cons] at h
    obtain ⟨v, hv, hlookup⟩ := obey_of_grows h.1
    -- the same chains are there after a command
    have hrest : ∀ d ∈ cs, d.Grows table v := by
      intro d hd
      obtain ⟨name, op, hop, happend⟩ := h.2 d hd
      refine ⟨name, op, hop, fun hname => ?_⟩
      obtain ⟨chain, s, hs, hchain, htarget⟩ := happend hname
      exact ⟨chain, s, hs, (mem_iff_of_lookup hlookup chain).mpr hchain, htarget⟩
    obtain ⟨u, hu, hlookup'⟩ := ih hrest
    refine ⟨u, ?_, fun name => ?_⟩
    · rw [obeyAll_cons, hv]
      exact hu
    · have happended : appended table name (c :: cs) =
          appended table name [c] ++ appended table name cs := appended_append table name [c] cs
      rw [hlookup', hlookup, Option.map_map, happended]
      simp [Function.comp_def]

end Table

/-! ## The commands of a cycle -/

/-- The rules that a policy has in a chain of the table of filters. -/
def Policy.drops (p : Policy) (traceId name : String) : List Spec :=
  Table.appended filterTable name
    ((Compiler.drop p traceId .inbound).toList ++ (Compiler.drop p traceId .outbound).toList)

namespace Compiler

open Table (appended appended_append appended_eq_nil)

variable {p : Policy} {traceId : String} {i : Installed} {d : Direction} {f : Table} {c : Command}

/-- The rules that fill the chains are no filters. -/
theorem operation?_of_fills (h : Fills traceId d c) : ∃ op, c.operation? = some (natTable, op) := by
  obtain ⟨s, tag, rfl, -⟩ := h
  exact ⟨_, operation?_append d.chain traceId tag s natTable⟩

/-- A rule that drops packets is appended to a chain that is always there. -/
theorem grows_of_drop (hinput : Rule.input ∈ f) (houtput : Rule.output ∈ f)
    (h : c ∈ drop p traceId d) : c.Grows filterTable f := by
  cases d with
  | inbound =>
    simp only [drop, Option.mem_def, Option.ite_none_right_eq_some, Option.some.injEq] at h
    obtain ⟨-, rfl⟩ := h
    exact Command.grows_append hinput (by decide : "DROP" ∈ builtinTargets) rfl
  | outbound =>
    simp only [drop, Option.mem_def, Option.ite_none_right_eq_some, Option.some.injEq] at h
    obtain ⟨-, rfl⟩ := h
    exact Command.grows_append houtput (by decide : "DROP" ∈ builtinTargets) rfl

/-- The steps for a direction append to the chains of the table of filters, if at all. -/
theorem grows_of_mem_directed (hinput : Rule.input ∈ f) (houtput : Rule.output ∈ f)
    (h : c ∈ commands (directed p traceId i d)) : c.Grows filterTable f := by
  have hnat : natTable ≠ filterTable := by decide
  rw [directed, commands_append, commands_append, commands_ensureChain, commands_ensureJump] at h
  rcases List.mem_append.mp h with h | h
  · rcases List.mem_append.mp h with h | h
    · rw [List.mem_singleton] at h
      subst h
      split
      · exact Command.grows_of_ne (operation?_flushChain d.chain) hnat f
      · exact Command.grows_of_ne (operation?_createChain d.chain) hnat f
    · obtain ⟨op, hop⟩ := operation?_of_fills (fills_body p traceId d h)
      exact Command.grows_of_ne hop hnat f
  · split at h
    · cases h
    · rcases List.mem_cons.mp h with rfl | h
      · exact Command.grows_of_ne (operation?_link d) hnat f
      · exact grows_of_drop hinput houtput (Option.mem_toList.mp h)

/-- With the jump, the steps for a direction add the rule that drops packets, and no other
filter. -/
theorem appended_filters_directed (hjump : i.jump d = false) (name : String) :
    appended filterTable name (commands (directed p traceId i d)) =
      appended filterTable name (drop p traceId d).toList := by
  have hother : ∀ c op, c.operation? = some (natTable, op) →
      Table.appended? filterTable name c = none := by
    intro c op hop
    cases op <;> simp [Table.appended?, hop, natTable, filterTable]
  have hensure : appended filterTable name (commands (ensureChain d.chain (i.chain d))) = [] := by
    refine appended_eq_nil fun c hc => ?_
    rw [commands_ensureChain, List.mem_singleton] at hc
    subst hc
    split
    · exact hother _ _ (operation?_flushChain d.chain)
    · exact hother _ _ (operation?_createChain d.chain)
  have hbody : appended filterTable name (commands (body p traceId d)) = [] := by
    refine appended_eq_nil fun c hc => ?_
    obtain ⟨op, hop⟩ := operation?_of_fills (fills_body p traceId d hc)
    exact hother c op hop
  have hlink : appended filterTable name [d.link] = [] :=
    appended_eq_nil fun c hc => List.mem_singleton.mp hc ▸ hother _ _ (operation?_link d)
  rw [directed, commands_append, commands_append, appended_append, appended_append, hensure, hbody,
    commands_ensureJump, hjump, if_neg Bool.false_ne_true, ← List.singleton_append,
    appended_append, hlink]
  rfl

/-- A run that installs a policy where there is no redirection appends its rules that drop
packets, and no other filter. -/
theorem appended_filters_compile {t₀ : Table} (base : t₀.Base) {listing : String}
    (lists : t₀.Lists listing) {r : Result}
    (compiled : ((new p traceId).compile listing).1 = .ok r) (name : String) :
    appended filterTable name r.commands = p.drops traceId name := by
  have hjump : ∀ d : Direction, (Installed.scan listing).jump d = false := by
    intro d
    obtain ⟨old, hold⟩ := base.exists_hook d
    rw [Bool.eq_false_iff]
    intro hscan
    -- the chain of the hook would end with the jump that it does not have
    have hlookup := (base.extends.scan_jump base lists d).mp hscan
    rw [hold, Option.map_some, Option.some.injEq] at hlookup
    simpa using congrArg List.length hlookup
  rw [commands_compile p traceId compiled, appended_append, appended_filters_directed (hjump _),
    appended_filters_directed (hjump _), Policy.drops, appended_append]

theorem grows_of_mem_compile (hinput : Rule.input ∈ f) (houtput : Rule.output ∈ f)
    {listing : String} {r : Result} (compiled : ((new p traceId).compile listing).1 = .ok r)
    (h : c ∈ r.commands) : c.Grows filterTable f := by
  rw [commands_compile p traceId compiled] at h
  rcases List.mem_append.mp h with h | h
  · exact grows_of_mem_directed hinput houtput h
  · exact grows_of_mem_directed hinput houtput h

/-- The commands that remove a redirection are not about filters. -/
theorem operation?_of_mem_teardown (h : c ∈ teardown) :
    ∃ op, c.operation? = some (natTable, op) := by
  simp only [teardown, List.mem_cons, List.not_mem_nil, or_false] at h
  rcases h with rfl | rfl | rfl | rfl | rfl | rfl <;> exact ⟨_, rfl⟩

end Compiler

/-! ## What a policy drops -/

namespace Policy

variable {p : Policy} (traceId : String)

theorem drops_of_dropFin (h : p.dropFin = true) : p.drops traceId Rule.input ≠ [] := by
  have hdrops : p.drops traceId Rule.input =
      [["-p", "tcp", "--dport", toString p.inboundPort, "--tcp-flags", "FIN", "FIN", "-j",
          "DROP"] ++
        Command.commentArgs "drop-inbound-fin-to-proxy-for-testing" traceId] := by
    simp only [drops, Compiler.drop, h]
    rfl
  rw [hdrops]
  exact List.cons_ne_nil _ _

theorem drops_eq_nil (h : p.dropFin = false) (name : String) : p.drops traceId name = [] := by
  simp only [drops, Compiler.drop, h]
  rfl

end Policy

/-! ## Cycles -/

namespace Table

open Compiler (Result new teardown)

/-- The commands of cycles, each of which installs a policy, compiled against a listing of the
table as it is then, and removes it. -/
inductive Cycles (t₀ : Table) : List (Policy × String) → List Command → Prop
  | none : Cycles t₀ [] []
  | cycle {runs : List (Policy × String)} {cs : List Command} {t : Table} {p : Policy}
    {traceId listing : String} {r : Result} (before : Cycles t₀ runs cs)
    (reached : obeyAll natTable t₀ cs = some t) (lists : t.Lists listing)
    (compiled : ((new p traceId).compile listing).1 = .ok r) :
    Cycles t₀ (runs ++ [(p, traceId)]) (cs ++ (r.commands ++ teardown))

/-- The rules of cycles in a chain of the table of filters. -/
def remains (runs : List (Policy × String)) (name : String) : List Spec :=
  runs.flatMap fun run => run.1.drops run.2 name

variable {t₀ f₀ : Table} {runs : List (Policy × String)} {cs : List Command}

/-- One cycle leads back to the table at the start, and leaves the rules of its policy in the table
of filters. -/
theorem obeyAll_cycle (base : t₀.Base) {p : Policy} {traceId listing : String}
    (lists : t₀.Lists listing) {r : Result}
    (compiled : ((new p traceId).compile listing).1 = .ok r) {f : Table}
    (hinput : Rule.input ∈ f) (houtput : Rule.output ∈ f) :
    obeyAll natTable t₀ (r.commands ++ teardown) = some t₀ ∧
      ∃ g, obeyAll filterTable f (r.commands ++ teardown) = some g ∧
        ∀ name, g.lookup name = (f.lookup name).map (· ++ p.drops traceId name) := by
  constructor
  · obtain ⟨u, hrun, installed⟩ := obeyAll_compile base base.extends lists compiled
    rw [obeyAll_append, hrun]
    exact installed.obeyAll_teardown base
  · have hgrows : ∀ c ∈ r.commands ++ teardown, c.Grows filterTable f := by
      intro c hc
      rcases List.mem_append.mp hc with hc | hc
      · exact Compiler.grows_of_mem_compile hinput houtput compiled hc
      · obtain ⟨op, hop⟩ := Compiler.operation?_of_mem_teardown hc
        exact Command.grows_of_ne hop (by decide) f
    obtain ⟨g, hg, hlookup⟩ := exists_obeyAll_of_grows hgrows
    refine ⟨g, hg, fun name => ?_⟩
    have hteardown : appended filterTable name teardown = [] := rfl
    rw [hlookup, appended_append, Compiler.appended_filters_compile base lists compiled, hteardown,
      List.append_nil]

/-- **Every cycle leaves the rules of its policy that drop packets**, and nothing else. -/
theorem Cycles.exists_obeyAll (base : t₀.Base) (hinput : Rule.input ∈ f₀)
    (houtput : Rule.output ∈ f₀) (h : Cycles t₀ runs cs) :
    obeyAll natTable t₀ cs = some t₀ ∧ ∃ f, obeyAll filterTable f₀ cs = some f ∧
      ∀ name, f.lookup name = (f₀.lookup name).map (· ++ remains runs name) := by
  induction h with
  | none => exact ⟨rfl, f₀, rfl, fun name => by simp [remains]⟩
  | @cycle runs cs t p traceId listing r before reached lists compiled ih =>
    obtain ⟨hnat, f, hfilters, hlookup⟩ := ih
    -- the cycle starts from the table at the start, since the ones before it lead back there
    obtain rfl : t₀ = t := Option.some.inj (hnat.symm.trans reached)
    obtain ⟨hcycle, g, hg, hlookup'⟩ := obeyAll_cycle base lists compiled
      ((mem_iff_of_lookup hlookup _).mpr hinput) ((mem_iff_of_lookup hlookup _).mpr houtput)
    refine ⟨?_, g, ?_, fun name => ?_⟩
    · rw [obeyAll_append, hnat]
      exact hcycle
    · rw [obeyAll_append, hfilters]
      exact hg
    · rw [hlookup', hlookup, Option.map_map]
      simp [remains, Function.comp_def]

theorem dropFin_of_remains_eq_nil (h : remains runs Rule.input = []) :
    ∀ run ∈ runs, run.1.dropFin = false := by
  intro run hrun
  rw [Bool.eq_false_iff]
  intro hdrop
  exact Policy.drops_of_dropFin run.2 hdrop (List.flatMap_eq_nil_iff.mp h run hrun)

theorem remains_eq_nil (h : ∀ run ∈ runs, run.1.dropFin = false) (name : String) :
    remains runs name = [] :=
  List.flatMap_eq_nil_iff.mpr fun run hrun => Policy.drops_eq_nil run.2 (h run hrun) name

/-- **What cycles leave in both tables.** No command is rejected. The table of address translation
is what it was before, and every chain of the table of filters has the rules of all cycles that drop
packets at its end, so that this table is what it was before if and only if no policy asks for such
rules. -/
theorem cycles_filters (base : t₀.Base) (hinput : Rule.input ∈ f₀) (houtput : Rule.output ∈ f₀)
    (h : Cycles t₀ runs cs) :
    obeyAll natTable t₀ cs = some t₀ ∧ ∃ f, obeyAll filterTable f₀ cs = some f ∧
      (∀ name, f.lookup name = (f₀.lookup name).map (· ++ remains runs name)) ∧
      (f = f₀ ↔ ∀ run ∈ runs, run.1.dropFin = false) := by
  obtain ⟨hnat, f, hfilters, hlookup⟩ := h.exists_obeyAll base hinput houtput
  refine ⟨hnat, f, hfilters, hlookup, ?_⟩
  constructor
  · rintro rfl
    -- a chain that is what it was before has got no rule
    obtain ⟨rules, hrules⟩ := Finmap.mem_iff.mp hinput
    have hsame := hlookup Rule.input
    rw [hrules, Option.map_some, Option.some.injEq] at hsame
    exact dropFin_of_remains_eq_nil (List.self_eq_append_right.mp hsame)
  · intro hnone
    refine Finmap.ext_lookup fun name => ?_
    rw [hlookup, remains_eq_nil hnone]
    simp

/-! ## A policy that drops packets -/

/-- The chains of a table of filters. -/
def filters : AList fun _ : String => List Spec :=
  ⟨[⟨"INPUT", []⟩, ⟨"FORWARD", []⟩, ⟨"OUTPUT", [["-j", "ACCEPT"]]⟩],
    by unfold List.NodupKeys; decide⟩

/-- The sidecar's policy with rules that drop packets. -/
def dropping : Policy := { Policy.sidecar with dropFin := true }

theorem input_mem_filters : Rule.input ∈ filters.toFinmap := by decide

theorem output_mem_filters : Rule.output ∈ filters.toFinmap := by decide

/-- A further cycle, for a policy that compiles against the chains of a table without a
redirection. -/
theorem exists_cycle {cs : List Command} (before : Cycles plain.toFinmap runs cs) {p : Policy}
    {traceId : String}
    (h : Compiler.stopped? (Compiler.steps p traceId (Installed.scan (listing plain))) = none) :
    ∃ ds, Cycles plain.toFinmap (runs ++ [(p, traceId)]) ds := by
  have compiled := (Compiler.compile_eq_ok_iff p traceId).mpr ⟨h, rfl⟩
  obtain ⟨hnat, -⟩ := before.exists_obeyAll base_plain input_mem_filters output_mem_filters
  exact ⟨_, .cycle before hnat (lists_listing plain) compiled⟩

theorem exists_cycle_dropping :
    ∃ cs, Cycles plain.toFinmap [(dropping, "1700000000")] cs :=
  exists_cycle .none (by decide +kernel)

/-- A cycle that drops packets, and one that does not after it. -/
theorem cycles_filters_dropping :
    Base plain.toFinmap ∧ ∃ cs f,
      Cycles plain.toFinmap [(dropping, "1700000000"), (Policy.sidecar, "1700000001")] cs ∧
      obeyAll filterTable filters.toFinmap cs = some f ∧
      f.lookup Rule.input = some (dropping.drops "1700000000" Rule.input) := by
  obtain ⟨cs, hfirst⟩ := exists_cycle_dropping
  obtain ⟨ds, hboth⟩ := exists_cycle hfirst
    (by decide +kernel : Compiler.stopped? (Compiler.steps Policy.sidecar "1700000001"
      (Installed.scan (listing plain))) = none)
  obtain ⟨-, f, hf, hlookup, -⟩ :=
    cycles_filters base_plain input_mem_filters output_mem_filters hboth
  refine ⟨base_plain, ds, f, hboth, hf, ?_⟩
  rw [hlookup]
  rfl

/-- After one cycle with a policy that drops packets, the table of filters is not what it was
before. -/
theorem filters_not_restored :
    Base plain.toFinmap ∧ ∃ cs f, Cycles plain.toFinmap [(dropping, "1700000000")] cs ∧
      obeyAll natTable plain.toFinmap cs = some plain.toFinmap ∧
      obeyAll filterTable filters.toFinmap cs = some f ∧ f ≠ filters.toFinmap := by
  obtain ⟨cs, hcs⟩ := exists_cycle_dropping
  obtain ⟨hnat, f, hf, hlookup⟩ :=
    hcs.exists_obeyAll base_plain input_mem_filters output_mem_filters
  refine ⟨base_plain, cs, f, hcs, hnat, hf, ?_⟩
  rintro rfl
  have hinput := hlookup Rule.input
  have hremains : remains [(dropping, "1700000000")] Rule.input ≠ [] := by
    simpa [remains] using Policy.drops_of_dropFin "1700000000" (rfl : dropping.dropFin = true)
  have hfilters : filters.toFinmap.lookup Rule.input = some [] := rfl
  rw [hfilters, Option.map_some, Option.some.injEq] at hinput
  exact hremains hinput.symm

end Table

end PodRedirect
