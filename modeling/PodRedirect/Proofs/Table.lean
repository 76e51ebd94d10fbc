import Mathlib.Data.Finmap
import PodRedirect.Compiler

/-!
# Tables

A table has chains by name, each with its rules in order. A command is an operation on one chain of
one table. An operation that does not apply is rejected, and a rejected command changes nothing.

## Main definitions

* `Spec`: what a rule of a chain is made of, and `Spec.target?`, where it goes on
* `Table`: chains by name
* `Operation`, `Command.operation?`: what a command does, and to which table
* `Operation.perform`, `Table.obey`: an operation, or a command, on a table
* `Table.obeyAll`, `Table.persist`: commands in order, none of which, or each of which, may be
  rejected
* `Table.Attempt`: commands in order, each of which may fail without effect

## Main results

* `Operation.perform_closed`: no operation leaves a jump to a chain that is not there
* `Table.attempt_iff`: what failures leave of a run
-/

namespace PodRedirect

/-! ## Rules and tables -/

/-- What a rule of a chain is made of: its arguments, without the chain. -/
abbrev Spec := List String

/-- The options that name the target. -/
def targetOptions : List String := ["-j", "--jump", "-g", "--goto"]

/-- The other options that are followed by a value. -/
def valuedOptions : List String :=
  ["-m", "--match", "-p", "-s", "-d", "-i", "-o", "--comment", "--uid-owner", "--gid-owner",
    "--dport", "--dports", "--destination-port", "--to-port"]

/-- The target that a rule goes on in, if it has one. The value of another option is no target. -/
def Spec.target? : Spec → Option String
  | name :: value :: rest =>
    -- a value may read like an option, so it is passed over together with its option
    if name ∈ targetOptions then some value
    else if name ∈ valuedOptions then Spec.target? rest
    else Spec.target? (value :: rest)
  | _ => none

/-- The targets that are no chains. -/
def builtinTargets : List String :=
  ["ACCEPT", "DROP", "QUEUE", "RETURN", "REDIRECT", "DNAT", "SNAT", "MASQUERADE", "MARK", "LOG",
    "REJECT"]

/-- A table: chains by name, each with its rules in order. -/
abbrev Table := Finmap fun _ : String => List Spec

namespace Table

/-- A rule of the table goes on in the given chain. -/
def Mentions (t : Table) (chain : String) : Prop :=
  ∃ name ∈ t.keys, ∃ s ∈ (t.lookup name).getD [], Spec.target? s = some chain

instance (t : Table) (chain : String) : Decidable (t.Mentions chain) :=
  inferInstanceAs (Decidable (∃ name ∈ t.keys, _))

/-- The target of the rule is there. -/
def Admits (t : Table) (s : Spec) : Prop :=
  ∀ x ∈ Spec.target? s, x ∈ builtinTargets ∨ x ∈ t

instance (t : Table) (s : Spec) : Decidable (t.Admits s) :=
  inferInstanceAs (Decidable (∀ x ∈ Spec.target? s, _))

theorem mentions_iff {t : Table} {chain : String} :
    t.Mentions chain ↔
      ∃ name rules, t.lookup name = some rules ∧ ∃ s ∈ rules, Spec.target? s = some chain := by
  constructor
  · rintro ⟨name, hname, s, hs, htarget⟩
    obtain ⟨rules, hrules⟩ := Finmap.mem_iff.mp (Finmap.mem_keys.mp hname)
    rw [hrules] at hs
    exact ⟨name, rules, hrules, s, hs, htarget⟩
  · rintro ⟨name, rules, hrules, s, hs, htarget⟩
    refine ⟨name, Finmap.mem_keys.mpr (Finmap.mem_of_lookup_eq_some hrules), s, ?_, htarget⟩
    rw [hrules]
    exact hs

theorem mem_of_lookup {t : Table} {name : String} {rules : List Spec}
    (h : t.lookup name = some rules) : name ∈ t :=
  Finmap.mem_of_lookup_eq_some h

/-- Inserting what is there already changes nothing. -/
theorem insert_of_lookup {t : Table} {name : String} {rules : List Spec}
    (h : t.lookup name = some rules) : t.insert name rules = t := by
  refine Finmap.ext_lookup fun x => ?_
  by_cases hx : x = name
  · rw [hx, Finmap.lookup_insert, h]
  · rw [Finmap.lookup_insert_of_ne _ hx]

end Table

/-! ## Operations -/

/-- What a command does to a table. -/
inductive Operation where
  | create (chain : String)
  | flush (chain : String)
  | remove (chain : String)
  | append (chain : String) (s : Spec)
  | delete (chain : String) (s : Spec)
  deriving DecidableEq, Repr

namespace Operation

/-- The table and the operation that the arguments of a command name. -/
def ofArgs? : List String → Option (String × Operation)
  | ["-t", table, "-N", chain] => some (table, .create chain)
  | ["-t", table, "-F", chain] => some (table, .flush chain)
  | ["-t", table, "-X", chain] => some (table, .remove chain)
  | "-t" :: table :: "-A" :: chain :: s => some (table, .append chain s)
  | "-t" :: table :: "-D" :: chain :: s => some (table, .delete chain s)
  | _ => none

/-- The table after an operation; there is none if the operation is rejected. A chain is only
created if it is missing, and only removed if it is empty and no rule goes on in it; a rule is only
appended if its target is there, and the first rule of exactly the given kind is deleted. -/
def perform (t : Table) : Operation → Option Table
  | .create chain => if chain ∈ t then none else some (t.insert chain [])
  | .flush chain => if chain ∈ t then some (t.insert chain []) else none
  | .remove chain =>
    if t.lookup chain = some [] ∧ ¬ t.Mentions chain then some (t.erase chain) else none
  | .append chain s =>
    match t.lookup chain with
    | some rules => if t.Admits s then some (t.insert chain (rules ++ [s])) else none
    | none => none
  | .delete chain s =>
    match t.lookup chain with
    | some rules => if s ∈ rules then some (t.insert chain (rules.erase s)) else none
    | none => none

/-! Each operation applies under its own condition, and with its own effect. -/

section Perform

variable {t u : Table} {chain : String} {s : Spec}

theorem perform_create : (create chain).perform t = some u ↔ chain ∉ t ∧ u = t.insert chain [] := by
  by_cases h : chain ∈ t <;> simp [perform, h, eq_comm]

theorem perform_flush : (flush chain).perform t = some u ↔ chain ∈ t ∧ u = t.insert chain [] := by
  by_cases h : chain ∈ t <;> simp [perform, h, eq_comm]

theorem perform_remove : (remove chain).perform t = some u ↔
    t.lookup chain = some [] ∧ ¬ t.Mentions chain ∧ u = t.erase chain := by
  by_cases h : t.lookup chain = some [] ∧ ¬ t.Mentions chain
  · simp [perform, h, eq_comm]
  · simp only [perform, h, if_false, reduceCtorEq, false_iff]
    exact fun ⟨h₁, h₂, _⟩ => h ⟨h₁, h₂⟩

theorem perform_append : (append chain s).perform t = some u ↔
    ∃ rules, t.lookup chain = some rules ∧ t.Admits s ∧ u = t.insert chain (rules ++ [s]) := by
  cases hl : t.lookup chain with
  | none => simp [perform, hl]
  | some rules => by_cases h : t.Admits s <;> simp [perform, hl, h, eq_comm]

theorem perform_delete : (delete chain s).perform t = some u ↔
    ∃ rules, t.lookup chain = some rules ∧ s ∈ rules ∧ u = t.insert chain (rules.erase s) := by
  cases hl : t.lookup chain with
  | none => simp [perform, hl]
  | some rules => by_cases h : s ∈ rules <;> simp [perform, hl, h, eq_comm]

end Perform

/-- The chain that an operation changes. -/
def chain : Operation → String
  | .create c | .flush c | .remove c | .append c _ | .delete c _ => c

/-- An operation changes only its own chain. -/
theorem perform_lookup_of_ne {op : Operation} {t u : Table} (h : op.perform t = some u)
    {name : String} (hname : name ≠ op.chain) : u.lookup name = t.lookup name := by
  cases op with
  | create c =>
    obtain ⟨-, rfl⟩ := perform_create.mp h
    exact Finmap.lookup_insert_of_ne _ hname
  | flush c =>
    obtain ⟨-, rfl⟩ := perform_flush.mp h
    exact Finmap.lookup_insert_of_ne _ hname
  | remove c =>
    obtain ⟨-, -, rfl⟩ := perform_remove.mp h
    exact Finmap.lookup_erase_ne hname
  | append c s =>
    obtain ⟨rules, -, -, rfl⟩ := perform_append.mp h
    exact Finmap.lookup_insert_of_ne _ hname
  | delete c s =>
    obtain ⟨rules, -, -, rfl⟩ := perform_delete.mp h
    exact Finmap.lookup_insert_of_ne _ hname

/-- A rule that is there after an operation was there before, or was appended by it. -/
theorem mem_of_perform {op : Operation} {t u : Table} (h : op.perform t = some u) {name : String}
    {rules : List Spec} (hrules : u.lookup name = some rules) {s : Spec} (hs : s ∈ rules) :
    (∃ old, t.lookup name = some old ∧ s ∈ old) ∨ op = .append name s ∧ t.Admits s := by
  -- all other chains have the rules that they had
  by_cases hname : name = op.chain
  · cases op with
    | create c =>
      obtain ⟨-, rfl⟩ := perform_create.mp h
      obtain rfl : name = c := hname
      rw [Finmap.lookup_insert] at hrules
      cases hrules
      cases hs
    | flush c =>
      obtain ⟨-, rfl⟩ := perform_flush.mp h
      obtain rfl : name = c := hname
      rw [Finmap.lookup_insert] at hrules
      cases hrules
      cases hs
    | remove c =>
      obtain ⟨-, -, rfl⟩ := perform_remove.mp h
      obtain rfl : name = c := hname
      rw [Finmap.lookup_erase] at hrules
      cases hrules
    | append c x =>
      obtain ⟨old, hold, hadmits, rfl⟩ := perform_append.mp h
      obtain rfl : name = c := hname
      rw [Finmap.lookup_insert] at hrules
      cases hrules
      rcases List.mem_append.mp hs with hs | hs
      · exact Or.inl ⟨old, hold, hs⟩
      · rw [List.mem_singleton.mp hs]
        exact Or.inr ⟨rfl, hadmits⟩
    | delete c x =>
      obtain ⟨old, hold, -, rfl⟩ := perform_delete.mp h
      obtain rfl : name = c := hname
      rw [Finmap.lookup_insert] at hrules
      cases hrules
      exact Or.inl ⟨old, hold, List.mem_of_mem_erase hs⟩
  · rw [perform_lookup_of_ne h hname] at hrules
    exact Or.inl ⟨rules, hrules, hs⟩

/-- A chain that is there stays there unless it is removed, and then nothing goes on in it. -/
theorem mem_of_perform_of_mem {op : Operation} {t u : Table} (h : op.perform t = some u)
    {name : String} (hname : name ∈ t) : name ∈ u ∨ ¬ t.Mentions name ∧ op = .remove name := by
  by_cases hchain : name = op.chain
  · cases op with
    | create c =>
      obtain ⟨-, rfl⟩ := perform_create.mp h
      exact Or.inl (Finmap.mem_insert.mpr (Or.inr hname))
    | flush c =>
      obtain ⟨-, rfl⟩ := perform_flush.mp h
      exact Or.inl (Finmap.mem_insert.mpr (Or.inr hname))
    | remove c =>
      obtain ⟨-, hmentions, -⟩ := perform_remove.mp h
      obtain rfl : name = c := hchain
      exact Or.inr ⟨hmentions, rfl⟩
    | append c s =>
      obtain ⟨rules, -, -, rfl⟩ := perform_append.mp h
      exact Or.inl (Finmap.mem_insert.mpr (Or.inr hname))
    | delete c s =>
      obtain ⟨rules, -, -, rfl⟩ := perform_delete.mp h
      exact Or.inl (Finmap.mem_insert.mpr (Or.inr hname))
  · rw [← Finmap.lookup_isSome, ← perform_lookup_of_ne h hchain] at hname
    exact Or.inl (Finmap.lookup_isSome.mp hname)

/-- **No operation leaves a jump to a chain that is not there**, if there was none before. -/
theorem perform_closed {op : Operation} {t u : Table} (h : op.perform t = some u) {name : String}
    (hname : name ∉ builtinTargets) (closed : t.Mentions name → name ∈ t) :
    u.Mentions name → name ∈ u := by
  intro hmentions
  obtain ⟨place, rules, hrules, s, hs, htarget⟩ := Table.mentions_iff.mp hmentions
  -- an old jump keeps its chain from being removed, and a new one is only admitted with its chain
  rcases mem_of_perform h hrules hs with ⟨old, hold, hs⟩ | ⟨rfl, hadmits⟩
  · have ht : t.Mentions name := Table.mentions_iff.mpr ⟨place, old, hold, s, hs, htarget⟩
    rcases mem_of_perform_of_mem h (closed ht) with hu | ⟨hnot, -⟩
    · exact hu
    · exact absurd ht hnot
  · have ht : name ∈ t := (hadmits name htarget).resolve_left hname
    exact (mem_of_perform_of_mem h ht).resolve_right fun hremove => by cases hremove.2

end Operation

/-! ## Commands -/

/-- The table that a command is about, and what it does to it. -/
def Command.operation? (c : Command) : Option (String × Operation) := Operation.ofArgs? c.args

namespace Table

/-- What a command does to the table of the given name; there is no table afterwards if the command
is rejected. A command on another table leaves this one as it is. -/
def obey (table : String) (t : Table) (c : Command) : Option Table :=
  match c.operation? with
  | some (name, op) => if name = table then op.perform t else some t
  | none => none

/-- Commands in order, none of which is rejected. -/
def obeyAll (table : String) (t : Table) (cs : List Command) : Option Table :=
  cs.foldlM (obey table) t

/-- A command, which is passed over if it is rejected. -/
def proceed (table : String) (t : Table) (c : Command) : Table := (obey table t c).getD t

/-- Commands in order. A rejected one is passed over. -/
def persist (table : String) (t : Table) (cs : List Command) : Table :=
  cs.foldl (proceed table) t

/-- Commands in order, any of which may fail without effect, on its own account or because it is
rejected. A failure ends the run or is passed over. -/
inductive Attempt (table : String) : List Command → Table → Table → Prop
  | finished (t : Table) : Attempt table [] t t
  | stopped (c : Command) (cs : List Command) (t : Table) : Attempt table (c :: cs) t t
  | skipped {c : Command} {cs : List Command} {t u : Table} (rest : Attempt table cs t u) :
    Attempt table (c :: cs) t u
  | obeyed {c : Command} {cs : List Command} {t u v : Table} (h : obey table t c = some u)
    (rest : Attempt table cs u v) : Attempt table (c :: cs) t v

variable {table : String} {t u : Table} {c : Command} {cs ds : List Command}

@[simp] theorem obeyAll_nil : obeyAll table t [] = some t := rfl

theorem obeyAll_cons : obeyAll table t (c :: cs) = (obey table t c).bind (obeyAll table · cs) := rfl

theorem obeyAll_append :
    obeyAll table t (cs ++ ds) = (obeyAll table t cs).bind (obeyAll table · ds) :=
  List.foldlM_append

@[simp] theorem persist_nil : persist table t [] = t := rfl

@[simp] theorem persist_cons :
    persist table t (c :: cs) = persist table (proceed table t c) cs := rfl

theorem proceed_of_obey (h : obey table t c = some u) : proceed table t c = u := by
  simp [proceed, h]

theorem proceed_of_rejected (h : obey table t c = none) : proceed table t c = t := by
  simp [proceed, h]

theorem obey_of_operation {op : Operation} (h : c.operation? = some (table, op)) :
    obey table t c = op.perform t := by
  simp [obey, h]

theorem obey_of_other {name : String} {op : Operation} (h : c.operation? = some (name, op))
    (hname : name ≠ table) : obey table t c = some t := by
  simp [obey, h, hname]

/-- What failures leave of a run are some of its commands, in their order. -/
theorem attempt_iff :
    Attempt table cs t u ↔ ∃ ds, ds.Sublist cs ∧ obeyAll table t ds = some u := by
  constructor
  · intro h
    induction h with
    | finished t => exact ⟨[], List.Sublist.refl [], rfl⟩
    | stopped c cs t => exact ⟨[], List.nil_sublist _, rfl⟩
    | skipped rest ih =>
      obtain ⟨ds, hds, hrun⟩ := ih
      exact ⟨ds, hds.cons _, hrun⟩
    | @obeyed c cs t u v hc rest ih =>
      obtain ⟨ds, hds, hrun⟩ := ih
      refine ⟨c :: ds, hds.cons_cons c, ?_⟩
      rw [obeyAll_cons, hc]
      exact hrun
  · rintro ⟨ds, hds, hrun⟩
    -- the commands that are left out are those that fail
    induction hds generalizing t with
    | slnil =>
      obtain rfl : t = u := Option.some.inj hrun
      exact .finished t
    | cons c hds ih => exact .skipped (ih hrun)
    | cons_cons c hds ih =>
      rw [obeyAll_cons] at hrun
      obtain ⟨v, hv, hrun⟩ := Option.bind_eq_some_iff.mp hrun
      exact .obeyed hv (ih hrun)

end Table

end PodRedirect
