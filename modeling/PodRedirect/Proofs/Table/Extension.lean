import PodRedirect.Proofs.Table.Listing

/-!
# Tables with parts of a redirection

Whatever commands of a redirection were performed, in whatever order and with whatever failures, the
table differs from the one at the start only in the parts of the redirection: its two chains, and at
most one jump at the end of each of the two chains that packets come through.

## Main definitions

* `Table.Base`: a table without any part of a redirection
* `Table.Extends`: a table with parts of a redirection, over one without
* `Operation.Own`, `Command.Own`: the operations and commands of a redirection

## Main results

* `Table.Extends.perform`: an operation of a redirection keeps `Table.Extends`
* `Table.Attempt.extends`: so does a run of its commands, however it ends
* `Table.Extends.scan_jump`: a scan sees the jump of a direction if and only if it is there
-/

namespace PodRedirect

open Rule (natTable)

/-! ## The operations of a redirection -/

/-- The operations of a redirection on the table of address translation. Its own rules fit on a line
and go on in no other chain, unless they are outbound and go on in the chain for inbound traffic. -/
inductive Operation.Own : Operation → Prop
  | create (d : Direction) : Own (.create d.chain)
  | flush (d : Direction) : Own (.flush d.chain)
  | remove (d : Direction) : Own (.remove d.chain)
  | fill (d : Direction) {s : Spec} (line : s.OneLine)
    (target : ∀ x ∈ s.target?, x ∈ builtinTargets ∨ d = .outbound ∧ x = Direction.inbound.chain) :
    Own (.append d.chain s)
  | link (d : Direction) : Own (.append d.hook d.jump)
  | unlink (d : Direction) : Own (.delete d.hook d.jump)

namespace Operation.Own

variable {op : Operation}

/-- An operation of a redirection is about one of its chains or one that packets come through. -/
theorem chain_eq (own : op.Own) : ∃ d : Direction, op.chain = d.chain ∨ op.chain = d.hook := by
  cases own with
  | create d => exact ⟨d, Or.inl rfl⟩
  | flush d => exact ⟨d, Or.inl rfl⟩
  | remove d => exact ⟨d, Or.inl rfl⟩
  | fill d line target => exact ⟨d, Or.inl rfl⟩
  | link d => exact ⟨d, Or.inr rfl⟩
  | unlink d => exact ⟨d, Or.inr rfl⟩

/-- On a chain that packets come through, it only adds or deletes the jump. -/
theorem eq_of_chain_eq_hook (own : op.Own) {d : Direction} (h : op.chain = d.hook) :
    op = .append d.hook d.jump ∨ op = .delete d.hook d.jump := by
  cases own with
  | create e => exact absurd h (Direction.chain_ne_hook e d)
  | flush e => exact absurd h (Direction.chain_ne_hook e d)
  | remove e => exact absurd h (Direction.chain_ne_hook e d)
  | fill e line target => exact absurd h (Direction.chain_ne_hook e d)
  | link e => exact Or.inl (Direction.hook_inj.mp h ▸ rfl)
  | unlink e => exact Or.inr (Direction.hook_inj.mp h ▸ rfl)

/-- A rule that it appends to a chain of the redirection is one of its own. -/
theorem of_append {d : Direction} {s : Spec} (own : Own (.append d.chain s)) :
    s.OneLine ∧
      ∀ x ∈ s.target?, x ∈ builtinTargets ∨ d = .outbound ∧ x = Direction.inbound.chain := by
  generalize hchain : d.chain = name at own
  cases own with
  | fill e line target =>
    obtain rfl : d = e := Direction.chain_inj.mp hchain
    exact ⟨line, target⟩
  | link e => exact absurd hchain (Direction.chain_ne_hook d e)

end Operation.Own

/-- The command is one of a redirection, if it is about address translation at all. -/
def Command.Own (c : Command) : Prop :=
  ∃ table op, c.operation? = some (table, op) ∧ (table = natTable → op.Own)

/-- The command adds the jump of a direction. -/
def Command.links (d : Direction) (c : Command) : Bool :=
  c.operation? = some (natTable, .append d.hook d.jump)

namespace Table

/-! ## Invariant -/

/-- A table without any part of a redirection: it has the two chains that packets come through but
not the two of the redirection, none of its rules reads like a jump to one of those, and none goes
on in them, since no rule goes on in a chain that is not there. -/
structure Base (t : Table) : Prop where
  hooks : ∀ d : Direction, d.hook ∈ t
  chains : ∀ d : Direction, d.chain ∉ t
  closed : ∀ d : Direction, ¬ t.Mentions d.chain
  noJump : ∀ (d : Direction) (rules : List Spec), t.lookup d.hook = some rules →
    ∀ s ∈ rules, Installed.jumps d.hook d.chain (Line.rule d.hook s).text.toList = false
  readable : t.Readable

/-- A table with parts of a redirection, over one without: all other chains are as they were, each
chain that packets come through has at most the jump in addition, at its end, the rules in the
chains of the redirection go on nowhere but from the outbound to the inbound one, and no jump leads
to a chain that is not there. -/
structure Extends (t₀ t : Table) : Prop where
  foreign : ∀ name, (∀ d : Direction, name ≠ d.chain ∧ name ≠ d.hook) →
    t.lookup name = t₀.lookup name
  hooks : ∀ d : Direction, t.lookup d.hook = t₀.lookup d.hook ∨
    t.lookup d.hook = (t₀.lookup d.hook).map (· ++ [d.jump])
  bodies : ∀ (d : Direction) (rules : List Spec), t.lookup d.chain = some rules → ∀ s ∈ rules,
    s.OneLine ∧
      ∀ x ∈ s.target?, x ∈ builtinTargets ∨ d = .outbound ∧ x = Direction.inbound.chain
  closed : ∀ d : Direction, t.Mentions d.chain → d.chain ∈ t

variable {t₀ t u : Table}

theorem jumps_jump (d : Direction) :
    Installed.jumps d.hook d.chain (Line.rule d.hook d.jump).text.toList = true := by
  cases d <;> decide

theorem Base.extends (base : t₀.Base) : Extends t₀ t₀ where
  foreign := fun _ _ => rfl
  hooks := fun _ => Or.inl rfl
  bodies := fun d _ hrules => absurd (mem_of_lookup hrules) (base.chains d)
  closed := fun d h => absurd h (base.closed d)

/-- The jump of a direction is none of the rules of a table without a redirection. -/
theorem Base.jump_not_mem (base : t₀.Base) {d : Direction} {rules : List Spec}
    (hrules : t₀.lookup d.hook = some rules) : d.jump ∉ rules := by
  intro hmem
  have := base.noJump d rules hrules d.jump hmem
  rw [jumps_jump] at this
  cases this

theorem Base.exists_hook (base : t₀.Base) (d : Direction) :
    ∃ rules, t₀.lookup d.hook = some rules := Finmap.mem_iff.mp (base.hooks d)

namespace Extends

/-- **An operation of a redirection keeps the invariant**, unless it adds a jump that is there. -/
theorem perform (base : t₀.Base) (h : Extends t₀ t) {op : Operation} (own : op.Own)
    (hop : op.perform t = some u)
    (free : ∀ d : Direction, op = .append d.hook d.jump → t.lookup d.hook = t₀.lookup d.hook) :
    Extends t₀ u where
  foreign := by
    intro name hname
    obtain ⟨d, hchain⟩ := own.chain_eq
    have hne : name ≠ op.chain := by
      rcases hchain with hchain | hchain <;> rw [hchain]
      · exact (hname d).1
      · exact (hname d).2
    rw [Operation.perform_lookup_of_ne hop hne, h.foreign name hname]
  hooks := by
    intro d
    by_cases hd : op.chain = d.hook
    · rcases own.eq_of_chain_eq_hook hd with rfl | rfl
      · -- the jump goes to the end of what was there at the start
        obtain ⟨rules, hrules, -, rfl⟩ := Operation.perform_append.mp hop
        rw [Finmap.lookup_insert, ← free d rfl, hrules]
        exact Or.inr rfl
      · -- only one jump was there, at the end, since the start has none
        obtain ⟨rules, hrules, hmem, rfl⟩ := Operation.perform_delete.mp hop
        obtain ⟨old, hold⟩ := base.exists_hook d
        have hnot := base.jump_not_mem hold
        rw [Finmap.lookup_insert, hold]
        rcases h.hooks d with hhook | hhook <;> rw [hrules, hold] at hhook
        · exact absurd (Option.some.inj hhook ▸ hmem) hnot
        · obtain rfl : rules = old ++ [d.jump] := Option.some.inj hhook
          rw [List.erase_append_right _ hnot]
          simp
    · rw [Operation.perform_lookup_of_ne hop (Ne.symm hd)]
      exact h.hooks d
  bodies := by
    intro d rules hrules s hs
    rcases Operation.mem_of_perform hop hrules hs with ⟨old, hold, hmem⟩ | ⟨rfl, -⟩
    · exact h.bodies d old hold s hmem
    · exact own.of_append
  closed := fun d => Operation.perform_closed hop d.chain_not_builtin (h.closed d)

/-- An operation that does not add the jump of a direction leaves the packets of that direction as
they were at the start, if they were so before. -/
theorem perform_hook (base : t₀.Base) {op : Operation} (own : op.Own) (hop : op.perform t = some u)
    {d : Direction} (hne : op ≠ .append d.hook d.jump) (hd : t.lookup d.hook = t₀.lookup d.hook) :
    u.lookup d.hook = t₀.lookup d.hook := by
  by_cases hchain : op.chain = d.hook
  · -- the jump cannot be deleted, since it is not there
    obtain rfl := (own.eq_of_chain_eq_hook hchain).resolve_left hne
    obtain ⟨rules, hrules, hmem, -⟩ := Operation.perform_delete.mp hop
    exact absurd hmem (base.jump_not_mem (hd ▸ hrules))
  · rw [Operation.perform_lookup_of_ne hop (Ne.symm hchain), hd]

end Extends

/-! ## Runs -/

/-- Commands of a redirection, each of which adds the jump of a direction at most once, and only if
it is not there. -/
structure Linking (t₀ t : Table) (cs : List Command) : Prop where
  own : ∀ c ∈ cs, c.Own
  once : ∀ d : Direction, cs.countP (Command.links d) ≤ 1
  free : ∀ d : Direction, (∃ c ∈ cs, c.links d) → t.lookup d.hook = t₀.lookup d.hook

namespace Linking

variable {c : Command} {cs : List Command}

/-- A command may be passed over. -/
theorem tail (h : Linking t₀ t (c :: cs)) : Linking t₀ t cs where
  own := fun x hx => h.own x (List.mem_cons_of_mem _ hx)
  once := fun d => le_trans (by rw [List.countP_cons]; omega) (h.once d)
  free := fun d ⟨x, hx, hlinks⟩ => h.free d ⟨x, List.mem_cons_of_mem _ hx, hlinks⟩

/-- A command may be obeyed. -/
theorem obey (base : t₀.Base) (ext : Extends t₀ t) (h : Linking t₀ t (c :: cs))
    (hc : Table.obey natTable t c = some u) : Extends t₀ u ∧ Linking t₀ u cs := by
  obtain ⟨table, op, hop, hown⟩ := h.own c List.mem_cons_self
  by_cases htable : table = natTable
  · subst htable
    rw [obey_of_operation hop] at hc
    have hlinks : ∀ d : Direction, op = .append d.hook d.jump ↔ c.links d = true := by
      intro d
      simp [Command.links, hop]
    refine ⟨ext.perform base (hown rfl) hc fun d hd =>
      h.free d ⟨c, List.mem_cons_self, (hlinks d).mp hd⟩, h.tail.own, h.tail.once, ?_⟩
    rintro d ⟨x, hx, hxlinks⟩
    have hfree := h.tail.free d ⟨x, hx, hxlinks⟩
    -- `c` is not the command that adds the jump, since that one is still to come
    refine Extends.perform_hook base (hown rfl) hc (fun hd => ?_) hfree
    have hcount := h.once d
    rw [List.countP_cons_of_pos ((hlinks d).mp hd)] at hcount
    have hpos : 0 < cs.countP (Command.links d) := List.countP_pos_iff.mpr ⟨x, hx, hxlinks⟩
    omega
  · rw [obey_of_other hop htable] at hc
    obtain rfl : t = u := Option.some.inj hc
    exact ⟨ext, h.tail⟩

end Linking

/-- **A run of commands of a redirection keeps the invariant**, wherever it ends and whichever
commands fail. -/
theorem Attempt.extends (base : t₀.Base) {cs : List Command} (h : Attempt natTable cs t u)
    (ext : Extends t₀ t) (linking : Linking t₀ t cs) : Extends t₀ u := by
  -- the commands that are left keep to `Linking`, whatever became of those before them
  induction h with
  | finished t => exact ext
  | stopped c cs t => exact ext
  | skipped rest ih => exact ih ext linking.tail
  | obeyed hc rest ih =>
    obtain ⟨ext', linking'⟩ := linking.obey base ext hc
    exact ih ext' linking'

/-! ## What a scan sees -/

namespace Extends

/-- Every chain and every rule still fits on a line. -/
theorem readable (base : t₀.Base) (h : Extends t₀ t) : t.Readable := by
  have hhook : ∀ d : Direction, '\n' ∉ d.hook.toList := by intro d; cases d <;> decide
  have hchain : ∀ d : Direction, '\n' ∉ d.chain.toList := by intro d; cases d <;> decide
  have hjump : ∀ d : Direction, d.jump.OneLine := by
    intro d
    cases d <;> simp only [Spec.OneLine] <;> decide
  have hforeign : ∀ {name rules}, t₀.lookup name = some rules →
      (' ' ∉ name.toList ∧ '\n' ∉ name.toList) ∧ ∀ s ∈ rules, s.OneLine := fun hrules =>
    ⟨base.readable.names _ (mem_of_lookup hrules), base.readable.rules _ _ hrules⟩
  have key : ∀ name rules, t.lookup name = some rules →
      (' ' ∉ name.toList ∧ '\n' ∉ name.toList) ∧ ∀ s ∈ rules, s.OneLine := by
    intro name rules hrules
    -- the parts of the redirection are readable themselves, and the rest was so at the start
    rcases Direction.name_cases name with ⟨d, rfl⟩ | ⟨d, rfl⟩ | hname
    · exact ⟨⟨blank_not_mem_chain d, hchain d⟩, fun s hs => (h.bodies d rules hrules s hs).1⟩
    · refine ⟨⟨blank_not_mem_hook d, hhook d⟩, ?_⟩
      obtain ⟨old, hold⟩ := base.exists_hook d
      rcases h.hooks d with hhooks | hhooks <;> rw [hrules, hold] at hhooks
      · exact Option.some.inj hhooks ▸ (hforeign hold).2
      · obtain rfl : rules = old ++ [d.jump] := Option.some.inj hhooks
        intro s hs
        rcases List.mem_append.mp hs with hs | hs
        · exact (hforeign hold).2 s hs
        · exact List.mem_singleton.mp hs ▸ hjump d
    · exact hforeign (h.foreign name hname ▸ hrules)
  constructor
  · intro name hname
    obtain ⟨rules, hrules⟩ := Finmap.mem_iff.mp hname
    exact (key name rules hrules).1
  · exact fun name rules hrules => (key name rules hrules).2

/-- **A scan sees the jump of a direction if and only if it is there.** -/
theorem scan_jump (base : t₀.Base) (h : Extends t₀ t) {listing : String} (lists : t.Lists listing)
    (d : Direction) :
    (Installed.scan listing).jump d = true ↔
      t.lookup d.hook = (t₀.lookup d.hook).map (· ++ [d.jump]) := by
  rw [lists.scan_jump (h.readable base)]
  obtain ⟨old, hold⟩ := base.exists_hook d
  constructor
  · -- the rules at the start do not read like a jump, so the line is that of the jump
    rintro ⟨rules, hrules, s, hs, hjumps⟩
    refine (h.hooks d).resolve_left fun hhook => ?_
    rw [hhook] at hrules
    rw [base.noJump d rules hrules s hs] at hjumps
    cases hjumps
  · intro hhook
    rw [hold] at hhook
    exact ⟨_, hhook, d.jump, by simp, jumps_jump d⟩

/-- A scan does not see the jump of a direction if and only if the packets of the direction are
treated as at the start. -/
theorem scan_jump_eq_false (base : t₀.Base) (h : Extends t₀ t) {listing : String}
    (lists : t.Lists listing) (d : Direction) (hscan : (Installed.scan listing).jump d = false) :
    t.lookup d.hook = t₀.lookup d.hook := by
  refine (h.hooks d).resolve_right fun hhook => ?_
  rw [(h.scan_jump base lists d).mpr hhook] at hscan
  cases hscan

end Extends

end Table

end PodRedirect
