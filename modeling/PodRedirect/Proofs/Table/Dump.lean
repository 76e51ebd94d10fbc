import PodRedirect.Proofs.Compilation
import PodRedirect.Proofs.Table.History
import PodRedirect.Proofs.Table.Signature

/-!
# Dumps

What a scan sees in a dump that others have a part in. Chains are told by their lines, since a name
ends at a blank. A rule is taken for a jump if the signature of one stands anywhere on its line:
where the target has a longer name, and where a value of another option holds the signature.

## Main definitions

* `Dump.Clause`, `Dump.Rule`: the parts of a rule
* `Dump.Entry`, `Dump.text`: the lines of a dump, and the dump
* `Dump.Rule.Resembles`: the rule reads like a jump
* `Dump.Declares`, `Dump.ReadsJump`: a line declares a chain, or a rule reads like the jump to it

## Main results

* `Dump.scan_iff`: what a scan sees of a dump, and which jumps a compilation adds
* `Dump.scan_resembling`: a scan sees jumps where there is none
-/

namespace PodRedirect

namespace Dump

/-! ## Rules -/

/-- An option with its values, perhaps negated. It is none for a target. -/
structure Clause where
  negated : Bool
  name : Name
  values : List Word
  dash : name.text.toList.head? = some '-'
  other : name.text ≠ "-j"

/-- The sign that the next option is negated. -/
def bang : Name := ⟨"!", by decide⟩

/-- The words of an option. -/
def Clause.words (c : Clause) : List Word :=
  (if c.negated then [.bare bang] else []) ++ .bare c.name :: c.values

/-- What a rule does: its target, and the options of the target. -/
structure Target where
  name : Name
  options : List Clause

/-- A rule of a chain: what it matches and what it does. -/
structure Rule where
  chain : Name
  clauses : List Clause
  target : Option Target

namespace Rule

/-- All options of a rule but that for its target. -/
def options (r : Rule) : List Clause := r.clauses ++ (r.target.map Target.options).getD []

/-- The words of a target. -/
def targetWords : Option Target → List Word
  | none => []
  | some t => .bare goOn :: .bare t.name :: t.options.flatMap Clause.words

/-- The words of a rule. -/
def words (r : Rule) : List Word := r.clauses.flatMap Clause.words ++ targetWords r.target

end Rule

/-- The rule reads like a jump to the chain: the name of its target starts with that of the chain,
or the values of one of its options read like a jump. -/
def Rule.Resembles (chain : String) (r : Rule) : Prop :=
  (∃ t ∈ r.target, chain.toList <+: t.name.text.toList) ∨ ∃ c ∈ r.options, Reads chain c.values

/-! ## Dumps -/

/-- A line of a dump: it declares a chain, gives a rule, or is neither. -/
inductive Entry where
  | chain (name : Name) (rest : String) (line : '\n' ∉ rest.toList)
  | rule (r : Rule)
  | remark (text : String)
    (tidy : '\n' ∉ text.toList ∧ text.toList.head? ≠ some ':' ∧ text.toList.head? ≠ some '-')

/-- A line as it is printed. -/
def Entry.text : Entry → String
  | chain name rest _ => ":" ++ name.text ++ " " ++ rest
  | rule r => "-A " ++ r.chain.text ++ spaced r.words
  | remark text _ => text

/-- A dump with the given lines. -/
def text (es : List Entry) : String := "\n".intercalate (es.map Entry.text)

/-! ## Rules on a line -/

variable {d : Direction}

/-- No option starts with a word that starts with the name of the chain. -/
theorem not_prefix_of_mem_head? (cs : List Clause) {vs : List Word}
    (h : ∀ v ∈ vs.head?, ¬ d.chain.toList <+: v.text.toList) :
    ∀ v ∈ (cs.flatMap Clause.words ++ vs).head?, ¬ d.chain.toList <+: v.text.toList := by
  cases cs with
  | nil => simpa using h
  | cons c cs =>
    intro v hv hprefix
    have hhead := head?_of_prefix hprefix
    rw [List.flatMap_cons, Clause.words] at hv
    -- the first word is the sign for a negated option, or the name of the option
    split at hv
    · obtain rfl : Word.bare bang = v := Option.some.inj hv
      simp [Word.text, bang] at hhead
    · obtain rfl : Word.bare c.name = v := Option.some.inj hv
      rw [Word.text, c.dash] at hhead
      simp at hhead

/-- An option reads like a jump if and only if its values do. -/
theorem reads_words (c : Clause) : Reads d.chain c.words ↔ Reads d.chain c.values := by
  have hname : Word.bare c.name ≠ .bare goOn := fun h => c.other ((text_eq_iff c.name).mpr h)
  have hbang : Word.bare bang ≠ .bare goOn := by
    rw [ne_eq, ← text_eq_iff]
    decide
  have hvalues : Reads d.chain (.bare c.name :: c.values) ↔ Reads d.chain c.values := by
    rw [reads_cons]
    simp [hname]
  rw [Clause.words]
  split
  · rw [List.singleton_append, reads_cons, hvalues]
    simp [hbang]
  · exact hvalues

/-- Options read like a jump if and only if the values of one of them do. -/
theorem reads_flatMap (cs : List Clause) {vs : List Word}
    (h : ∀ v ∈ vs.head?, ¬ d.chain.toList <+: v.text.toList) :
    Reads d.chain (cs.flatMap Clause.words ++ vs) ↔
      (∃ c ∈ cs, Reads d.chain c.values) ∨ Reads d.chain vs := by
  induction cs with
  | nil => simp
  | cons c cs ih =>
    rw [List.flatMap_cons, List.append_assoc, reads_append (not_prefix_of_mem_head? cs h), ih,
      reads_words]
    simp [or_assoc]

/-- The words of a rule read like a jump if and only if its target or the values of an option do. -/
theorem reads_rule (r : Rule) : Reads d.chain r.words ↔ r.Resembles d.chain := by
  have hgoOn : ¬ d.chain.toList <+: (Word.bare goOn).text.toList := by
    cases d <;> decide
  have htarget : ∀ v ∈ (Rule.targetWords r.target).head?,
      ¬ d.chain.toList <+: v.text.toList := by
    intro v hv
    cases ht : r.target with
    | none => simp [ht, Rule.targetWords] at hv
    | some t =>
      obtain rfl : Word.bare goOn = v := by simpa [ht, Rule.targetWords] using hv
      exact hgoOn
  rw [Rule.words, reads_flatMap _ htarget, Rule.Resembles, Rule.options]
  cases r.target with
  | none => simp [Rule.targetWords, not_reads_nil]
  | some t =>
    have hnil : ∀ v ∈ ([] : List Word).head?, ¬ d.chain.toList <+: v.text.toList := by simp
    have hoptions := reads_flatMap (d := d) t.options hnil
    have hfirst := not_prefix_of_mem_head? (d := d) t.options hnil
    rw [List.append_nil] at hoptions hfirst
    have hbehind : Reads d.chain (.bare t.name :: t.options.flatMap Clause.words) ↔
        ∃ c ∈ t.options, Reads d.chain c.values := by
      have hnone : ¬ ∃ v ∈ (t.options.flatMap Clause.words).head?,
          d.chain.toList <+: v.text.toList := fun ⟨v, hv, h⟩ => hfirst v hv h
      rw [reads_cons, iff_false_intro hnone, hoptions]
      simp [not_reads_nil]
    rw [Rule.targetWords, reads_cons, hbehind]
    simp [Word.text, or_and_right, exists_or, or_left_comm]

/-- A rule is taken for a jump if and only if it is one of the right chain and reads like a jump. -/
theorem jumps_rule_iff (r : Rule) :
    Installed.jumps d.hook d.chain (Entry.rule r).text.toList = true ↔
      r.chain.text = d.hook ∧ r.Resembles d.chain := by
  have htext : (Entry.rule r).text.toList =
      "-A ".toList ++ (r.chain.text.toList ++ (spaced r.words).toList) := by
    simp [Entry.text]
  rw [← reads_rule, ← signature_infix_iff, htext]
  simp only [Installed.jumps, Bool.and_eq_true, List.isPrefixOf_iff_prefix, List.append_assoc,
    List.prefix_append_right_inj]
  cases hwords : r.words with
  | nil =>
    -- nothing follows the name of the chain, not even a blank
    rw [toList_spaced_nil, List.append_nil]
    refine iff_of_false (fun h => ?_) fun h => ?_
    · exact r.chain.plain.2.1 (h.1.subset (by simp))
    · simp [signature_eq] at h
  | cons w ws =>
    rw [toList_spaced_cons, Table.append_blank_isPrefix_iff (Table.blank_not_mem_hook d)
      r.chain.plain.2.1, String.toList_inj, eq_comm]
    refine and_congr_right fun hchain => ?_
    obtain ⟨x, xs, hxs, hx⟩ := w.exists_cons
    rw [hchain, hxs]
    have hrest : List.drop ("-A ".toList ++ (d.hook.toList ++ [' '])).length
        ("-A ".toList ++ (d.hook.toList ++ ' ' :: (x :: xs ++ (spaced ws).toList))) =
          x :: (xs ++ (spaced ws).toList) := by
      have hassoc : "-A ".toList ++ (d.hook.toList ++ ' ' :: (x :: xs ++ (spaced ws).toList)) =
          "-A ".toList ++ (d.hook.toList ++ [' ']) ++ x :: (xs ++ (spaced ws).toList) := by simp
      rw [hassoc, List.drop_left]
    -- the jump comes at once, or later on and behind a blank
    rw [hrest, Bool.or_eq_true, List.isPrefixOf_iff_prefix, occursIn_iff, List.drop_one,
      List.tail_cons, List.cons_append, List.infix_cons_iff, List.infix_cons_iff, signature_eq,
      List.cons_prefix_cons, List.cons_prefix_cons]
    simp [hx.symm]

/-- A line is taken to declare the chain if and only if it does. -/
theorem declares_iff (e : Entry) :
    Installed.declares d.chain e.text.toList = true ↔
      ∃ n rest line, e = .chain n rest line ∧ n.text = d.chain := by
  have hcolon : Installed.declares d.chain e.text.toList = true →
      e.text.toList.head? = some ':' := by
    rw [Installed.declares, List.isPrefixOf_iff_prefix]
    rintro ⟨r, hr⟩
    rw [← hr]
    rfl
  cases e with
  | chain n rest line =>
    have hdeclares : Installed.declares d.chain (Line.chain n.text rest).text.toList = true ↔
        n.text = d.chain := Table.declares_chain n.plain.2.1 d
    refine hdeclares.trans ?_
    simp [line]
  | rule r =>
    refine iff_of_false (fun h => ?_) (by simp)
    have hhead := hcolon h
    simp [Entry.text] at hhead
  | remark text tidy => exact iff_of_false (fun h => tidy.2.1 (hcolon h)) (by simp)

/-- A line is taken for a jump if and only if its rule is one of the right chain and reads like a
jump. -/
theorem jumps_iff (e : Entry) :
    Installed.jumps d.hook d.chain e.text.toList = true ↔
      ∃ r, e = .rule r ∧ r.chain.text = d.hook ∧ r.Resembles d.chain := by
  have hdash : Installed.jumps d.hook d.chain e.text.toList = true →
      e.text.toList.head? = some '-' := by
    simp only [Installed.jumps, Bool.and_eq_true, List.isPrefixOf_iff_prefix]
    rintro ⟨⟨r, hr⟩, -⟩
    rw [← hr]
    rfl
  cases e with
  | chain n rest line =>
    refine iff_of_false (fun h => ?_) (by simp)
    have hhead := hdash h
    simp [Entry.text] at hhead
  | rule r =>
    rw [jumps_rule_iff]
    simp
  | remark text tidy => exact iff_of_false (fun h => tidy.2.2 (hdash h)) (by simp)

/-! ## Scans -/

/-- The lines of a dump stay on their lines. -/
theorem newline_not_mem_text (e : Entry) : '\n' ∉ e.text.toList := by
  cases e with
  | chain n rest line => simp [Entry.text, n.plain.2.2, line]
  | rule r => simp [Entry.text, r.chain.plain.2.2, newline_not_mem_spaced]
  | remark text tidy => exact tidy.1

/-- A line of the dump declares exactly the given chain. -/
def Declares (es : List Entry) (chain : String) : Prop :=
  ∃ n rest line, .chain n rest line ∈ es ∧ n.text = chain

/-- A rule of the dump is one of the chain that the packets of the direction come through, and reads
like the jump of the direction. -/
def ReadsJump (es : List Entry) (d : Direction) : Prop :=
  ∃ r, .rule r ∈ es ∧ r.chain.text = d.hook ∧ r.Resembles d.chain

/-- A scan of a dump goes through its lines. -/
theorem any_splitOn_text (es : List Entry) {q : List Char → Bool} (hq : q [] = false) :
    ((text es).toList.splitOn '\n').any q = true ↔ ∃ e ∈ es, q e.text.toList = true := by
  have hline : ∀ x ∈ es.map Entry.text, '\n' ∉ x.toList := by
    intro x hx
    obtain ⟨e, -, rfl⟩ := List.mem_map.mp hx
    exact newline_not_mem_text e
  rw [text, Table.any_splitOn hline hq]
  simp only [List.mem_map, exists_exists_and_eq_and]

theorem scan_chain_iff (es : List Entry) (d : Direction) :
    (Installed.scan (text es)).chain d = true ↔ Declares es d.chain := by
  rw [Table.scan_chain_eq, any_splitOn_text es (by cases d <;> rfl)]
  simp only [declares_iff, Declares]
  constructor
  · rintro ⟨e, he, n, rest, line, rfl, hn⟩
    exact ⟨n, rest, line, he, hn⟩
  · rintro ⟨n, rest, line, he, hn⟩
    exact ⟨_, he, n, rest, line, rfl, hn⟩

theorem scan_jump_iff (es : List Entry) (d : Direction) :
    (Installed.scan (text es)).jump d = true ↔ ReadsJump es d := by
  rw [Table.scan_jump_eq, any_splitOn_text es (by cases d <;> rfl)]
  simp only [jumps_iff, ReadsJump]
  constructor
  · rintro ⟨e, he, r, rfl, hr⟩
    exact ⟨r, he, hr⟩
  · rintro ⟨r, he, hr⟩
    exact ⟨_, he, r, rfl, hr⟩

/-- **What a scan sees of a dump**: the chain of a redirection if and only if a line declares
exactly that chain, and its jump if and only if a rule reads like one. A compilation adds the jump
if and only if no rule does. -/
theorem scan_iff (es : List Entry) (d : Direction) :
    ((Installed.scan (text es)).chain d = true ↔ Declares es d.chain) ∧
    ((Installed.scan (text es)).jump d = true ↔ ReadsJump es d) ∧
    ∀ (p : Policy) (traceId : String) (result : Compiler.Result),
      ((Compiler.new p traceId).compile (text es)).1 = .ok result →
        ((∃ c ∈ result.commands, c.links d = true) ↔ ¬ ReadsJump es d) := by
  refine ⟨scan_chain_iff es d, scan_jump_iff es d, fun p traceId result compiled => ?_⟩
  rw [← scan_jump_iff, Bool.not_eq_true]
  exact Compiler.exists_links_iff compiled d

/-- A comment on a rule. -/
def commented (s : String) (line : '\n' ∉ s.toList) : List Clause :=
  [⟨false, ⟨"-m", by decide⟩, [.bare ⟨"comment", by decide⟩], by decide, by decide⟩,
    ⟨false, ⟨"--comment", by decide⟩, [.quoted s line], by decide, by decide⟩]

/-- A jump with a comment and a negated option before it. -/
def ownJump : Rule where
  chain := ⟨"PREROUTING", by decide⟩
  clauses := commented "to \"PROXY_INIT_OUTPUT\"" (by decide) ++
    [⟨true, ⟨"-s", by decide⟩, [.bare ⟨"10.0.0.0/8", by decide⟩], by decide, by decide⟩]
  target := some ⟨⟨"PROXY_INIT_REDIRECT", by decide⟩, []⟩

/-- The first lines of a dump: the table, and the two chains that packets come through. -/
def preamble : List Entry :=
  [.remark "*nat" (by decide), .chain ⟨"PREROUTING", by decide⟩ "ACCEPT [0:0]" (by decide),
    .chain ⟨"OUTPUT", by decide⟩ "ACCEPT [0:0]" (by decide)]

/-- A dump with that jump. -/
def linked : List Entry :=
  preamble ++ [.chain ⟨"PROXY_INIT_REDIRECT", by decide⟩ "- [0:0]" (by decide), .rule ownJump,
    .remark "COMMIT" (by decide)]

/-- A compilation against the dump adds the other jump only. -/
theorem scan_iff_linked :
    ∃ result, ((Compiler.new Policy.sidecar "1700000000").compile (text linked)).1 = .ok result ∧
      (Installed.scan (text linked)).jump .inbound = true ∧
      (¬ ∃ c ∈ result.commands, c.links .inbound = true) ∧
      ∃ c ∈ result.commands, c.links .outbound = true := by
  obtain ⟨result, compiled⟩ :=
    (Compiler.exists_compile_iff Policy.sidecar "1700000000" (text linked)).mpr
      ⟨by decide +kernel, fun _ => ⟨_, rfl⟩, fun _ => ⟨_, rfl⟩⟩
  obtain ⟨-, hinbound, hlinks⟩ := scan_iff linked .inbound
  obtain ⟨-, -, hlinks'⟩ := scan_iff linked .outbound
  have hjump : ReadsJump linked .inbound :=
    ⟨ownJump, by simp [linked, preamble], rfl, Or.inl ⟨_, rfl, List.prefix_rfl⟩⟩
  have hnone : ¬ ReadsJump linked .outbound := by
    rintro ⟨r, hr, hchain, -⟩
    obtain rfl : r = ownJump := by simpa [linked, preamble] using hr
    exact absurd hchain (by decide)
  exact ⟨result, compiled, hinbound.mpr hjump,
    fun h => (hlinks _ _ _ compiled).mp h hjump, (hlinks' _ _ _ compiled).mpr hnone⟩

/-- A rule that has what a jump looks like in its comment. -/
def remembering : Rule where
  chain := ⟨"PREROUTING", by decide⟩
  clauses := commented "was -j PROXY_INIT_REDIRECT" (by decide)
  target := some ⟨⟨"RETURN", by decide⟩, []⟩

/-- A rule that goes on in a chain with a longer name. -/
def longer : Rule where
  chain := ⟨"OUTPUT", by decide⟩
  clauses := []
  target := some ⟨⟨"PROXY_INIT_OUTPUT_OLD", by decide⟩, []⟩

/-- A dump with these rules. -/
def resembling : List Entry :=
  preamble ++ [.chain ⟨"PROXY_INIT_OUTPUT_OLD", by decide⟩ "- [0:0]" (by decide),
    .rule remembering, .rule longer, .remark "COMMIT" (by decide)]

theorem not_declares_resembling (d : Direction) : ¬ Declares resembling d.chain := by
  rintro ⟨n, rest, line, hmem, hn⟩
  have hname : n.text = "PREROUTING" ∨ n.text = "OUTPUT" ∨ n.text = "PROXY_INIT_OUTPUT_OLD" := by
    simp only [resembling, preamble, List.cons_append, List.nil_append, List.mem_cons, reduceCtorEq,
      Entry.chain.injEq, List.not_mem_nil, or_false, false_or] at hmem
    rcases hmem with h | h | h <;> simp [h.1]
  rw [hn] at hname
  cases d <;> revert hname <;> decide

theorem readsJump_resembling (d : Direction) : ReadsJump resembling d := by
  cases d with
  | inbound =>
    have hcomment : signature Direction.inbound.chain <:+: "was -j PROXY_INIT_REDIRECT".toList :=
      ⟨"was".toList, [], by decide⟩
    exact ⟨remembering, by simp [resembling], rfl,
      Or.inr ⟨_, List.mem_of_getElem? (i := 1) rfl, Or.inl ⟨_, _, List.mem_cons_self, hcomment⟩⟩⟩
  | outbound => exact ⟨longer, by simp [resembling], rfl, Or.inl ⟨_, rfl, by decide⟩⟩

/-- A scan sees both jumps where no rule goes on in a chain of a redirection, and a compilation adds
neither. -/
theorem scan_resembling :
    text resembling = "*nat\n:PREROUTING ACCEPT [0:0]\n:OUTPUT ACCEPT [0:0]\n" ++
      ":PROXY_INIT_OUTPUT_OLD - [0:0]\n" ++
      "-A PREROUTING -m comment --comment \"was -j PROXY_INIT_REDIRECT\" -j RETURN\n" ++
      "-A OUTPUT -j PROXY_INIT_OUTPUT_OLD\nCOMMIT" ∧
    (∀ r, .rule r ∈ resembling → ∀ t ∈ r.target, ∀ d : Direction, t.name.text ≠ d.chain) ∧
    Installed.scan (text resembling) = ⟨false, false, true, true⟩ ∧
    ∃ result, ((Compiler.new Policy.sidecar "1700000000").compile (text resembling)).1 =
      .ok result ∧ ∀ d : Direction, ¬ ∃ c ∈ result.commands, c.links d = true := by
  have hscan : Installed.scan (text resembling) = ⟨false, false, true, true⟩ := by
    refine Installed.eq_of_forall (fun d => ?_) fun d => ?_
    · have hchain := mt (scan_chain_iff resembling d).mp (not_declares_resembling d)
      cases d <;> exact Bool.not_eq_true _ ▸ hchain
    · rw [(scan_jump_iff resembling d).mpr (readsJump_resembling d)]
      cases d <;> rfl
  refine ⟨by decide +kernel, ?_, hscan, ?_⟩
  · intro r hr t ht d
    have hrules : r = remembering ∨ r = longer := by simpa [resembling, preamble] using hr
    rcases hrules with rfl | rfl <;> cases ht <;> cases d <;> decide
  · obtain ⟨result, compiled⟩ :=
      (Compiler.exists_compile_iff Policy.sidecar "1700000000" (text resembling)).mpr
        ⟨by decide +kernel, fun _ => ⟨_, rfl⟩, fun _ => ⟨_, rfl⟩⟩
    refine ⟨result, compiled, fun d => ?_⟩
    rw [Compiler.exists_links_iff compiled, hscan]
    cases d <;> decide

end Dump

end PodRedirect
