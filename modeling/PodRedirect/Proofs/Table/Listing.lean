import PodRedirect.Proofs.Direction

/-!
# Listings of tables

A listing of a table has one line for every chain and one line for every rule, the rules of a chain
in their order, and perhaps further lines that are neither. Names of chains hold no blank, so that
they can be told from what follows them on a line.

## Main definitions

* `Line`: a line of a listing
* `Table.Prints`, `Table.Lists`: lines, or a text, are a listing of a table
* `Table.Readable`: every chain and every rule of a table fits on a line

## Main results

* `Table.Lists.scan_chain`: a scan sees the chain of a direction if and only if it is there
* `Table.Lists.scan_jump`: a scan sees a jump if and only if the line of some rule reads like one
-/

namespace PodRedirect

/-! ## Lines -/

/-- A line of a listing: it declares a chain, gives a rule of a chain, or is something else. -/
inductive Line where
  | chain (name rest : String)
  | rule (place : String) (s : Spec)
  | other (text : String)
  deriving DecidableEq, Repr

namespace Line

/-- A line as it is printed. -/
def text : Line → String
  | .chain name rest => ":" ++ name ++ " " ++ rest
  | .rule place s => "-A " ++ place ++ " " ++ " ".intercalate s
  | .other text => text

/-- The chain that a line declares. -/
def chain? : Line → Option String
  | .chain name _ => some name
  | _ => none

/-- The rule of the given chain that a line gives. -/
def rule? (name : String) : Line → Option Spec
  | .rule place s => if place = name then some s else none
  | _ => none

/-- The free text of a line stays on it and is not mistaken for a chain or a rule. -/
def Tidy : Line → Prop
  | .chain _ rest => '\n' ∉ rest.toList
  | .rule _ _ => True
  | .other text => '\n' ∉ text.toList ∧ text.toList.head? ≠ some ':' ∧ text.toList.head? ≠ some '-'

end Line

/-- The arguments of a rule hold no line break. -/
def Spec.OneLine (s : Spec) : Prop := ∀ a ∈ s, '\n' ∉ a.toList

namespace Table

/-- The lines are those of the table: one for each chain, and one for each rule, in order. -/
structure Prints (t : Table) (ls : List Line) : Prop where
  chains : ∀ name, (ls.filterMap Line.chain?).count name = if name ∈ t then 1 else 0
  rules : ∀ name, ls.filterMap (Line.rule? name) = (t.lookup name).getD []
  tidy : ∀ l ∈ ls, l.Tidy

/-- The text is a listing of the table. -/
def Lists (t : Table) (listing : String) : Prop :=
  ∃ ls : List Line, t.Prints ls ∧ listing = "\n".intercalate (ls.map Line.text)

/-- Every chain and every rule of the table fits on a line, and names can be told from what follows
them. -/
structure Readable (t : Table) : Prop where
  names : ∀ name ∈ t, ' ' ∉ name.toList ∧ '\n' ∉ name.toList
  rules : ∀ name rules, t.lookup name = some rules → ∀ s ∈ rules, s.OneLine

namespace Prints

variable {t : Table} {ls : List Line}

theorem mem_of_chain (h : t.Prints ls) {name rest : String} (hl : Line.chain name rest ∈ ls) :
    name ∈ t := by
  by_contra hname
  have hcount := h.chains name
  rw [if_neg hname, List.count_eq_zero] at hcount
  exact hcount (List.mem_filterMap.mpr ⟨_, hl, rfl⟩)

theorem exists_chain (h : t.Prints ls) {name : String} (hname : name ∈ t) :
    ∃ rest, Line.chain name rest ∈ ls := by
  have hcount := h.chains name
  rw [if_pos hname] at hcount
  have hmem : name ∈ ls.filterMap Line.chain? := List.count_pos_iff.mp (by omega)
  obtain ⟨l, hl, hchain⟩ := List.mem_filterMap.mp hmem
  cases l with
  | chain n rest =>
    obtain rfl : n = name := Option.some.inj hchain
    exact ⟨rest, hl⟩
  | rule chain s => cases hchain
  | other text => cases hchain

theorem rule_mem_iff (h : t.Prints ls) {name : String} {s : Spec} :
    Line.rule name s ∈ ls ↔ ∃ rules, t.lookup name = some rules ∧ s ∈ rules := by
  have hmem : s ∈ ls.filterMap (Line.rule? name) ↔ Line.rule name s ∈ ls := by
    rw [List.mem_filterMap]
    constructor
    · rintro ⟨l, hl, hrule⟩
      cases l with
      | chain n rest => cases hrule
      | rule chain s' =>
        simp only [Line.rule?, Option.ite_none_right_eq_some, Option.some.injEq] at hrule
        obtain ⟨rfl, rfl⟩ := hrule
        exact hl
      | other text => cases hrule
    · exact fun hl => ⟨_, hl, by simp [Line.rule?]⟩
  rw [← hmem, h.rules]
  cases t.lookup name <;> simp

end Prints

/-- The lines of a listing of chains in the given order, the rules after all the chains. -/
def printed (es : List (Sigma fun _ : String => List Spec)) : List Line :=
  es.map (fun e => .chain e.1 "- [0:0]") ++ es.flatMap fun e => e.2.map (.rule e.1)

theorem filterMap_chain?_printed (es : List (Sigma fun _ : String => List Spec)) :
    (printed es).filterMap Line.chain? = es.keys := by
  have hrules : (es.flatMap fun e => e.2.map (Line.rule e.1)).filterMap Line.chain? = [] := by
    rw [List.filterMap_eq_nil_iff]
    intro l hl
    obtain ⟨e, -, hl⟩ := List.mem_flatMap.mp hl
    obtain ⟨s, -, rfl⟩ := List.mem_map.mp hl
    rfl
  rw [printed, List.filterMap_append, hrules, List.append_nil, List.filterMap_map]
  exact congrFun List.filterMap_eq_map es

theorem filterMap_rule?_printed {es : List (Sigma fun _ : String => List Spec)}
    (nodup : es.NodupKeys) (name : String) :
    (printed es).filterMap (Line.rule? name) = (es.dlookup name).getD [] := by
  have hchains : (es.map fun e => Line.chain e.1 "- [0:0]").filterMap (Line.rule? name) = [] := by
    rw [List.filterMap_eq_nil_iff]
    intro l hl
    obtain ⟨e, -, rfl⟩ := List.mem_map.mp hl
    rfl
  rw [printed, List.filterMap_append, hchains, List.nil_append]
  clear hchains
  induction es with
  | nil => rfl
  | cons e es ih =>
    obtain ⟨place, rules⟩ := e
    obtain ⟨hplace, hrest⟩ := List.nodupKeys_cons.mp nodup
    rw [List.flatMap_cons, List.filterMap_append, ih hrest, List.filterMap_map]
    by_cases h : place = name
    · -- a name occurs once, so the chains after this one have no rules of it
      subst h
      rw [List.dlookup_cons_eq, List.dlookup_eq_none.mpr hplace]
      simp [Line.rule?, Function.comp_def]
    · rw [List.dlookup_cons_ne _ _ (Ne.symm h)]
      simp [Line.rule?, Function.comp_def, h]

/-- The chains of a table in any order give a listing of it. -/
theorem prints_printed (a : AList fun _ : String => List Spec) :
    Prints a.toFinmap (printed a.entries) where
  chains := fun name => by
    rw [filterMap_chain?_printed, List.Nodup.count a.nodupKeys]
    simp [Finmap.mem_def]
  rules := fun name => by
    rw [filterMap_rule?_printed a.nodupKeys]
    rfl
  tidy := by
    intro l hl
    rcases List.mem_append.mp hl with hl | hl
    · obtain ⟨e, -, rfl⟩ := List.mem_map.mp hl
      simp only [Line.Tidy]
      decide
    · obtain ⟨e, -, hl⟩ := List.mem_flatMap.mp hl
      obtain ⟨s, -, rfl⟩ := List.mem_map.mp hl
      trivial

/-- A listing of chains in the given order. -/
def listing (a : AList fun _ : String => List Spec) : String :=
  "\n".intercalate ((printed a.entries).map Line.text)

theorem lists_listing (a : AList fun _ : String => List Spec) : Lists a.toFinmap (listing a) :=
  ⟨_, prints_printed a, rfl⟩

/-! ## Reading a listing line by line -/

theorem not_mem_intercalate_blank {ws : List String} (h : ∀ w ∈ ws, '\n' ∉ w.toList) :
    '\n' ∉ (" ".intercalate ws).toList := by
  rw [String.toList_intercalate]
  induction ws with
  | nil => simp
  | cons w ws ih =>
    have hw := h w List.mem_cons_self
    have hws := ih fun x hx => h x (List.mem_cons_of_mem _ hx)
    cases ws with
    | nil => simpa using hw
    | cons v vs => simpa [hw] using hws

/-- Every line of a readable table stays on one line. -/
theorem Prints.not_mem_text {t : Table} {ls : List Line} (h : t.Prints ls) (readable : t.Readable)
    {l : Line} (hl : l ∈ ls) : '\n' ∉ l.text.toList := by
  have htidy := h.tidy l hl
  cases l with
  | chain name rest =>
    have hname := (readable.names name (h.mem_of_chain hl)).2
    simp only [Line.Tidy] at htidy
    simp [Line.text, hname, htidy]
  | rule name s =>
    obtain ⟨rules, hrules, hs⟩ := h.rule_mem_iff.mp hl
    have hname := (readable.names name (mem_of_lookup hrules)).2
    have htext := not_mem_intercalate_blank (readable.rules name rules hrules s hs)
    simp only [Line.text, String.toList_append, List.mem_append, not_or]
    exact ⟨⟨⟨by decide, hname⟩, by decide⟩, htext⟩
  | other text => exact htidy.1

/-- Some line of a text passes a test that the empty line does not pass if and only if one of those
that the text was made of does. -/
theorem any_splitOn {texts : List String} (hline : ∀ x ∈ texts, '\n' ∉ x.toList)
    {q : List Char → Bool} (hq : q [] = false) :
    (("\n".intercalate texts).toList.splitOn '\n').any q = true ↔
      ∃ x ∈ texts, q x.toList = true := by
  rcases eq_or_ne texts [] with rfl | hne
  · -- an empty text is split into one empty line
    simp [hq]
  · have hsplit : ("\n".intercalate texts).toList.splitOn '\n' = texts.map String.toList := by
      rw [String.toList_intercalate]
      refine List.splitOn_intercalate '\n' ?_ (by simpa using hne)
      intro x hx
      obtain ⟨text, htext, rfl⟩ := List.mem_map.mp hx
      exact hline text htext
    rw [hsplit, List.any_map, List.any_eq_true]
    rfl

/-- Of a readable table, the lines are those that were printed. -/
theorem Prints.any_splitOn {t : Table} {ls : List Line} (h : t.Prints ls) (readable : t.Readable)
    {q : List Char → Bool} (hq : q [] = false) :
    (("\n".intercalate (ls.map Line.text)).toList.splitOn '\n').any q = true ↔
      ∃ l ∈ ls, q l.text.toList = true := by
  have hline : ∀ x ∈ ls.map Line.text, '\n' ∉ x.toList := by
    intro x hx
    obtain ⟨l, hl, rfl⟩ := List.mem_map.mp hx
    exact h.not_mem_text readable hl
  rw [Table.any_splitOn hline hq]
  simp

/-! ## What a scan sees -/

/-- Names without blanks are told apart by the blank that follows them. -/
theorem append_blank_isPrefix_iff {a b : List Char} (ha : ' ' ∉ a) (hb : ' ' ∉ b) (r : List Char) :
    (a ++ [' ']) <+: (b ++ ' ' :: r) ↔ a = b := by
  -- where one name ends and the other goes on, a blank would be a character of that one
  induction a generalizing b with
  | nil =>
    cases b with
    | nil => simp
    | cons y b =>
      have hy : ' ' ≠ y := fun h => hb (h ▸ List.mem_cons_self)
      simp [List.cons_prefix_cons, hy]
  | cons x a ih =>
    cases b with
    | nil =>
      have hx : x ≠ ' ' := fun h => ha (h ▸ List.mem_cons_self)
      simp [List.cons_prefix_cons, hx]
    | cons y b =>
      have hab := ih (fun h => ha (List.mem_cons_of_mem _ h))
        (fun h => hb (List.mem_cons_of_mem _ h))
      simp only [List.cons_append, List.cons_prefix_cons, hab, List.cons.injEq]

theorem blank_not_mem_chain (d : Direction) : ' ' ∉ d.chain.toList := by cases d <;> decide

theorem blank_not_mem_hook (d : Direction) : ' ' ∉ d.hook.toList := by cases d <;> decide

theorem declares_chain {name rest : String} (hname : ' ' ∉ name.toList) (d : Direction) :
    Installed.declares d.chain (Line.chain name rest).text.toList = true ↔ name = d.chain := by
  rw [Installed.declares, List.isPrefixOf_iff_prefix]
  have htext : (Line.chain name rest).text.toList = ':' :: (name.toList ++ ' ' :: rest.toList) := by
    simp [Line.text]
  rw [htext, List.cons_append, List.cons_prefix_cons,
    append_blank_isPrefix_iff (blank_not_mem_chain d) hname, String.toList_inj]
  simp [eq_comm]

/-- Only a line that declares a chain is read as one. -/
theorem declares_eq_false {l : Line} (hl : l.Tidy) (hchain : l.chain? = none) (d : Direction) :
    Installed.declares d.chain l.text.toList = false := by
  rw [← Bool.not_eq_true, Installed.declares, List.isPrefixOf_iff_prefix]
  intro h
  -- no rule and no other line starts with a colon
  have hhead : l.text.toList.head? = some ':' := by
    obtain ⟨r, hr⟩ := h
    rw [← hr]
    rfl
  cases l with
  | chain name rest => cases hchain
  | rule name s => simp [Line.text] at hhead
  | other text => exact hl.2.1 hhead

/-- Only a line that gives a rule of the right chain is read as a jump. -/
theorem jumps_of_line {l : Line} (hl : l.Tidy) {d : Direction}
    (hname : ∀ name s, l = .rule name s → ' ' ∉ name.toList)
    (h : Installed.jumps d.hook d.chain l.text.toList = true) : ∃ s, l = .rule d.hook s := by
  have hprefix : ("-A ".toList ++ d.hook.toList ++ [' ']) <+: l.text.toList := by
    simp only [Installed.jumps, Bool.and_eq_true] at h
    exact List.isPrefixOf_iff_prefix.mp h.1
  -- no chain and no other line starts with a dash
  have hhead : l.text.toList.head? = some '-' := by
    obtain ⟨r, hr⟩ := hprefix
    rw [← hr]
    rfl
  cases l with
  | chain name rest => simp [Line.text] at hhead
  | rule name s =>
    have htext : (Line.rule name s).text.toList =
        "-A ".toList ++ (name.toList ++ ' ' :: (" ".intercalate s).toList) := by
      simp [Line.text]
    rw [htext, List.append_assoc, List.prefix_append_right_inj,
      append_blank_isPrefix_iff (blank_not_mem_hook d) (hname name s rfl), String.toList_inj]
      at hprefix
    exact ⟨s, hprefix ▸ rfl⟩
  | other text => exact absurd hhead hl.2.2

/-- A scan looks for the chain of a direction line by line. -/
theorem scan_chain_eq (listing : String) (d : Direction) :
    (Installed.scan listing).chain d =
      (listing.toList.splitOn '\n').any (Installed.declares d.chain) := by
  cases d <;> rfl

/-- A scan looks for the jump of a direction line by line. -/
theorem scan_jump_eq (listing : String) (d : Direction) :
    (Installed.scan listing).jump d =
      (listing.toList.splitOn '\n').any (Installed.jumps d.hook d.chain) := by
  cases d <;> rfl

variable {t : Table} {listing : String}

/-- **A scan sees the chain of a direction if and only if it is there.** -/
theorem Lists.scan_chain (h : t.Lists listing) (readable : t.Readable) (d : Direction) :
    (Installed.scan listing).chain d = true ↔ d.chain ∈ t := by
  obtain ⟨ls, hprints, rfl⟩ := h
  rw [scan_chain_eq, hprints.any_splitOn readable (by cases d <;> rfl)]
  constructor
  · rintro ⟨l, hl, hdeclares⟩
    cases l with
    | chain name rest =>
      have hname := hprints.mem_of_chain hl
      rw [declares_chain (readable.names name hname).1] at hdeclares
      exact hdeclares ▸ hname
    | rule name s =>
      rw [declares_eq_false (hprints.tidy _ hl) rfl] at hdeclares
      cases hdeclares
    | other text =>
      rw [declares_eq_false (hprints.tidy _ hl) rfl] at hdeclares
      cases hdeclares
  · intro hchain
    obtain ⟨rest, hl⟩ := hprints.exists_chain hchain
    exact ⟨_, hl, (declares_chain (blank_not_mem_chain d) d).mpr rfl⟩

/-- **A scan sees a jump if and only if the line of some rule reads like one**: a rule of the chain
that the packets of the direction come through. -/
theorem Lists.scan_jump (h : t.Lists listing) (readable : t.Readable) (d : Direction) :
    (Installed.scan listing).jump d = true ↔
      ∃ rules, t.lookup d.hook = some rules ∧
        ∃ s ∈ rules, Installed.jumps d.hook d.chain (Line.rule d.hook s).text.toList = true := by
  obtain ⟨ls, hprints, rfl⟩ := h
  rw [scan_jump_eq, hprints.any_splitOn readable (by cases d <;> rfl)]
  constructor
  · rintro ⟨l, hl, hjumps⟩
    have hname : ∀ name s, l = .rule name s → ' ' ∉ name.toList := by
      rintro name s rfl
      obtain ⟨rules, hrules, -⟩ := hprints.rule_mem_iff.mp hl
      exact (readable.names name (mem_of_lookup hrules)).1
    obtain ⟨s, rfl⟩ := jumps_of_line (hprints.tidy l hl) hname hjumps
    obtain ⟨rules, hrules, hs⟩ := hprints.rule_mem_iff.mp hl
    exact ⟨rules, hrules, s, hs, hjumps⟩
  · rintro ⟨rules, hrules, s, hs, hjumps⟩
    exact ⟨_, hprints.rule_mem_iff.mpr ⟨rules, hrules, hs⟩, hjumps⟩

end Table

end PodRedirect
