import PodRedirect.Proofs.Table.Listing

/-!
# Signatures of jumps

A rule is printed as words, each behind a blank. A value that may hold blanks stands between quotes,
so that a reader can tell it from the words around it. A search for the signature of a jump looks at
the characters of the line and cannot: it finds the signature between quotes too.

## Main definitions

* `Dump.Word`, `Dump.spaced`: words, and words on a line
* `Dump.signature`: what a jump to a chain looks like
* `Dump.Reads`: words that read like a jump

## Main results

* `Dump.signature_infix_iff`: the signature of a jump is found on a line if and only if its words
  read like a jump
-/

namespace PodRedirect.Dump

/-! ## Words -/

/-- A name: it has no blank and stays on its line. -/
structure Name where
  text : String
  plain : text ≠ "" ∧ ' ' ∉ text.toList ∧ '\n' ∉ text.toList

/-- A word of a rule: a name, or a text between quotes. -/
inductive Word where
  | bare (n : Name)
  | quoted (s : String) (line : '\n' ∉ s.toList)

/-- The characters that have a meaning between quotes. -/
def marks : List Char := ['"', '\\', '\'']

/-- Characters between quotes, with a backslash before each that has a meaning there. -/
def escape : List Char → List Char
  | [] => []
  | c :: cs => if c ∈ marks then '\\' :: c :: escape cs else c :: escape cs

/-- A word as it is printed. -/
def Word.text : Word → String
  | bare n => n.text
  | quoted s _ => "\"" ++ String.ofList (escape s.toList) ++ "\""

/-- The option for a target. -/
def goOn : Name := ⟨"-j", by decide⟩

/-- Words on a line, each after a blank. -/
def spaced (ws : List Word) : String := String.join (ws.map fun w => " " ++ w.text)

/-! ## Words that read like a jump -/

/-- What a jump to a chain looks like behind other words. -/
def signature (chain : String) : List Char := " -j ".toList ++ chain.toList

/-- Words read like a jump to the chain: what a jump looks like stands between quotes, or the option
for a target is among them, with a word behind it that starts with the name of the chain. -/
def Reads (chain : String) (ws : List Word) : Prop :=
  (∃ s line, .quoted s line ∈ ws ∧ signature chain <:+: s.toList) ∨
    ∃ v : Word, [.bare goOn, v] <:+: ws ∧ chain.toList <+: v.text.toList

section Reading

variable {chain : String} {w : Word} {ws vs : List Word}

theorem not_reads_nil : ¬ Reads chain [] := by
  simp [Reads]

/-- Words read like a jump if the first one does, alone or with the next one, or those after it. -/
theorem reads_cons :
    Reads chain (w :: ws) ↔
      (∃ s line, w = .quoted s line ∧ signature chain <:+: s.toList) ∨
        (w = .bare goOn ∧ ∃ v ∈ ws.head?, chain.toList <+: v.text.toList) ∨ Reads chain ws := by
  have hpair (v : Word) : [.bare goOn, v] <+: w :: ws ↔ w = .bare goOn ∧ ws.head? = some v := by
    rw [List.cons_prefix_cons, eq_comm]
    cases ws <;> simp [List.cons_prefix_cons, eq_comm]
  simp only [Reads, List.mem_cons, List.infix_cons_iff, hpair, Option.mem_def]
  constructor
  · rintro (⟨s, line, rfl | hs, h⟩ | ⟨v, ⟨hw, hv⟩ | hv, h⟩)
    · exact Or.inl ⟨s, line, rfl, h⟩
    · exact Or.inr (Or.inr (Or.inl ⟨s, line, hs, h⟩))
    · exact Or.inr (Or.inl ⟨hw, v, hv, h⟩)
    · exact Or.inr (Or.inr (Or.inr ⟨v, hv, h⟩))
  · rintro (⟨s, line, rfl, h⟩ | ⟨hw, v, hv, h⟩ | ⟨s, line, hs, h⟩ | ⟨v, hv, h⟩)
    · exact Or.inl ⟨s, line, Or.inl rfl, h⟩
    · exact Or.inr ⟨v, Or.inl ⟨hw, hv⟩, h⟩
    · exact Or.inl ⟨s, line, Or.inr hs, h⟩
    · exact Or.inr ⟨v, Or.inr hv, h⟩

/-- Where no word that starts with the name of the chain comes next, words are read apart from those
after them. -/
theorem reads_append (h : ∀ v ∈ vs.head?, ¬ chain.toList <+: v.text.toList) :
    Reads chain (ws ++ vs) ↔ Reads chain ws ∨ Reads chain vs := by
  induction ws with
  | nil => simp [not_reads_nil]
  | cons w ws ih =>
    rw [List.cons_append, reads_cons, reads_cons, ih]
    cases ws with
    | nil => simp [not_reads_nil]; grind
    | cons v ws => simp only [List.cons_append, List.head?_cons, or_assoc]

end Reading

/-! ## Signatures in characters -/

section Characters

variable {a b l : List Char} {c : Char}

/-- A text without a character ends before it. -/
theorem prefix_append_cons_iff (hc : c ∉ l) : l <+: a ++ c :: b ↔ l <+: a := by
  refine ⟨fun h => ?_, fun h => h.trans (List.prefix_append _ _)⟩
  rcases List.prefix_or_prefix_of_prefix h (List.prefix_append a _) with h' | ⟨r, rfl⟩
  · exact h'
  · -- what goes on behind `a` would start with `c`
    rw [List.prefix_append_right_inj, List.prefix_cons_iff] at h
    rcases h with rfl | ⟨r', rfl, -⟩
    · simp
    · simp at hc

/-- A text without a character stands before it or behind it. -/
theorem infix_append_cons_iff (hc : c ∉ l) (hl : l ≠ []) :
    l <:+: a ++ c :: b ↔ l <:+: a ∨ l <:+: b := by
  induction a with
  | nil =>
    have hprefix : ¬ l <+: c :: b := by
      rw [List.prefix_cons_iff]
      rintro (h | ⟨r, rfl, -⟩)
      · exact hl h
      · exact hc List.mem_cons_self
    simp [List.infix_cons_iff, hprefix, hl]
  | cons x a ih =>
    have hprefix := prefix_append_cons_iff (a := x :: a) (b := b) hc
    rw [List.cons_append] at hprefix ⊢
    rw [List.infix_cons_iff, List.infix_cons_iff, ih, hprefix, or_assoc]

/-- A text stands behind what its first character does not occur in. -/
theorem cons_infix_append_iff (hc : c ∉ a) : c :: l <:+: a ++ b ↔ c :: l <:+: b := by
  induction a with
  | nil => rfl
  | cons x a ih =>
    rw [List.mem_cons, not_or] at hc
    rw [List.cons_append, List.infix_cons_iff, List.cons_prefix_cons, ih hc.2]
    simp [hc.1]

/-- A name with a blank behind it is told from others by the blank. -/
theorem append_blank_prefix_iff (ha : ' ' ∉ a) (hb : ' ' ∉ b) (r : List Char) :
    a ++ ' ' :: l <+: b ++ ' ' :: r ↔ a = b ∧ l <+: r := by
  constructor
  · intro h
    have hname : a ++ [' '] <+: b ++ ' ' :: r := by
      refine List.IsPrefix.trans ?_ h
      simp [List.prefix_append_right_inj, List.cons_prefix_cons]
    obtain rfl := (Table.append_blank_isPrefix_iff ha hb r).mp hname
    rw [List.prefix_append_right_inj, List.cons_prefix_cons] at h
    exact ⟨rfl, h.2⟩
  · rintro ⟨rfl, h⟩
    rw [List.prefix_append_right_inj, List.cons_prefix_cons]
    exact ⟨rfl, h⟩

theorem occursIn_iff : Text.occursIn a b = true ↔ a <:+: b := by
  induction b with
  | nil => simp [Text.occursIn]
  | cons x b ih => simp [Text.occursIn, ih, List.infix_cons_iff]

theorem prefix_escape_iff (h : ∀ x ∈ marks, x ∉ l) (cs : List Char) :
    l <+: escape cs ↔ l <+: cs := by
  induction cs generalizing l with
  | nil => rfl
  | cons x cs ih =>
    cases l with
    | nil => simp
    | cons y l =>
      have hy : y ∉ marks := fun hy => h y hy List.mem_cons_self
      have hrest := ih fun z hz hmem => h z hz (List.mem_cons_of_mem _ hmem)
      rw [escape]
      split
      · -- neither the backslash nor the mark behind it is in `l`
        have hslash : y ≠ '\\' := by
          rintro rfl
          exact hy (by decide)
        have hx : y ≠ x := by
          rintro rfl
          exact hy ‹_›
        simp [List.cons_prefix_cons, hslash, hx]
      · rw [List.cons_prefix_cons, List.cons_prefix_cons, hrest]

/-- A text without marks is found between quotes as it is found without them. -/
theorem infix_escape_iff (h : ∀ x ∈ marks, x ∉ l) (hl : l ≠ []) (cs : List Char) :
    l <:+: escape cs ↔ l <:+: cs := by
  induction cs with
  | nil => rfl
  | cons x cs ih =>
    have hprefix := prefix_escape_iff h (x :: cs)
    rw [List.infix_cons_iff, ← hprefix, ← ih, escape]
    split
    · -- `l` does not start at the mark
      have hx : ¬ l <+: x :: escape cs := by
        rw [List.prefix_cons_iff]
        rintro (rfl | ⟨r, rfl, -⟩)
        · exact hl rfl
        · exact h x ‹_› List.mem_cons_self
      rw [List.infix_cons_iff, List.infix_cons_iff, or_iff_right hx]
    · rw [List.infix_cons_iff]

end Characters

/-! ## Words on a line -/

variable {d : Direction}

/-- What starts with the name of a chain of a redirection is no option. -/
theorem head?_of_prefix {cs : List Char} (h : d.chain.toList <+: cs) : cs.head? = some 'P' := by
  have hhead : d.chain.toList.head? = some 'P' := by cases d <;> decide
  obtain ⟨rest, rfl⟩ := h
  rw [List.head?_append, hhead]
  rfl

theorem not_mem_chain {c : Char} (hc : c ∈ ' ' :: marks) (d : Direction) : c ∉ d.chain.toList := by
  simp only [marks, List.mem_cons, List.not_mem_nil, or_false] at hc
  rcases hc with rfl | rfl | rfl | rfl <;> cases d <;> decide

theorem not_mem_signature {c : Char} (hc : c ∈ marks) (d : Direction) :
    c ∉ signature d.chain := by
  rw [signature, List.mem_append, not_or]
  refine ⟨?_, not_mem_chain (List.mem_cons_of_mem _ hc) d⟩
  simp only [marks, List.mem_cons, List.not_mem_nil, or_false] at hc
  rcases hc with rfl | rfl | rfl <;> decide

theorem signature_eq (chain : String) :
    signature chain = ' ' :: ("-j".toList ++ ' ' :: chain.toList) := rfl

@[simp] theorem toList_spaced_nil : (spaced []).toList = [] := rfl

@[simp] theorem toList_spaced_cons (w : Word) (ws : List Word) :
    (spaced (w :: ws)).toList = ' ' :: (w.text.toList ++ (spaced ws).toList) := by
  simp [spaced, String.toList_join]

/-- Words on a line that start with the name of the chain are such that the first one does. -/
theorem prefix_spaced_iff (w : Word) (ws : List Word) :
    d.chain.toList <+: w.text.toList ++ (spaced ws).toList ↔ d.chain.toList <+: w.text.toList := by
  cases ws with
  | nil => simp
  | cons v ws =>
    rw [toList_spaced_cons, prefix_append_cons_iff (not_mem_chain List.mem_cons_self d)]

/-- The option for a target is found at the start of a line if it is the first word, and the name of
the chain behind it. -/
theorem signature_prefix_iff (n : Name) (ws : List Word) :
    signature d.chain <+: ' ' :: (n.text.toList ++ (spaced ws).toList) ↔
      n.text = "-j" ∧ ∃ v ∈ ws.head?, d.chain.toList <+: v.text.toList := by
  rw [signature_eq, List.cons_prefix_cons, and_iff_right rfl]
  cases ws with
  | nil =>
    -- a name has no blank
    have hblank : ¬ "-j".toList ++ ' ' :: d.chain.toList <+: n.text.toList ++ [] := by
      rw [List.append_nil]
      exact fun h => n.plain.2.1 (h.subset (by simp))
    refine iff_of_false hblank ?_
    simp
  | cons v ws =>
    rw [toList_spaced_cons, append_blank_prefix_iff (by decide) n.plain.2.1, prefix_spaced_iff,
      String.toList_inj]
    simp [eq_comm]

theorem text_eq_iff (n : Name) : n.text = "-j" ↔ Word.bare n = .bare goOn := by
  cases n
  simp [goOn]

/-- **The signature of a jump is found on a line if and only if its words read like a jump.** -/
theorem signature_infix_iff (ws : List Word) :
    signature d.chain <:+: (spaced ws).toList ↔ Reads d.chain ws := by
  have hne : signature d.chain ≠ [] := List.cons_ne_nil _ _
  -- the words are taken off the line one by one: a name may start a jump, and a text between quotes
  -- may hold one
  induction ws with
  | nil => simp [not_reads_nil, signature_eq]
  | cons w ws ih =>
    rw [toList_spaced_cons, List.infix_cons_iff, reads_cons, ih.symm]
    cases w with
    | bare n =>
      -- a name has no blank, so that a signature starts before it or behind it
      have hbehind : signature d.chain <:+: n.text.toList ++ (spaced ws).toList ↔
          signature d.chain <:+: (spaced ws).toList := cons_infix_append_iff n.plain.2.1
      rw [Word.text, signature_prefix_iff, hbehind, text_eq_iff]
      simp
    | quoted s line =>
      -- a signature has no quote, so that it stands between the two or behind both
      have hquote : '"' ∉ signature d.chain := not_mem_signature (by decide) d
      have htext : (Word.quoted s line).text.toList ++ (spaced ws).toList =
          ('"' :: escape s.toList) ++ '"' :: (spaced ws).toList := by
        simp [Word.text]
      have hfirst : ¬ signature d.chain <+: ' ' :: ('"' :: escape s.toList ++
          '"' :: (spaced ws).toList) := by
        simp [signature_eq, List.cons_prefix_cons]
      have hinside : signature d.chain <:+: '"' :: escape s.toList ↔
          signature d.chain <:+: s.toList := by
        have hhead : ¬ signature d.chain <+: '"' :: escape s.toList := by
          simp [signature_eq, List.cons_prefix_cons]
        rw [List.infix_cons_iff, or_iff_right hhead,
          infix_escape_iff (fun x hx => not_mem_signature hx d) hne]
      rw [htext, or_iff_right hfirst, infix_append_cons_iff hquote hne, hinside]
      simp [line]

/-- A word does not start with a blank. -/
theorem Word.exists_cons (w : Word) : ∃ x xs, w.text.toList = x :: xs ∧ x ≠ ' ' := by
  cases w with
  | bare n =>
    have hne : n.text.toList ≠ [] := fun h => n.plain.1 (String.toList_eq_nil_iff.mp h)
    obtain ⟨x, xs, hxs⟩ := List.exists_cons_of_ne_nil hne
    refine ⟨x, xs, hxs, ?_⟩
    rintro rfl
    exact n.plain.2.1 (hxs ▸ List.mem_cons_self)
  | quoted s line => exact ⟨'"', escape s.toList ++ ['"'], by simp [text], by decide⟩

theorem newline_not_mem_escape {cs : List Char} (h : '\n' ∉ cs) : '\n' ∉ escape cs := by
  induction cs with
  | nil => exact h
  | cons c cs ih =>
    rw [List.mem_cons, not_or] at h
    rw [escape]
    split <;> simp [h.1, ih h.2]

theorem Word.newline_not_mem_text (w : Word) : '\n' ∉ w.text.toList := by
  cases w with
  | bare n => exact n.plain.2.2
  | quoted s line => simp [text, newline_not_mem_escape line]

theorem newline_not_mem_spaced (ws : List Word) : '\n' ∉ (spaced ws).toList := by
  induction ws with
  | nil => simp
  | cons w ws ih => simp [w.newline_not_mem_text, ih]

end PodRedirect.Dump
