import Mathlib.Data.List.DropRight
import Mathlib.Data.List.Infix

/-!
# Patterns

A pattern describes parts of a text, and a search looks for the first of them. The search goes
through the places of the text in order, and at each of them through the ways in which the pattern
may match there: what may be there or not is first taken to be there, and a run of characters is
first taken to be as long as it can be. If the rest of the pattern does not match, the next way is
tried.

## Main definitions

* `Pattern`: patterns, with `Pattern.Matches` for the parts that they describe
* `Pattern.tries`: the ways in which a pattern matches at a place, in order
* `Pattern.search`: the first part of a text that a pattern describes

## Main results

* `Pattern.mem_tries_iff`: the ways that are tried are all that there are
* `Pattern.search_isSome_iff`: a search finds something if and only if some part is described
* `Pattern.newline_not_mem_of_matches`: what a pattern describes is within a line, if its words are
-/

namespace PodRedirect

/-- A pattern: the start of a line, a word, a run of one or more characters within a line, something
that may be there or not, or one pattern behind another. -/
inductive Pattern where
  | lineStart
  | word (cs : List Char)
  | run
  | optional (p : Pattern)
  | seq (p q : Pattern)

namespace Pattern

/-- A line starts behind the characters. -/
def LineStarts (before : List Char) : Prop := ∀ c ∈ before.getLast?, c = '\n'

instance (before : List Char) : Decidable (LineStarts before) :=
  decidable_of_iff (before.getLast?.all (· = '\n') = true) (by
    unfold LineStarts
    cases before.getLast? <;> simp)

/-! ## Parts of a text -/

/-- The pattern describes the part of a text that comes behind the given characters. -/
def Matches : Pattern → (before part : List Char) → Prop
  | lineStart, before, part => part = [] ∧ LineStarts before
  | word cs, _, part => part = cs
  | run, _, part => part ≠ [] ∧ '\n' ∉ part
  | optional p, before, part => part = [] ∨ p.Matches before part
  | seq p q, before, part =>
    ∃ first second, part = first ++ second ∧ p.Matches before first ∧
      q.Matches (before ++ first) second

/-- The ways in which the pattern matches at the start of a text that comes behind the given
characters, in the order in which they are tried. -/
def tries : Pattern → (before text : List Char) → List (List Char)
  | lineStart, before, _ => if LineStarts before then [[]] else []
  | word cs, _, text => if cs.isPrefixOf text then [cs] else []
  | run, _, text => ((text.takeWhile (· ≠ '\n')).inits.filter (! ·.isEmpty)).reverse
  | optional p, before, text => p.tries before text ++ [[]]
  | seq p q, before, text =>
    (p.tries before text).flatMap fun first =>
      (q.tries (before ++ first) (text.drop first.length)).map (first ++ ·)

/-- A part of the first line of a text is one of the text that holds no line feed. -/
theorem prefix_takeWhile_iff {part text : List Char} :
    part <+: text.takeWhile (· ≠ '\n') ↔ part <+: text ∧ '\n' ∉ part := by
  constructor
  · intro h
    refine ⟨h.trans (List.takeWhile_prefix _), fun hmem => ?_⟩
    have hne := List.mem_takeWhile_imp (h.subset hmem)
    simp at hne
  · rintro ⟨⟨after, rfl⟩, hmem⟩
    have hall : ∀ c ∈ part, decide (c ≠ '\n') = true := by
      intro c hc
      exact decide_eq_true fun h => hmem (h ▸ hc)
    rw [List.takeWhile_append_of_pos hall]
    exact List.prefix_append _ _

/-- **The ways that are tried are all that there are.** -/
theorem mem_tries_iff (p : Pattern) {before text part : List Char} :
    part ∈ p.tries before text ↔ part <+: text ∧ p.Matches before part := by
  induction p generalizing before text part with
  | lineStart =>
    rw [tries, Matches]
    split
    next h =>
      rw [List.mem_singleton]
      constructor
      · rintro rfl
        exact ⟨List.nil_prefix, rfl, h⟩
      · exact fun hpart => hpart.2.1
    next h => exact iff_of_false List.not_mem_nil fun hpart => h hpart.2.2
  | word cs =>
    rw [tries, Matches]
    split
    next h =>
      rw [List.isPrefixOf_iff_prefix] at h
      rw [List.mem_singleton]
      exact ⟨fun hpart => ⟨hpart ▸ h, hpart⟩, fun hpart => hpart.2⟩
    next h =>
      rw [List.isPrefixOf_iff_prefix] at h
      exact iff_of_false List.not_mem_nil fun hpart => h (hpart.2 ▸ hpart.1)
  | run =>
    rw [tries, Matches, List.mem_reverse, List.mem_filter, List.mem_inits, prefix_takeWhile_iff,
      Bool.not_eq_true', List.isEmpty_eq_false_iff]
    tauto
  | optional p ih =>
    rw [tries, Matches, List.mem_append, List.mem_singleton, ih]
    constructor
    · rintro (⟨hstart, hpart⟩ | rfl)
      · exact ⟨hstart, Or.inr hpart⟩
      · exact ⟨List.nil_prefix, Or.inl rfl⟩
    · rintro ⟨hstart, hpart | hpart⟩
      · exact Or.inr hpart
      · exact Or.inl ⟨hstart, hpart⟩
  | seq p q ihp ihq =>
    simp only [tries, Matches, List.mem_flatMap, List.mem_map, ihp, ihq]
    constructor
    · rintro ⟨first, ⟨⟨rest, rfl⟩, hfirst⟩, second, ⟨hstart, hsecond⟩, rfl⟩
      rw [List.drop_left] at hstart
      exact ⟨(List.prefix_append_right_inj _).mpr hstart, first, second, rfl, hfirst, hsecond⟩
    · rintro ⟨⟨rest, rfl⟩, first, second, rfl, hfirst, hsecond⟩
      have hdrop : (first ++ second ++ rest).drop first.length = second ++ rest := by
        rw [List.append_assoc, List.drop_left]
      refine ⟨first, ⟨⟨second ++ rest, by rw [List.append_assoc]⟩, hfirst⟩, second, ?_, rfl⟩
      rw [hdrop]
      exact ⟨List.prefix_append _ _, hsecond⟩

/-! ## Searches -/

/-- The first part that the pattern describes of a text that comes behind the given characters, with
all that comes before it. -/
def searchFrom (p : Pattern) (before : List Char) : List Char → Option (List Char × List Char)
  | [] => (p.tries before []).head?.map (before, ·)
  | c :: cs =>
    ((p.tries before (c :: cs)).head?.map (before, ·)).or (searchFrom p (before ++ [c]) cs)

/-- The first part of a text that the pattern describes, with what comes before it. -/
def search (p : Pattern) (text : String) : Option (List Char × List Char) :=
  searchFrom p [] text.toList

/-- The pattern describes some part of a text that comes behind the given characters. -/
def Occurs (p : Pattern) (before text : List Char) : Prop :=
  ∃ skipped part after, text = skipped ++ part ++ after ∧ p.Matches (before ++ skipped) part

variable {p q : Pattern} {before text part : List Char}

theorem tries_isSome_iff : (p.tries before text).head?.isSome = true ↔
    ∃ part after, text = part ++ after ∧ p.Matches before part := by
  rw [List.isSome_head?]
  constructor
  · intro h
    obtain ⟨part, hmem⟩ := List.exists_mem_of_ne_nil _ h
    obtain ⟨⟨after, rfl⟩, hpart⟩ := (mem_tries_iff p).mp hmem
    exact ⟨part, after, rfl, hpart⟩
  · rintro ⟨part, after, rfl, hpart⟩
    exact List.ne_nil_of_mem ((mem_tries_iff p).mpr ⟨List.prefix_append _ _, hpart⟩)

/-- What occurs in a text starts with its first character, or occurs behind that. -/
theorem occurs_cons_iff {c : Char} : p.Occurs before (c :: text) ↔
    (∃ part after, c :: text = part ++ after ∧ p.Matches before part) ∨
      p.Occurs (before ++ [c]) text := by
  constructor
  · rintro ⟨skipped, part, after, htext, hpart⟩
    cases skipped with
    | nil => exact Or.inl ⟨part, after, htext, by simpa using hpart⟩
    | cons d skipped =>
      rw [List.cons_append, List.cons_append, List.cons.injEq] at htext
      obtain ⟨rfl, htext⟩ := htext
      exact Or.inr ⟨skipped, part, after, htext, by simpa using hpart⟩
  · rintro (⟨part, after, htext, hpart⟩ | ⟨skipped, part, after, rfl, hpart⟩)
    · exact ⟨[], part, after, htext, by simpa using hpart⟩
    · exact ⟨c :: skipped, part, after, rfl, by simpa using hpart⟩

theorem searchFrom_isSome_iff :
    (p.searchFrom before text).isSome = true ↔ p.Occurs before text := by
  induction text generalizing before with
  | nil =>
    rw [searchFrom, Option.isSome_map, tries_isSome_iff]
    constructor
    · rintro ⟨part, after, htext, hpart⟩
      exact ⟨[], part, after, htext, by simpa using hpart⟩
    · rintro ⟨skipped, part, after, htext, hpart⟩
      obtain ⟨rfl, rfl, rfl⟩ : skipped = [] ∧ part = [] ∧ after = [] := by
        simpa using htext.symm
      exact ⟨[], [], rfl, by simpa using hpart⟩
  | cons c text ih =>
    rw [searchFrom, Option.isSome_or, Option.isSome_map, Bool.or_eq_true, tries_isSome_iff, ih,
      occurs_cons_iff]

/-- **A search finds something if and only if the pattern describes some part of the text.** -/
theorem search_isSome_iff {text : String} :
    (p.search text).isSome = true ↔ p.Occurs [] text.toList :=
  searchFrom_isSome_iff

/-! ## Lines -/

/-- The words of the pattern hold no line feed. -/
def WithinLine : Pattern → Prop
  | lineStart | run => True
  | word cs => '\n' ∉ cs
  | optional p => p.WithinLine
  | seq p q => p.WithinLine ∧ q.WithinLine

instance decidableWithinLine : (p : Pattern) → Decidable p.WithinLine
  | lineStart | run => isTrue trivial
  | word cs => inferInstanceAs (Decidable ('\n' ∉ cs))
  | optional p => decidableWithinLine p
  | seq p q =>
    have := decidableWithinLine p
    have := decidableWithinLine q
    inferInstanceAs (Decidable (p.WithinLine ∧ q.WithinLine))

/-- **What a pattern describes is within a line**, if its words are. -/
theorem newline_not_mem_of_matches (within : p.WithinLine) (h : p.Matches before part) :
    '\n' ∉ part := by
  induction p generalizing before part with
  | lineStart => exact h.1 ▸ List.not_mem_nil
  | word cs => exact (show part = cs from h) ▸ within
  | run => exact h.2
  | optional p ih =>
    rcases h with rfl | h
    · exact List.not_mem_nil
    · exact ih within h
  | seq p q ihp ihq =>
    obtain ⟨first, second, rfl, hfirst, hsecond⟩ := h
    rw [List.mem_append, not_or]
    exact ⟨ihp within.1 hfirst, ihq within.2 hsecond⟩

end Pattern

end PodRedirect
