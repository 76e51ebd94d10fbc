import Mathlib.Data.List.DropRight
import PodRedirect.Proofs.Port.Reading

/-!
# How ranges are written

A range is written by a run of digits, or by two of them with a dash between. Tokens are read so,
with one exception. A number is also read where a line feed follows it, which cannot be so at the
end of a token, where white space is dropped, but can be in front of the dash.

## Main definitions

* `Numeral.Digits`: digits that write a number
* `Numeral.ShortRuns`: digits stand in runs that are short enough to be read
* `Port.Spells`: characters that write a range
* `Port.Breaks`: the same with a line feed in front of the dash

## Main results

* `Port.verdict_eq_ok_iff`: which characters are taken for a range
* `Port.parse_exact`: which tokens are, and what becomes of the others
-/

namespace PodRedirect

/-! ## Runs of digits -/

namespace Numeral

/-- One or more digits 0 to 9 that write the number. -/
structure Digits (ds : List Char) (n : Nat) : Prop where
  ne_nil : ds ≠ []
  isDigit : ∀ c ∈ ds, c.isDigit = true
  value : Nat.ofDigitChars 10 ds 0 = n

/-- No more digits than can be read stand next to each other. -/
def ShortRuns (cs : List Char) : Prop :=
  ∀ ds, ds <:+: cs → (∀ c ∈ ds, c.isDigit = true) → ds.length ≤ digitLimit

theorem ShortRuns.mono {cs cs' : List Char} (h : ShortRuns cs) (hpart : cs' <:+: cs) :
    ShortRuns cs' := fun ds hds => h ds (hds.trans hpart)

theorem ShortRuns.of_append_cons {cs cs' : List Char} {c : Char} (h : ShortRuns (cs ++ c :: cs')) :
    ShortRuns cs ∧ ShortRuns cs' :=
  ⟨h.mono (List.prefix_append cs _).isInfix,
    h.mono ((List.suffix_cons c cs').trans (List.suffix_append cs _)).isInfix⟩

/-- The characters are those of a number, perhaps with a line feed behind them. -/
def Shows (cs : List Char) (n : Nat) : Prop := Digits cs n ∨ ∃ ds, cs = ds ++ ['\n'] ∧ Digits ds n

variable {cs ds : List Char} {n : Nat}

theorem Digits.newline_not_mem (h : Digits ds n) : '\n' ∉ ds := fun hc => by
  cases h.isDigit _ hc

theorem Digits.dash_not_mem (h : Digits ds n) : '-' ∉ ds := fun hc => by
  cases h.isDigit _ hc

theorem Shows.dash_not_mem (h : Shows cs n) : '-' ∉ cs := by
  rcases h with h | ⟨ds, rfl, h⟩
  · exact h.dash_not_mem
  · simpa using h.dash_not_mem

/-- The characters without a line feed behind them. -/
def unended (cs : List Char) : List Char := if cs.getLast? = some '\n' then cs.dropLast else cs

theorem isInfix_unended (cs : List Char) : unended cs <:+: cs := by
  unfold unended
  split
  · exact (List.dropLast_prefix cs).isInfix
  · exact List.infix_refl cs

theorem shows_iff : Shows cs n ↔ Digits (unended cs) n := by
  unfold unended
  constructor
  · rintro (h | ⟨ds, rfl, h⟩)
    · rwa [if_neg fun hc => h.newline_not_mem (List.mem_of_getLast? hc)]
    · rwa [if_pos (by simp), List.dropLast_concat]
  · split
    next hlast =>
      obtain ⟨ds, rfl⟩ := List.getLast?_eq_some_iff.mp hlast
      rw [List.dropLast_concat]
      exact fun h => Or.inr ⟨ds, rfl, h⟩
    next => exact Or.inl

/-- A number is read if its digits are not too many. -/
theorem readAscii?_of_shows (h : Shows cs n) (short : ShortRuns cs) :
    readAscii? cs = some (.ok n) := by
  rw [shows_iff] at h
  have hempty : (unended cs).isEmpty = false := List.isEmpty_eq_false_iff.mpr h.ne_nil
  have hall : (unended cs).all Char.isDigit = true := List.all_eq_true.mpr h.isDigit
  have hlength := short _ (isInfix_unended cs) h.isDigit
  rw [readAscii?, ← unended]
  simp only [hempty, hall, Bool.not_true, Bool.or_self, Bool.false_eq_true, if_false,
    if_neg (Nat.not_lt.mpr hlength), Text.decimal_eq_ofDigitChars h.isDigit, h.value]

/-- Nothing else is read. -/
theorem exists_shows_of_readAscii? (h : readAscii? cs ≠ none) : ∃ n, Shows cs n := by
  rw [readAscii?, ← unended] at h
  have hdigits : ((unended cs).isEmpty || !(unended cs).all Char.isDigit) = false :=
    Bool.eq_false_iff.mpr fun hd => h (if_pos hd)
  rw [Bool.or_eq_false_iff, Bool.not_eq_false', List.isEmpty_eq_false_iff,
    List.all_eq_true] at hdigits
  exact ⟨_, shows_iff.mpr ⟨hdigits.1, hdigits.2, rfl⟩⟩

end Numeral

namespace Port

open Numeral (Digits Shows ShortRuns)

variable {cs : List Char} {r : PortRange}

/-! ## Characters -/

/-- The two runs of digits write the bounds of the range, which are ports and in order. -/
def Bounded (ls us : List Char) (r : PortRange) : Prop :=
  ∃ l u : Nat, Digits ls l ∧ Digits us u ∧ l ≤ u ∧ u ≤ 65535 ∧ r = ⟨l, u⟩

/-- The characters write the range: as one port, or as two with a dash between. -/
inductive Spells : List Char → PortRange → Prop where
  | port {ds : List Char} {n : Nat} (h : Digits ds n) (bound : n ≤ 65535) : Spells ds ⟨n, n⟩
  | range {ls us : List Char} {r : PortRange} (h : Bounded ls us r) : Spells (ls ++ '-' :: us) r

/-- The characters would write the range without the line feed in front of the dash. -/
def Breaks (cs : List Char) (r : PortRange) : Prop :=
  ∃ ls us, cs = ls ++ '\n' :: '-' :: us ∧ Bounded ls us r

theorem Spells.newline_not_mem (h : Spells cs r) : '\n' ∉ cs := by
  cases h with
  | port h bound => exact h.newline_not_mem
  | range h =>
    obtain ⟨l, u, hl, hu, -⟩ := h
    simpa using ⟨hl.newline_not_mem, hu.newline_not_mem⟩

theorem Breaks.not_spells (h : Breaks cs r) (r' : PortRange) : ¬ Spells cs r' := by
  obtain ⟨ls, us, rfl, -⟩ := h
  exact fun hs => hs.newline_not_mem (by simp)

/-- A number is taken for a port if it is one. -/
theorem number?_of_shows {n : Nat} (h : Shows cs n) (short : ShortRuns cs) :
    number? cs = .ok (if n ≤ 65535 then some (n : Int) else none) := by
  have hvalid : isValid (n : Int) = decide (n ≤ 65535) := by
    rw [Bool.eq_iff_iff, isValid_iff, decide_eq_true_eq]
    omega
  rw [number?, Numeral.readAscii?_of_shows h short]
  simp only [hvalid, decide_eq_true_eq]

theorem number?_of_not_shows (h : ∀ n, ¬ Shows cs n) : number? cs = .ok none := by
  have hread : Numeral.readAscii? cs = none := by
    cases hread : Numeral.readAscii? cs with
    | none => rfl
    | some x =>
      obtain ⟨n, hn⟩ := Numeral.exists_shows_of_readAscii? (hread ▸ Option.some_ne_none x)
      exact absurd hn (h n)
  rw [number?, hread]

/-- What is taken for a port is a number up to 65535, perhaps with a line feed behind it. -/
theorem shows_of_number? (short : ShortRuns cs) {k : Int} (h : number? cs = .ok (some k)) :
    ∃ n : Nat, Shows cs n ∧ n ≤ 65535 ∧ k = n := by
  by_cases hshows : ∃ n, Shows cs n
  · obtain ⟨n, hn⟩ := hshows
    rw [number?_of_shows hn short] at h
    by_cases hle : n ≤ 65535
    · rw [if_pos hle] at h
      cases h
      exact ⟨n, hn, hle, rfl⟩
    · rw [if_neg hle] at h
      cases h
  · rw [number?_of_not_shows (not_exists.mp hshows)] at h
    cases h

/-- Characters whose runs of digits are short enough are taken for a port or for none. -/
theorem exists_number? (short : ShortRuns cs) : ∃ k, number? cs = .ok k := by
  by_cases hshows : ∃ n, Shows cs n
  · obtain ⟨n, hn⟩ := hshows
    exact ⟨_, number?_of_shows hn short⟩
  · exact ⟨_, number?_of_not_shows (not_exists.mp hshows)⟩

theorem splitOn_eq_pair {first second : List Char} (hfirst : '-' ∉ first) (hsecond : '-' ∉ second) :
    (first ++ '-' :: second).splitOn '-' = [first, second] := by
  have hpieces : ∀ piece ∈ [first, second], '-' ∉ piece := by
    rw [List.forall_mem_cons, List.forall_mem_singleton]
    exact ⟨hfirst, hsecond⟩
  have hsplit := List.splitOn_intercalate '-' hpieces (List.cons_ne_nil _ _)
  rwa [List.intercalate_cons_cons, List.intercalate_singleton, List.append_assoc,
    List.singleton_append] at hsplit

/-! ## Verdicts -/

theorem verdict_of_shows {n : Nat} (h : Shows cs n) (short : ShortRuns cs) :
    verdict cs = .ok (if n ≤ 65535 then .ok ⟨n, n⟩ else .error .noPort) := by
  rw [verdict, Numeral.readAscii?_of_shows h short, if_pos Option.isSome_some,
    number?_of_shows h short]
  by_cases hle : n ≤ 65535
  · rw [if_pos hle, if_pos hle]
    rfl
  · rw [if_neg hle, if_neg hle]
    rfl

theorem verdict_of_not_shows (h : ∀ n, ¬ Shows cs n) :
    verdict cs = match cs.splitOn '-' with
      | [first, second] => verdictOfBounds first second
      | _ => .ok (.error .noRange) := by
  refine if_neg fun hread => ?_
  obtain ⟨n, hn⟩ := Numeral.exists_shows_of_readAscii? (Option.isSome_iff_ne_none.mp hread)
  exact h n hn

theorem verdict_append_cons {first second : List Char} (hfirst : '-' ∉ first)
    (hsecond : '-' ∉ second) :
    verdict (first ++ '-' :: second) = verdictOfBounds first second := by
  have hshows : ∀ n, ¬ Shows (first ++ '-' :: second) n := fun n hn => hn.dash_not_mem (by simp)
  rw [verdict_of_not_shows hshows, splitOn_eq_pair hfirst hsecond]

/-- Two numbers up to 65535 are the bounds of a range if they are in order. -/
theorem verdictOfBounds_of_shows {first second : List Char} {l u : Nat} (hl : Shows first l)
    (hu : Shows second u) (hfirst : ShortRuns first) (hsecond : ShortRuns second)
    (hordered : l ≤ u) (hle : u ≤ 65535) :
    verdictOfBounds first second = .ok (.ok ⟨l, u⟩) := by
  rw [verdictOfBounds, number?_of_shows hl hfirst, number?_of_shows hu hsecond, if_pos hle,
    if_pos (Nat.le_trans hordered hle)]
  change Except.ok (if _ then _ else _) = _
  rw [if_neg (by omega)]

/-- **What is taken for a range**: a number, or two of them with a dash between, each perhaps with a
line feed behind it. -/
theorem verdict_eq_ok_iff (short : ShortRuns cs) :
    verdict cs = .ok (.ok r) ↔
      (∃ n : Nat, Shows cs n ∧ n ≤ 65535 ∧ r = ⟨n, n⟩) ∨
      ∃ first second, cs = first ++ '-' :: second ∧
        ∃ l u : Nat, Shows first l ∧ Shows second u ∧ l ≤ u ∧ u ≤ 65535 ∧ r = ⟨l, u⟩ := by
  constructor
  · intro h
    rcases bounds_of_verdict h with
      ⟨n, hnumber, rfl⟩ | ⟨first, second, lower, upper, hsplit, hlower, hupper, hordered, rfl⟩
    · obtain ⟨n, hn, hle, rfl⟩ := shows_of_number? short hnumber
      exact Or.inl ⟨n, hn, hle, rfl⟩
    · obtain rfl := eq_append_of_splitOn hsplit
      obtain ⟨l, hl, -, rfl⟩ := shows_of_number? short.of_append_cons.1 hlower
      obtain ⟨u, hu, hle, rfl⟩ := shows_of_number? short.of_append_cons.2 hupper
      exact Or.inr ⟨first, second, rfl, l, u, hl, hu, Int.ofNat_le.mp hordered, hle, rfl⟩
  · rintro (⟨n, hn, hle, rfl⟩ | ⟨first, second, rfl, l, u, hl, hu, hordered, hle, rfl⟩)
    · rw [verdict_of_shows hn short, if_pos hle]
    · have hparts := short.of_append_cons
      rw [verdict_append_cons hl.dash_not_mem hu.dash_not_mem]
      exact verdictOfBounds_of_shows hl hu hparts.1 hparts.2 hordered hle

/-- Characters whose runs of digits are short enough are always judged. -/
theorem exists_verdict (short : ShortRuns cs) : ∃ v, verdict cs = .ok v := by
  by_cases hshows : ∃ n, Shows cs n
  · obtain ⟨n, hn⟩ := hshows
    exact ⟨_, verdict_of_shows hn short⟩
  rw [verdict_of_not_shows (not_exists.mp hshows)]
  split
  next first second hsplit =>
    obtain rfl := eq_append_of_splitOn hsplit
    obtain ⟨lower, hlower⟩ := exists_number? short.of_append_cons.1
    obtain ⟨upper, hupper⟩ := exists_number? short.of_append_cons.2
    rw [verdictOfBounds, hlower, hupper]
    cases lower with
    | none => exact ⟨_, rfl⟩
    | some lower => cases upper <;> exact ⟨_, rfl⟩
  next => exact ⟨_, rfl⟩

/-- Where no line feed ends the characters, they write a range, or they would without the line feed
in front of the dash. -/
theorem verdict_eq_ok_iff_spells (short : ShortRuns cs) (hend : ∀ ds, cs ≠ ds ++ ['\n']) :
    verdict cs = .ok (.ok r) ↔ Spells cs r ∨ Breaks cs r := by
  rw [verdict_eq_ok_iff short]
  constructor
  · rintro (⟨n, hn | ⟨ds, rfl, -⟩, hle, rfl⟩ | ⟨first, second, rfl, l, u, hl, hu, hbounds⟩)
    · exact Or.inl (.port hn hle)
    · exact absurd rfl (hend ds)
    · rcases hu with hu | ⟨us, rfl, -⟩
      · rcases hl with hl | ⟨ls, rfl, hl⟩
        · exact Or.inl (.range ⟨l, u, hl, hu, hbounds⟩)
        · exact Or.inr ⟨ls, second, by simp, l, u, hl, hu, hbounds⟩
      · exact absurd (by simp) (hend (first ++ '-' :: us))
  · rintro (h | ⟨ls, us, rfl, l, u, hl, hu, hbounds⟩)
    · cases h with
      | port h hle => exact Or.inl ⟨_, Or.inl h, hle, rfl⟩
      | range h =>
        obtain ⟨l, u, hl, hu, hbounds⟩ := h
        exact Or.inr ⟨_, _, rfl, l, u, Or.inl hl, Or.inl hu, hbounds⟩
    · exact Or.inr ⟨ls ++ ['\n'], us, by simp, l, u, Or.inr ⟨ls, rfl, hl⟩, Or.inl hu, hbounds⟩

/-! ## Tokens -/

theorem isInfix_stripped (token : String) : stripped token <:+: token.toList :=
  (List.rdropWhile_prefix Text.isBlank _).isInfix.trans (List.dropWhile_suffix _).isInfix

/-- No line feed is left at the end of a token. -/
theorem stripped_ne_append_newline (token : String) (ds : List Char) :
    stripped token ≠ ds ++ ['\n'] := by
  intro h
  have hne : stripped token ≠ [] := by simp [h]
  have hlast := List.rdropWhile_last_not Text.isBlank (token.toList.dropWhile Text.isBlank) hne
  have hnewline : (stripped token).getLast hne = '\n' := by simp [h]
  exact hlast (hnewline ▸ by decide)

/-- **Which tokens are taken for a range.** A token whose runs of digits are short enough to be read
is one if and only if its characters, without the white space around them, write a range, or would
without a line feed that stands in front of the dash. Any other token is refused, and the refusal
names it. So what is taken for a range is what writes one exactly where no such line feed stands. -/
theorem parse_exact {token : String} (short : ShortRuns token.toList) :
    (∀ r, PortRange.parse (.text token) = .ok r ↔
      Spells (stripped token) r ∨ Breaks (stripped token) r) ∧
    ((∀ r, ¬ Spells (stripped token) r ∧ ¬ Breaks (stripped token) r) →
      ∃ refusal : Refusal, PortRange.parse (.text token) = .error (.refused refusal) ∧
        refusal.token = .text token ∧ refusal.text = token) ∧
    ((∀ r, PortRange.parse (.text token) = .ok r ↔ Spells (stripped token) r) ↔
      ¬ ∃ r, Breaks (stripped token) r) := by
  have hstripped : ShortRuns (stripped token) := short.mono (isInfix_stripped token)
  have hparse : PortRange.parse (.text token) =
      judged (.text token) token (verdict (stripped token)) := parse_of_display rfl
  have haccepts : ∀ r, PortRange.parse (.text token) = .ok r ↔
      Spells (stripped token) r ∨ Breaks (stripped token) r := by
    intro r
    rw [hparse, judged_eq_ok_iff,
      verdict_eq_ok_iff_spells hstripped (stripped_ne_append_newline token)]
  refine ⟨haccepts, fun hnone => ?_, fun h ⟨r, hr⟩ => ?_, fun h r => ?_⟩
  · obtain ⟨v, hv⟩ := exists_verdict hstripped
    cases v with
    | ok r =>
      have hr := (haccepts r).mp (by rw [hparse, hv]; rfl)
      exact absurd hr (not_or.mpr (hnone r))
    | error cause =>
      rw [hparse, hv]
      exact ⟨_, rfl, rfl, rfl⟩
  · exact hr.not_spells r ((h r).mp ((haccepts r).mpr (Or.inr hr)))
  · rw [haccepts, or_iff_left fun hr => h ⟨r, hr⟩]

/-- A token that is short has short runs of digits. -/
theorem shortRuns_of_length_le {cs : List Char} (h : cs.length ≤ Numeral.digitLimit) :
    ShortRuns cs := fun _ hds _ => hds.length_le.trans h

/-- White space around a range does not belong to it. -/
theorem parse_exact_padded :
    ShortRuns "\t4190-4191 \n".toList ∧
    Spells (stripped "\t4190-4191 \n") ⟨4190, 4191⟩ ∧
    PortRange.parse (.text "\t4190-4191 \n") = .ok ⟨4190, 4191⟩ := by
  have hshort : ShortRuns "\t4190-4191 \n".toList := shortRuns_of_length_le (by decide)
  have hlower : Digits "4190".toList 4190 := ⟨by decide, List.all_eq_true.mp rfl, rfl⟩
  have hupper : Digits "4191".toList 4191 := ⟨by decide, List.all_eq_true.mp rfl, rfl⟩
  have hspells : Spells ("4190".toList ++ '-' :: "4191".toList) ⟨4190, 4191⟩ :=
    .range ⟨4190, 4191, hlower, hupper, by decide, by decide, rfl⟩
  have hstripped : stripped "\t4190-4191 \n" = "4190".toList ++ '-' :: "4191".toList := by decide
  rw [← hstripped] at hspells
  exact ⟨hshort, hspells, ((parse_exact hshort).1 _).mpr (Or.inl hspells)⟩

/-- A line feed in front of the dash is white space inside a token, and the token is a range all the
same. -/
theorem parse_lineFeed :
    ShortRuns "80\n-90".toList ∧ PortRange.parse (.text "80\n-90") = .ok ⟨80, 90⟩ ∧
      ∀ r, ¬ Spells (stripped "80\n-90") r := by
  refine ⟨shortRuns_of_length_le (by decide), rfl, fun r h => ?_⟩
  exact h.newline_not_mem (by decide)

end Port

end PodRedirect
