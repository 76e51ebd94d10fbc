import PodRedirect.Proofs.Port.Spelling
import PodRedirect.Proofs.Text
import PodRedirect.Proofs.Value
import PodRedirect.Proofs.Warning

/-!
# Tokens that are too long

Reading a token comes to a port or a range, or to a refusal that names it, unless it cannot be
written, because of an integer with too many digits or of lists nested too deep, or its text holds a
number with too many digits to be read. A token of this kind is neither accepted nor refused: it ends a pass over tokens, and with it
a compilation.

## Main definitions

* `Numeral.Reads`, `Numeral.Exceeds`: characters write a number that can be read, or that cannot
* `Port.Overlong`: characters that are read for a range up to a number that cannot be read
* `Port.Unread`: what keeps a token from being read
* `Port.Answers`: a token is taken for something valid, or refused by its name

## Main results

* `Port.parse_eq_numeral_iff`, `Port.range_parse_eq_numeral_iff`: which tokens are not read, and why
* `Port.run_fill_of_unread`: a pass over tokens ends at the first that is not read
* `Port.answered_unless_unread`: what becomes of tokens, of passes and of compilations
-/

namespace PodRedirect

/-! ## Numbers -/

namespace Numeral

/-- The characters write the number, perhaps with a line feed behind it, and its digits are few
enough to be read. -/
def Reads (cs : List Char) (n : Nat) : Prop :=
  ∃ ds, (cs = ds ∨ cs = ds ++ ['\n']) ∧ Digits ds n ∧ ds.length ≤ digitLimit

/-- The characters are those of a number, perhaps with a line feed behind it, that has more digits
than can be read. There are `k` of them. -/
def Exceeds (cs : List Char) (k : Nat) : Prop :=
  ∃ ds, (cs = ds ∨ cs = ds ++ ['\n']) ∧ (∀ c ∈ ds, c.isDigit = true) ∧ ds.length = k ∧
    digitLimit < k

variable {cs : List Char} {n k : Nat} {f : Fault}

/-- What stands in front of the line feed, if there is one, is known by the characters. -/
theorem exists_iff_unended {P : List Char → Prop} (hP : ∀ ds, P ds → '\n' ∉ ds) :
    (∃ ds, (cs = ds ∨ cs = ds ++ ['\n']) ∧ P ds) ↔ P (unended cs) := by
  unfold unended
  constructor
  · rintro ⟨ds, rfl | rfl, h⟩
    · rwa [if_neg fun hc => hP _ h (List.mem_of_getLast? hc)]
    · rwa [if_pos (by simp), List.dropLast_concat]
  · split
    next hlast =>
      obtain ⟨ds, rfl⟩ := List.getLast?_eq_some_iff.mp hlast
      rw [List.dropLast_concat]
      exact fun h => ⟨ds, Or.inr rfl, h⟩
    next => exact fun h => ⟨cs, Or.inl rfl, h⟩

theorem newline_not_mem_of_isDigit {ds : List Char} (h : ∀ c ∈ ds, c.isDigit = true) : '\n' ∉ ds :=
  fun hc => by cases h _ hc

theorem reads_iff : Reads cs n ↔ Digits (unended cs) n ∧ (unended cs).length ≤ digitLimit :=
  exists_iff_unended fun _ h => h.1.newline_not_mem

theorem exceeds_iff : Exceeds cs k ↔
    (∀ c ∈ unended cs, c.isDigit = true) ∧ (unended cs).length = k ∧ digitLimit < k :=
  exists_iff_unended fun _ h => newline_not_mem_of_isDigit h.1

theorem Reads.dash_not_mem (h : Reads cs n) : '-' ∉ cs := by
  obtain ⟨ds, rfl | rfl, h, -⟩ := h
  · exact h.dash_not_mem
  · simpa using h.dash_not_mem

theorem Exceeds.dash_not_mem (h : Exceeds cs k) : '-' ∉ cs := by
  obtain ⟨ds, hcs, hdigits, -⟩ := h
  have hds : '-' ∉ ds := fun hc => by cases hdigits _ hc
  rcases hcs with rfl | rfl
  · exact hds
  · simpa using hds

/-- Digits are read by their number. -/
theorem readAscii?_of_isDigit (hne : unended cs ≠ [])
    (hdigits : ∀ c ∈ unended cs, c.isDigit = true) :
    readAscii? cs = some (if digitLimit < (unended cs).length
      then .error (.tooLong (unended cs).length)
      else .ok (Nat.ofDigitChars 10 (unended cs) 0)) := by
  have hempty : (unended cs).isEmpty = false := List.isEmpty_eq_false_iff.mpr hne
  have hall : (unended cs).all Char.isDigit = true := List.all_eq_true.mpr hdigits
  rw [readAscii?, ← unended]
  simp only [hempty, hall, Bool.not_true, Bool.or_self, Bool.false_eq_true, if_false, gt_iff_lt,
    Text.decimal_eq_ofDigitChars hdigits, apply_ite some]

/-- What is read is digits. -/
theorem isDigit_of_readAscii? (h : readAscii? cs ≠ none) :
    unended cs ≠ [] ∧ ∀ c ∈ unended cs, c.isDigit = true := by
  obtain ⟨n, hn⟩ := exists_shows_of_readAscii? h
  exact ⟨(shows_iff.mp hn).ne_nil, (shows_iff.mp hn).isDigit⟩

/-- **Which characters are read for which number.** -/
theorem readAscii?_eq_ok_iff : readAscii? cs = some (.ok n) ↔ Reads cs n := by
  rw [reads_iff]
  constructor
  · intro h
    obtain ⟨hne, hdigits⟩ := isDigit_of_readAscii? (h ▸ Option.some_ne_none _)
    rw [readAscii?_of_isDigit hne hdigits] at h
    split at h
    · cases h
    next hshort =>
      cases h
      exact ⟨⟨hne, hdigits, rfl⟩, Nat.not_lt.mp hshort⟩
  · rintro ⟨h, hshort⟩
    rw [readAscii?_of_isDigit h.ne_nil h.isDigit, if_neg (Nat.not_lt.mpr hshort), h.value]

/-- **Which characters are a number that is too long to be read.** -/
theorem readAscii?_eq_error_iff :
    readAscii? cs = some (.error f) ↔ ∃ k, Exceeds cs k ∧ f = .tooLong k := by
  constructor
  · intro h
    obtain ⟨hne, hdigits⟩ := isDigit_of_readAscii? (h ▸ Option.some_ne_none _)
    rw [readAscii?_of_isDigit hne hdigits] at h
    split at h
    next hlong =>
      cases h
      exact ⟨_, exceeds_iff.mpr ⟨hdigits, rfl, hlong⟩, rfl⟩
    next => cases h
  · rintro ⟨k, h, rfl⟩
    obtain ⟨hdigits, rfl, hlong⟩ := exceeds_iff.mp h
    have hne : unended cs ≠ [] := List.ne_nil_of_length_pos (Nat.zero_lt_of_lt hlong)
    rw [readAscii?_of_isDigit hne hdigits, if_pos hlong]

end Numeral

namespace Port

open Numeral (Exceeds Reads)

variable {cs : List Char} {f : Numeral.Fault}

theorem number?_eq_error_iff : number? cs = .error f ↔ ∃ k, Exceeds cs k ∧ f = .tooLong k := by
  rw [← Numeral.readAscii?_eq_error_iff, number?]
  rcases Numeral.readAscii? cs with _ | _ | _ <;> simp

/-- What is taken for a port is a number up to 65535 that is short enough to be read. -/
theorem number?_eq_some_iff {p : Int} :
    number? cs = .ok (some p) ↔ ∃ n : Nat, Reads cs n ∧ n ≤ 65535 ∧ p = n := by
  have hport : ∀ n : Nat, (if isValid n then some (n : Int) else none) = some p ↔
      n ≤ 65535 ∧ p = n := by
    intro n
    rw [Option.ite_none_right_eq_some, isValid_iff, Option.some.injEq]
    omega
  simp only [← Numeral.readAscii?_eq_ok_iff, number?]
  rcases Numeral.readAscii? cs with _ | _ | n
  · simp
  · simp
  · simp [hport]

/-! ## Characters -/

/-- The characters are read for a range up to a number that has too many digits, `k` of them: all
the characters are this number, or the lower bound is, or the upper one behind a lower bound that is
a port. -/
inductive Overlong : List Char → Nat → Prop where
  | number {cs : List Char} {k : Nat} (h : Exceeds cs k) : Overlong cs k
  | lower {first second : List Char} {k : Nat} (h : Exceeds first k) (single : '-' ∉ second) :
    Overlong (first ++ '-' :: second) k
  | upper {first second : List Char} {n k : Nat} (lower : Reads first n) (port : n ≤ 65535)
    (h : Exceeds second k) : Overlong (first ++ '-' :: second) k

theorem verdictOfBounds_eq_error_iff {first second : List Char} :
    verdictOfBounds first second = .error f ↔ ∃ k, f = .tooLong k ∧
      (Exceeds first k ∨ ∃ n : Nat, Reads first n ∧ n ≤ 65535 ∧ Exceeds second k) := by
  rw [verdictOfBounds, bind_eq_error_iff, number?_eq_error_iff]
  constructor
  · rintro (⟨k, hk, rfl⟩ | ⟨lower, hlower, h⟩)
    · exact ⟨k, rfl, Or.inl hk⟩
    · cases lower with
      | none => cases h
      | some lower =>
        obtain ⟨n, hn, hport, -⟩ := number?_eq_some_iff.mp hlower
        rcases bind_eq_error_iff.mp h with h | ⟨upper, -, h⟩
        · obtain ⟨k, hk, rfl⟩ := number?_eq_error_iff.mp h
          exact ⟨k, rfl, Or.inr ⟨n, hn, hport, hk⟩⟩
        · -- with both bounds the characters are judged
          cases upper <;> cases h
  · rintro ⟨k, rfl, hk | ⟨n, hn, hport, hk⟩⟩
    · exact Or.inl ⟨k, hk, rfl⟩
    · refine Or.inr ⟨some n, number?_eq_some_iff.mpr ⟨n, hn, hport, rfl⟩, ?_⟩
      exact bind_eq_error_iff.mpr (Or.inl (number?_eq_error_iff.mpr ⟨k, hk, rfl⟩))

/-- **Which characters are not judged**: those that are read up to a number that is too long. -/
theorem verdict_eq_error_iff : verdict cs = .error f ↔ ∃ k, Overlong cs k ∧ f = .tooLong k := by
  constructor
  · intro h
    unfold verdict at h
    split at h
    · obtain ⟨k, hk, rfl⟩ := number?_eq_error_iff.mp (map_eq_error_iff.mp h)
      exact ⟨k, .number hk, rfl⟩
    · split at h
      next first second hsplit =>
        have hsecond : second ∈ cs.splitOn '-' := by simp [hsplit]
        obtain rfl := eq_append_of_splitOn hsplit
        obtain ⟨k, rfl, hk | ⟨n, hn, hport, hk⟩⟩ := verdictOfBounds_eq_error_iff.mp h
        · exact ⟨k, .lower hk (Text.not_mem_of_mem_splitOn hsecond), rfl⟩
        · exact ⟨k, .upper hn hport hk, rfl⟩
      next => cases h
  · rintro ⟨k, h, rfl⟩
    cases h with
    | number h =>
      have hread := Numeral.readAscii?_eq_error_iff.mpr ⟨k, h, rfl⟩
      rw [verdict, hread, if_pos Option.isSome_some, map_eq_error_iff]
      exact number?_eq_error_iff.mpr ⟨k, h, rfl⟩
    | lower h single =>
      rw [verdict_append_cons h.dash_not_mem single]
      exact verdictOfBounds_eq_error_iff.mpr ⟨k, rfl, Or.inl h⟩
    | upper lower port h =>
      rw [verdict_append_cons lower.dash_not_mem h.dash_not_mem]
      exact verdictOfBounds_eq_error_iff.mpr ⟨k, rfl, Or.inr ⟨_, lower, port, h⟩⟩

/-! ## Tokens -/

/-- What keeps the token from being read: it cannot be written, or a number in its text has too many
digits, where `TooLong` tells how the characters are read. -/
inductive Unread (TooLong : List Char → Nat → Prop) (token : Value) : Numeral.Fault → Prop where
  | unwritable {f : Numeral.Fault} (h : Value.Unwritable [] 0 token f) : Unread TooLong token f
  | tooLong {text : String} {k : Nat} (h : token.display = .ok text)
    (long : TooLong (stripped text) k) : Unread TooLong token (.tooLong k)

/-- The token is taken for something valid, or it is refused, and the refusal names it. -/
def Answers {α : Type} (token : Value) (x : Except Fault α) (Valid : α → Prop) : Prop :=
  (∃ a, x = .ok a ∧ Valid a) ∨ ∃ r : Refusal, x = .error (.refused r) ∧ r.token = token

section Token

variable {token : Value} {text : String} {TooLong : List Char → Nat → Prop}

theorem unread_iff_of_unwritable {f' : Numeral.Fault} (h : token.display = .error f') :
    Unread TooLong token f ↔ f' = f := by
  constructor
  · rintro (hf | htext)
    · have heq := h.symm.trans (Value.display_eq_error_iff.mpr hf)
      exact Except.error.inj heq
    · cases h.symm.trans htext
  · rintro rfl
    exact .unwritable (Value.display_eq_error_iff.mp h)

theorem unread_iff_of_display (h : token.display = .ok text) :
    Unread TooLong token f ↔ ∃ k, TooLong (stripped text) k ∧ f = .tooLong k := by
  constructor
  · rintro (hf | ⟨htext, long⟩)
    · cases h.symm.trans (Value.display_eq_error_iff.mpr hf)
    · cases h.symm.trans htext
      exact ⟨_, long, rfl⟩
  · rintro ⟨k, long, rfl⟩
    exact .tooLong h long

/-- What is valid and names its refusals has an answer for every token that is read. -/
theorem answers_iff {α : Type} {x : Except Fault α} {Valid : α → Prop}
    (valid : ∀ a, x = .ok a → Valid a) (names : ∀ r, x = .error (.refused r) → r.token = token) :
    Answers token x Valid ↔ ∀ f, x ≠ .error (.numeral f) := by
  rcases x with (r | f) | a
  · simpa [Answers] using names r rfl
  · simp [Answers]
  · simpa [Answers] using valid a rfl

/-- A token comes to the number that its characters write. -/
theorem parse_eq_of_display (h : token.display = .ok text) :
    parse token = match number? (stripped text) with
      | .ok (some n) => .ok n
      | .ok none => .error (.refused ⟨token, text, .noPort⟩)
      | .error f => .error (.numeral f) := by
  rw [parse, h]
  change (Except.mapError _ (number? _) >>= _) = _
  rcases number? (stripped text) with f | _ | n <;> rfl

theorem parse_eq_of_unwritable (h : token.display = .error f) :
    parse token = .error (.numeral f) := by
  rw [parse, h]
  rfl

/-- A port that is refused is refused by its name. -/
theorem token_of_refused {r : Refusal} (h : parse token = .error (.refused r)) :
    r.token = token := by
  cases hdisplay : token.display with
  | error f =>
    rw [parse_eq_of_unwritable hdisplay] at h
    cases h
  | ok text =>
    rw [parse_eq_of_display hdisplay] at h
    split at h <;> cases h
    rfl

/-- **Which tokens are not read as ports**, and why. -/
theorem parse_eq_numeral_iff : parse token = .error (.numeral f) ↔ Unread Exceeds token f := by
  cases hdisplay : token.display with
  | error f' =>
    rw [parse_eq_of_unwritable hdisplay, unread_iff_of_unwritable hdisplay, Except.error.injEq,
      Fault.numeral.injEq]
  | ok text =>
    rw [parse_eq_of_display hdisplay, unread_iff_of_display hdisplay, ← number?_eq_error_iff]
    rcases number? (stripped text) with f' | _ | n <;> simp

/-- **Which tokens are not read as ranges**, and why. -/
theorem range_parse_eq_numeral_iff :
    PortRange.parse token = .error (.numeral f) ↔ Unread Overlong token f := by
  cases hdisplay : token.display with
  | error f' =>
    rw [parse_of_unwritable hdisplay, unread_iff_of_unwritable hdisplay, Except.error.injEq,
      Fault.numeral.injEq]
  | ok text =>
    rw [parse_of_display hdisplay, unread_iff_of_display hdisplay, ← verdict_eq_error_iff]
    rcases verdict (stripped text) with f' | cause | r <;> simp [judged]

theorem readable_iff : Readable token ↔ ∀ f, ¬ Unread Overlong token f := by
  simp only [Readable, ne_eq, range_parse_eq_numeral_iff]

end Token

/-! ## Passes -/

section Pass

variable {before after : List Value} {token : Value}

/-- A reading ends at the first token that is not read. -/
theorem read_of_unread (hbefore : ∀ t ∈ before, Readable t) (h : Unread Overlong token f) :
    (read (before ++ token :: after)).refused = (read before).refused ∧
      (read (before ++ token :: after)).fault = some f := by
  induction before with
  | nil =>
    simp [read, range_parse_eq_numeral_iff.mpr h]
  | cons t before ih =>
    rw [List.forall_mem_cons] at hbefore
    obtain ⟨hrefused, hfault⟩ := ih hbefore.2
    rw [List.cons_append, read, read]
    cases hparse : PortRange.parse t with
    | ok r => exact ⟨hrefused, hfault⟩
    | error f' =>
      cases f' with
      | refused r => exact ⟨congrArg (r :: ·) hrefused, hfault⟩
      | numeral f' => exact absurd hparse (hbefore.1 f')

/-- There is a warning for every refusal. -/
theorem map_warning_refusals (tokens : List Value) :
    (refusals tokens).map (fun (_, r) => r.warning) = tokens.filterMap warning? := by
  rw [refusals, List.map_filterMap]
  congr 1
  funext t
  rw [refusal?, warning?]
  rcases PortRange.parse t with (r | f) | r <;> rfl

variable {m : Type → Type} [Monad m] [LawfulMonad m] (report : Value → Refusal → m Unit)
  (capacity : Int)

/-- A pass over tokens that are read gives their groups, after the reports. -/
theorem run_fill_of_read {tokens : List Value} (h : ∀ t ∈ tokens, Readable t) :
    (fill report capacity (some tokens)).run = (do
      forM (refusals tokens) fun (token, r) => report token r
      return .ok (groups capacity tokens)) := by
  have hpass := run_fill_of_readable report capacity (show ∀ t ∈ (some tokens).getD [], _ from h)
  rw [Option.getD_some] at hpass
  rw [hpass, multiport, (read_of_readable h).2.2]

/-- **A pass ends at the first token that is not read**, after the reports about those in front. -/
theorem run_fill_of_unread (hbefore : ∀ t ∈ before, Readable t) (h : Unread Overlong token f) :
    (fill report capacity (some (before ++ token :: after))).run = (do
      forM (refusals before) fun (token, r) => report token r
      return .error f) := by
  obtain ⟨hrefused, hfault⟩ :
      (read (before ++ token :: after)).refused = (read before).refused ∧ _ :=
    read_of_unread hbefore h
  rw [run_fill, Option.getD_some, hrefused, multiport, hfault, ← (read_of_readable hbefore).2.1,
    List.forM_map]

end Pass

end Port

/-! ## Compilations -/

namespace Compiler

open Port (Unread Overlong)

variable (p : Policy) (traceId : String)

/-- A reading of more tokens ends where the first reading does, or else where the rest does. -/
theorem fault_read_append (before after : List Value) :
    (Port.read (before ++ after)).fault = (Port.read before).fault.or (Port.read after).fault := by
  induction before with
  | nil => rfl
  | cons token before ih =>
    rw [List.cons_append, Port.read, Port.read]
    cases PortRange.parse token with
    | ok r => exact ih
    | error f =>
      cases f with
      | refused r => exact ih
      | numeral f => rfl

/-- If the numbers of the proxy's user and group can be written, a compilation only stops at a token
that is not read. -/
theorem stopped?_steps (owners : WritesOwners p) (i : Installed) :
    stopped? (steps p traceId i) =
      (Port.read (tokens (p.inboundIgnored ++ p.outboundIgnored))).fault := by
  have hproxy : stopped? (ignoreProxy p traceId Rule.outputChain) = none :=
    (stopped?_ignoreProxy_eq_none_iff p traceId Rule.outputChain).mpr owners
  have hsubnets : stopped? (ignoreSubnets traceId Rule.redirectChain p.subnets) = none :=
    stopped?_map_emit _ _
  have hin : stopped? (inbound p traceId i) = (Port.read (tokens p.inboundIgnored)).fault := by
    simp only [inbound, stopped?_append, stopped?_ensureChain, stopped?_ignorePorts, hsubnets,
      stopped?_redirectInbound, stopped?_ensureJump, Option.none_or, Option.or_none]
  have hout : stopped? (outbound p traceId i) = (Port.read (tokens p.outboundIgnored)).fault := by
    simp only [outbound, stopped?_append, stopped?_ensureChain, stopped?_ignorePorts, hproxy,
      stopped?_ensureJump, stopped?, Option.none_or, Option.or_none]
  rw [steps, stopped?_append, hin, hout, ← fault_read_append, tokens, tokens, tokens,
    List.map_append]

/-- **A compilation stops at the first token that is not read.** -/
theorem compile_of_unread (owners : WritesOwners p) {before after : List Value} {token : Value}
    {f : Numeral.Fault}
    (htokens : tokens (p.inboundIgnored ++ p.outboundIgnored) = before ++ token :: after)
    (hbefore : ∀ t ∈ before, Port.Readable t) (h : Unread Overlong token f) (listing : String) :
    ((new p traceId).compile listing).1 = .error (.mishap (.numeral f)) := by
  have hstopped : stopped? (steps p traceId (Installed.scan listing)) = some f := by
    rw [stopped?_steps p traceId owners, htokens, (Port.read_of_unread hbefore h).2]
  simp only [compile, take, new, reset, hstopped]
  rfl

/-- A compilation of tokens that are read succeeds, and warns about those that are refused. -/
theorem exists_compile_of_readable (owners : WritesOwners p)
    (h : ∀ t ∈ tokens (p.inboundIgnored ++ p.outboundIgnored), Port.Readable t) (listing : String) :
    ∃ r, ((new p traceId).compile listing).1 = .ok r ∧
      r.warnings = (tokens (p.inboundIgnored ++ p.outboundIgnored)).filterMap Port.warning? := by
  have hlegible : ∀ token ∈ p.inboundIgnored ++ p.outboundIgnored, Port.Legible token :=
    fun token htoken => h _ (List.mem_map_of_mem htoken)
  obtain ⟨r, hr⟩ := (exists_compile_iff p traceId listing).mpr ⟨hlegible, owners⟩
  exact ⟨r, hr, (warnings_of_compile hr).1⟩

end Compiler

/-! ## All tokens -/

namespace Port

open Numeral (Exceeds)

/-- **Every token is taken for something valid or refused by its name, unless a number in it is too
long.** A port is one up to 65535, and the bounds of a range are such ports and in order. A token
that shows an integer too long to be written, or whose text has a number too long to be read in a
place that the reading gets to, fails with what is wrong with the number, and this is no refusal.
Where all tokens are read, a pass over them reports those that are refused and gives the groups of
the others, and a compilation warns about those that are refused. Otherwise both fail at the first
token that is not read. -/
theorem answered_unless_unread {m : Type → Type} [Monad m] [LawfulMonad m]
    (report : Value → Refusal → m Unit) (capacity : Int) :
    (∀ token, (Answers token (parse token) fun n => 0 ≤ n ∧ n ≤ 65535) ↔
      ∀ f, ¬ Unread Exceeds token f) ∧
    (∀ token, (Answers token (PortRange.parse token) fun r =>
        0 ≤ r.lower ∧ r.lower ≤ r.upper ∧ r.upper ≤ 65535) ↔ ∀ f, ¬ Unread Overlong token f) ∧
    (∀ token f, (Unread Exceeds token f ↔ parse token = .error (.numeral f)) ∧
      (Unread Overlong token f ↔ PortRange.parse token = .error (.numeral f))) ∧
    (∀ tokens : List Value, (∀ t ∈ tokens, ∀ f, ¬ Unread Overlong t f) →
      (fill report capacity (some tokens)).run = (do
        forM (refusals tokens) fun (token, r) => report token r
        return .ok (groups capacity tokens)) ∧
      ∀ p traceId listing, Compiler.WritesOwners p →
        Compiler.tokens (p.inboundIgnored ++ p.outboundIgnored) = tokens →
        ∃ r, ((Compiler.new p traceId).compile listing).1 = .ok r ∧
          r.warnings = (refusals tokens).map fun (_, r) => r.warning) ∧
    ∀ (before after : List Value) (token : Value) (f : Numeral.Fault),
      (∀ t ∈ before, ∀ f, ¬ Unread Overlong t f) → Unread Overlong token f →
      (fill report capacity (some (before ++ token :: after))).run = (do
        forM (refusals before) fun (token, r) => report token r
        return .error f) ∧
      ∀ p traceId listing, Compiler.WritesOwners p →
        Compiler.tokens (p.inboundIgnored ++ p.outboundIgnored) = before ++ token :: after →
        ((Compiler.new p traceId).compile listing).1 = .error (.mishap (.numeral f)) := by
  refine ⟨fun token => ?_, fun token => ?_, fun token f => ⟨parse_eq_numeral_iff.symm,
    range_parse_eq_numeral_iff.symm⟩, fun tokens h => ?_, fun before after token f hbefore h => ?_⟩
  · rw [answers_iff (fun n hn => isValid_iff.mp (isValid_of_parse hn)) fun r => token_of_refused]
    simp only [ne_eq, parse_eq_numeral_iff]
  · have valid : ∀ r, PortRange.parse token = .ok r →
        0 ≤ r.lower ∧ r.lower ≤ r.upper ∧ r.upper ≤ 65535 := by
      intro r hr
      have hvalid := PortRange.valid_of_parse hr
      exact ⟨(isValid_iff.mp hvalid.lower).1, hvalid.ordered, (isValid_iff.mp hvalid.upper).2⟩
    rw [answers_iff valid fun r => token_of_parse]
    simp only [ne_eq, range_parse_eq_numeral_iff]
  · simp only [← readable_iff] at h
    refine ⟨run_fill_of_read report capacity h, ?_⟩
    rintro p traceId listing owners rfl
    obtain ⟨r, hr, hwarnings⟩ := Compiler.exists_compile_of_readable p traceId owners h listing
    exact ⟨r, hr, hwarnings.trans (map_warning_refusals _).symm⟩
  · simp only [← readable_iff] at hbefore
    refine ⟨run_fill_of_unread report capacity hbefore h, ?_⟩
    intro p traceId listing owners htokens
    exact Compiler.compile_of_unread p traceId owners htokens hbefore h listing

/-- A token of nines only. -/
def nines (k : Nat) : String := String.ofList (List.replicate k '9')

theorem exceeds_nines {k : Nat} (h : Numeral.digitLimit < k) : Exceeds (stripped (nines k)) k := by
  have hstripped : stripped (nines k) = List.replicate k '9' := by
    rw [stripped, nines, String.toList_ofList]
    refine Text.trim_eq_self fun c hc => ?_
    rw [List.eq_of_mem_replicate hc]
    decide
  rw [hstripped]
  refine ⟨_, Or.inl rfl, fun c hc => ?_, List.length_replicate, h⟩
  rw [List.eq_of_mem_replicate hc]
  decide

theorem unread_nines : Unread Overlong (.text (nines 4301)) (.tooLong 4301) :=
  .tooLong rfl (.number (exceeds_nines (Nat.lt_succ_self Numeral.digitLimit)))

/-- A pass reports what is refused in front of the nines and ends there, and so does a compilation
of a policy with these tokens. -/
theorem answered_unless_unread_nines :
    let tokens := ["http", nines 4301, "80"]
    (∀ f, ¬ Unread Overlong (.text "http") f) ∧
    Unread Overlong (.text (nines 4301)) (.tooLong 4301) ∧
    (fill logRefused 15 (some (Compiler.tokens tokens))).run.run #[] =
      (.error (.tooLong 4301), #[⟨.portGroups, .error,
        "invalid port configuration of \"http\": ranges expected as <lower>-<upper>"⟩]) ∧
    ((Compiler.new { Policy.sidecar with inboundIgnored := tokens, outboundIgnored := [] }
      "1700000000").compile "").1 = .error (.mishap (.numeral (.tooLong 4301))) := by
  intro tokens
  obtain ⟨-, hanswers, -, -, hpass⟩ := answered_unless_unread logRefused 15
  have hhttp : ∀ f, ¬ Unread Overlong (.text "http") f :=
    (hanswers _).mp (Or.inr ⟨⟨.text "http", "http", .noRange⟩, rfl, rfl⟩)
  obtain ⟨hrun, hcompile⟩ := hpass [.text "http"] [.text "80"] _ _
    (List.forall_mem_singleton.mpr hhttp) unread_nines
  refine ⟨hhttp, unread_nines, (congrArg (fun x => x.run #[]) hrun).trans rfl, ?_⟩
  exact hcompile _ _ _ (by decide +kernel) rfl

/-- So many nines are taken for no port, and they are not refused either. -/
theorem parse_nines :
    ¬ Answers (.text (nines 4301)) (parse (.text (nines 4301))) fun n => 0 ≤ n ∧ n ≤ 65535 := by
  have hlong := exceeds_nines (Nat.lt_succ_self Numeral.digitLimit)
  rw [parse_eq_numeral_iff.mpr (.tooLong rfl hlong)]
  rintro (⟨n, h, -⟩ | ⟨r, h, -⟩) <;> cases h

end Port

end PodRedirect
