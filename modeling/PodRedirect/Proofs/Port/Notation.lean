import PodRedirect.Proofs.Numeral
import PodRedirect.Proofs.Port.Overlong

/-!
# Ranges written and read

A range has two notations, one for options and one for rules, and is read back from either of them.
There are two readers of tokens as well, for ports and for ranges: they agree on the tokens without
a dash, and no token with a dash is a port.

## Main results

* `PortRange.parse_text`: a range is read back from its notation in options
* `PortRange.colon_mem_destination_iff`: the destination of a range shows whether it is of one port
* `Port.parse_eq_iff_range`: the two readers of tokens agree
* `Port.notations_readBack`: what the notations of a range and the readers of tokens have in common
-/

namespace PodRedirect

open Text

/-! ## Decimals of ports -/

namespace Port

open Numeral (Digits ShortRuns)

theorem digits_toDigits (k : Nat) : Digits (Nat.toDigits 10 k) k where
  ne_nil := Nat.toDigits_ne_nil
  isDigit _ hc := isDigit_of_mem_toDigits hc
  value := Nat.ofDigitChars_ten_toDigits

/-- There is no white space in the decimal of a natural number. -/
theorem not_isBlank_of_mem_toDigits {k : Nat} {c : Char} (h : c ∈ Nat.toDigits 10 k) :
    isBlank c = false :=
  Numeral.isBlank_of_digit (Numeral.isSome_of_isDigit (isDigit_of_mem_toDigits h))

theorem stripped_toString (k : Nat) : stripped (toString (k : Int)) = Nat.toDigits 10 k := by
  rw [stripped, toList_toString_ofNat]
  exact trim_eq_self fun c hc => not_isBlank_of_mem_toDigits hc

/-- A port has at most five digits. -/
theorem length_toDigits_le {k : Nat} (h : k ≤ 65535) : (Nat.toDigits 10 k).length ≤ 5 :=
  (Nat.length_toDigits_le_iff (by decide) (by decide)).mpr (by omega)

end Port

/-! ## The notations of a range -/

namespace PortRange

open Numeral (ShortRuns)
open Port

variable {r : PortRange}

/-- The bounds of a valid range are natural numbers up to the greatest port. -/
theorem Valid.exists_bounds (h : r.Valid) : ∃ l u : Nat, l ≤ u ∧ u ≤ 65535 ∧ r = ⟨l, u⟩ := by
  obtain ⟨hlower, -⟩ := isValid_iff.mp h.lower
  obtain ⟨-, hupper⟩ := isValid_iff.mp h.upper
  have hordered := h.ordered
  refine ⟨r.lower.toNat, r.upper.toNat, by omega, by omega, ?_⟩
  rw [Int.toNat_of_nonneg hlower, Int.toNat_of_nonneg (by omega)]

/-- The characters of the notation in options. -/
theorem toList_text (l u : Nat) : (text ⟨l, u⟩).toList =
    if l = u then Nat.toDigits 10 l else Nat.toDigits 10 l ++ '-' :: Nat.toDigits 10 u := by
  unfold text isSingle
  by_cases h : l = u
  · rw [if_pos h, if_pos (decide_eq_true (congrArg Nat.cast h))]
    exact toList_toString_ofNat l
  · have hne : ¬ decide ((l : Int) = u) = true := fun heq =>
      h (Int.ofNat_inj.mp (of_decide_eq_true heq))
    rw [if_neg h, if_neg hne, String.toList_append, String.toList_append,
      toList_toString_ofNat, toList_toString_ofNat, List.append_assoc]
    rfl

/-- The notation in options writes the range. -/
theorem Valid.spells (h : r.Valid) : Spells r.text.toList r := by
  obtain ⟨l, u, hordered, hle, rfl⟩ := h.exists_bounds
  rw [toList_text]
  split
  next heq => exact heq ▸ .port (digits_toDigits l) (hordered.trans hle)
  next => exact .range ⟨l, u, digits_toDigits l, digits_toDigits u, hordered, hle, rfl⟩

theorem Valid.length_text_le (h : r.Valid) : r.text.toList.length ≤ 11 := by
  obtain ⟨l, u, hordered, hle, rfl⟩ := h.exists_bounds
  have hl := length_toDigits_le (hordered.trans hle)
  have hu := length_toDigits_le hle
  rw [toList_text]
  split
  · omega
  · rw [List.length_append, List.length_cons]
    omega

/-- There is no white space to trim off the notation in options. -/
theorem Valid.stripped_text (h : r.Valid) : stripped r.text = r.text.toList := by
  obtain ⟨l, u, -, -, rfl⟩ := h.exists_bounds
  refine trim_eq_self fun c hc => ?_
  rw [toList_text] at hc
  split at hc
  · exact not_isBlank_of_mem_toDigits hc
  · rw [List.mem_append, List.mem_cons] at hc
    rcases hc with hc | rfl | hc
    · exact not_isBlank_of_mem_toDigits hc
    · decide
    · exact not_isBlank_of_mem_toDigits hc

/-- **A range is read back from its notation in options.** -/
theorem parse_text (h : r.Valid) : PortRange.parse (.text r.text) = .ok r := by
  have hshort : ShortRuns r.text.toList :=
    shortRuns_of_length_le (h.length_text_le.trans (by decide))
  refine ((parse_exact hshort).1 r).mpr (Or.inl ?_)
  rw [h.stripped_text]
  exact h.spells

/-- **The destination of a range has a colon if and only if the range is of several ports.** -/
theorem colon_mem_destination_iff (r : PortRange) :
    ':' ∈ r.destination.toList ↔ r.isSingle = false := by
  unfold destination
  cases h : r.isSingle with
  | true =>
    rw [if_pos rfl]
    exact iff_of_false (not_mem_toString (by decide) (by decide) _) Bool.true_eq_false.mp
  | false =>
    rw [if_neg Bool.false_ne_true]
    exact iff_of_true (by simp) rfl

/-- Ranges with the same destination are the same. -/
theorem destination_injective {s : PortRange} (h : r.destination = s.destination) : r = s :=
  Option.some.inj (by rw [← ofDestination?_destination r, h, ofDestination?_destination])

end PortRange

/-! ## The readers of tokens -/

namespace Port

/-- The stripped text of the token has a dash. -/
def HasDash (token : Value) : Prop := ∃ text, token.display = .ok text ∧ '-' ∈ stripped text

variable {token : Value} {cs : List Char} {n : Int} {r : PortRange}

/-- A number that is read has no dash. -/
theorem dash_not_mem_of_number? (h : number? cs = .ok (some n)) : '-' ∉ cs := by
  obtain ⟨k, hk, -⟩ := number?_eq_some_iff.mp h
  exact hk.dash_not_mem

/-- Without a dash, a range is the port that is read. -/
theorem verdict_eq_ok_iff_of_not_mem (h : '-' ∉ cs) :
    verdict cs = .ok (.ok r) ↔ ∃ n, number? cs = .ok (some n) ∧ r = ⟨n, n⟩ := by
  constructor
  · intro hverdict
    rcases bounds_of_verdict hverdict with hport | ⟨first, second, lower, upper, hsplit, -⟩
    · exact hport
    · -- two parts have a dash between them
      refine absurd ?_ h
      rw [eq_append_of_splitOn hsplit]
      simp
  · rintro ⟨n, hn, rfl⟩
    have hread : (Numeral.readAscii? cs).isSome = true := by
      by_contra hnone
      rw [number?, Option.not_isSome_iff_eq_none.mp hnone] at hn
      cases hn
    rw [verdict, if_pos hread, hn]
    rfl

theorem parse_eq_ok_iff_number? :
    parse token = .ok n ↔ ∃ text, token.display = .ok text ∧
      number? (stripped text) = .ok (some n) := by
  cases hdisplay : token.display with
  | error f =>
    rw [parse_eq_of_unwritable hdisplay]
    exact ⟨nofun, nofun⟩
  | ok text =>
    rw [parse_eq_of_display hdisplay]
    simp only [Except.ok.injEq, exists_eq_left']
    rcases number? (stripped text) with f | _ | m <;> simp

/-- **The two readers of tokens agree**: a token is a port if it is the range of that port, and has
no dash. -/
theorem parse_eq_iff_range :
    parse token = .ok n ↔ PortRange.parse token = .ok ⟨n, n⟩ ∧ ¬ HasDash token := by
  rw [parse_eq_ok_iff_number?, parse_eq_ok_iff]
  constructor
  · rintro ⟨text, hdisplay, hn⟩
    have hdash := dash_not_mem_of_number? hn
    refine ⟨⟨text, hdisplay, (verdict_eq_ok_iff_of_not_mem hdash).mpr ⟨n, hn, rfl⟩⟩, ?_⟩
    rintro ⟨text', hdisplay', hdash'⟩
    cases hdisplay.symm.trans hdisplay'
    exact hdash hdash'
  · rintro ⟨⟨text, hdisplay, hverdict⟩, hdash⟩
    have hdash : '-' ∉ stripped text := fun hmem => hdash ⟨text, hdisplay, hmem⟩
    obtain ⟨m, hm, hr⟩ := (verdict_eq_ok_iff_of_not_mem hdash).mp hverdict
    cases hr
    exact ⟨text, hdisplay, hm⟩

/-- A range without a dash is of one port. -/
theorem isSingle_of_not_hasDash (h : PortRange.parse token = .ok r) (hdash : ¬ HasDash token) :
    r = ⟨r.lower, r.lower⟩ := by
  obtain ⟨text, hdisplay, hverdict⟩ := parse_eq_ok_iff.mp h
  have hdash : '-' ∉ stripped text := fun hmem => hdash ⟨text, hdisplay, hmem⟩
  obtain ⟨n, -, rfl⟩ := (verdict_eq_ok_iff_of_not_mem hdash).mp hverdict
  rfl

/-- **Ranges are read back from both of their notations.** A range that a token is read for has
ports in order as its bounds. It is read again from its notation in options, and its destination
gives back the bounds, so that no other range has it, and has a colon if and only if the bounds
differ. A token that is a port is the range of that port, and a range without a dash is the port
that is its bound. -/
theorem notations_readBack (token : Value) :
    (∀ r, PortRange.parse token = .ok r →
      (0 ≤ r.lower ∧ r.lower ≤ r.upper ∧ r.upper ≤ 65535) ∧
      PortRange.parse (.text r.text) = .ok r ∧
      PortRange.ofDestination? r.destination = some r ∧
      (∀ s : PortRange, s.destination = r.destination → s = r) ∧
      (':' ∈ r.destination.toList ↔ r.isSingle = false) ∧
      (¬ HasDash token → Port.parse token = .ok r.lower ∧ r.upper = r.lower)) ∧
    ∀ n, Port.parse token = .ok n → PortRange.parse token = .ok ⟨n, n⟩ := by
  refine ⟨fun r h => ?_, fun n h => (parse_eq_iff_range.mp h).1⟩
  have hvalid := PortRange.valid_of_parse h
  have hbounds : 0 ≤ r.lower ∧ r.lower ≤ r.upper ∧ r.upper ≤ 65535 :=
    ⟨(isValid_iff.mp hvalid.lower).1, hvalid.ordered, (isValid_iff.mp hvalid.upper).2⟩
  refine ⟨hbounds, PortRange.parse_text hvalid, PortRange.ofDestination?_destination r,
    fun s hs => PortRange.destination_injective hs, PortRange.colon_mem_destination_iff r,
    fun hdash => ?_⟩
  have hsingle := isSingle_of_not_hasDash h hdash
  refine ⟨parse_eq_iff_range.mpr ⟨?_, hdash⟩, congrArg PortRange.upper hsingle⟩
  rw [h]
  exact congrArg Except.ok hsingle

/-- A range of ports between white space, and a port with leading zeros. -/
theorem notations_readBack_padded :
    PortRange.parse (.text "\t4190-04191 ") = .ok ⟨4190, 4191⟩ ∧
    PortRange.parse (.text (PortRange.text ⟨4190, 4191⟩)) = .ok ⟨4190, 4191⟩ ∧
    Port.parse (.text "0080") = .ok 80 ∧ PortRange.parse (.text "0080") = .ok ⟨80, 80⟩ := by
  have hrange : PortRange.parse (.text "\t4190-04191 ") = .ok ⟨4190, 4191⟩ := rfl
  have hport : Port.parse (.text "0080") = .ok 80 := rfl
  exact ⟨hrange, ((notations_readBack _).1 _ hrange).2.1, hport,
    (notations_readBack _).2 _ hport⟩

end Port

end PodRedirect
