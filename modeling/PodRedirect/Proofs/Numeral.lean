import PodRedirect.Numeral
import PodRedirect.Proofs.Decimal
import PodRedirect.Proofs.Text

/-!
# How integers are written

An integer is read of a text in a language of its own: white space around it, a sign, digits of any
script and single underscores between them.

## Main definitions

* `Numeral.Sign`: what may stand in front of a number
* `Numeral.Writes`: characters write an integer

## Main results

* `Numeral.read_eq_ok_iff`, `Numeral.readBytes_eq_ok_iff`: a text, or bytes, are read for an integer
  if and only if they write it
* `Numeral.writes_of_isDigit`, `Numeral.Writes.of_isDigit`: decimals among these texts
-/

namespace PodRedirect.Numeral

open Text

/-! ## The language -/

/-- The sign in front of a number, if there is one. -/
inductive Sign where
  | none
  | plus
  | minus

/-- The sign as it is written. -/
def Sign.chars : Sign → List Char
  | none => []
  | plus => ['+']
  | minus => ['-']

/-- The sign is a minus. -/
def Sign.negative : Sign → Bool
  | minus => true
  | none | plus => false

/-- The number with the sign. -/
def Sign.apply (sign : Sign) (n : Nat) : Int := if sign.negative then -n else n

/-- One or more decimal digits, of any script. -/
structure Group (g : List Char) : Prop where
  ne_nil : g ≠ []
  isDigit : ∀ c ∈ g, (digitValue? c).isSome

/-- The characters write the integer: digits of any script, which single underscores may divide into
groups, perhaps behind a sign, and white space around that, of which no character is an information
separator. -/
inductive Writes : List Char → Int → Prop where
  | intro {left right : List Char} {sign : Sign} {groups : List (List Char)}
    (hleft : ∀ c ∈ left, isMargin c = true) (hright : ∀ c ∈ right, isMargin c = true)
    (ne_nil : groups ≠ []) (digits : ∀ g ∈ groups, Group g)
    (short : groups.flatten.length ≤ digitLimit) :
    Writes (left ++ (sign.chars ++ ['_'].intercalate groups) ++ right)
      (sign.apply (ofDigits 10 (groups.flatten.filterMap digitValue?)))

/-! ## Digits -/

/-- The digits are ten consecutive characters for each script. -/
theorem exists_of_digitValue? {c : Char} {d : Nat} (h : digitValue? c = some d) :
    ∃ z ∈ zeros, d < 10 ∧ c = Char.ofNat (z + d) := by
  rw [digitValue?, Option.map_eq_some_iff] at h
  obtain ⟨z, hz, rfl⟩ := h
  have hbounds := List.find?_some hz
  rw [Bool.and_eq_true, decide_eq_true_eq, decide_eq_true_eq] at hbounds
  refine ⟨z, List.mem_of_find?_eq_some hz, by omega, ?_⟩
  rw [Nat.add_sub_cancel' hbounds.1, Char.ofNat_toNat]

/-- What holds of the ten digits of every script holds of every digit. -/
theorem of_digit {P : Char → Bool} (h : zeros.all fun z => (List.range 10).all fun d =>
    P (Char.ofNat (z + d))) {c : Char} (hc : (digitValue? c).isSome) : P c = true := by
  obtain ⟨d, hd⟩ := Option.isSome_iff_exists.mp hc
  obtain ⟨z, hz, hlt, rfl⟩ := exists_of_digitValue? hd
  exact List.all_eq_true.mp (List.all_eq_true.mp h z hz) d (List.mem_range.mpr hlt)

/-- A digit is no white space, no sign and no underscore. -/
theorem isBlank_of_digit {c : Char} (hc : (digitValue? c).isSome) : isBlank c = false := by
  have h := of_digit (P := fun c => !isBlank c) (by decide +kernel) hc
  simpa using h

theorem ne_of_digit {c : Char} (hc : (digitValue? c).isSome) : c ≠ '_' ∧ c ≠ '-' ∧ c ≠ '+' := by
  refine ⟨?_, ?_, ?_⟩ <;> rintro rfl <;> exact absurd hc (by decide)

/-- The digits 0 to 9 are among the digits. -/
theorem isSome_of_isDigit {c : Char} (h : c.isDigit = true) : (digitValue? c).isSome := by
  rw [digitValue?_of_isDigit h, asciiDigitValue?, if_pos h]
  rfl

/-- In base ten a digit has its decimal value. -/
theorem digitIn?_ten (c : Char) : digitIn? 10 c = digitValue? c := by
  rw [digitIn?]
  cases hc : digitValue? c with
  | some d =>
    obtain ⟨z, -, hlt, -⟩ := exists_of_digitValue? hc
    simp [hlt]
  | none =>
    have hascii : c.isDigit = false := by
      rw [← Bool.not_eq_true]
      intro h
      have hsome := isSome_of_isDigit h
      rw [hc] at hsome
      cases hsome
    rw [Option.none_or, hexDigitValue?, hascii]
    -- the letters stand for ten and more
    simp only [Bool.false_eq_true, if_false]
    split
    · simp
    · split <;> simp

/-! ## Reading -/

/-- Nothing announces base ten. -/
theorem dropBase_ten (cs : List Char) : dropBase 10 cs = cs := by
  unfold dropBase
  split
  · exact if_neg Bool.false_ne_true
  · rfl

theorem exists_takeSign (cs : List Char) : ∃ sign : Sign, ∃ body,
    cs = sign.chars ++ body ∧ takeSign cs = (sign.negative, body) := by
  unfold takeSign
  split
  next body => exact ⟨.minus, body, rfl, rfl⟩
  next body => exact ⟨.plus, body, rfl, rfl⟩
  next => exact ⟨.none, cs, rfl, rfl⟩

/-- In front of a digit, a sign is taken for what it is. -/
theorem takeSign_append {c : Char} (hc : (digitValue? c).isSome) (sign : Sign) (cs : List Char) :
    takeSign (sign.chars ++ c :: cs) = (sign.negative, c :: cs) := by
  cases sign with
  | plus => rfl
  | minus => rfl
  | none =>
    obtain ⟨-, hminus, hplus⟩ := ne_of_digit hc
    show takeSign (c :: cs) = _
    unfold takeSign
    split
    next h => exact absurd (List.cons.inj h).1 hminus
    next h => exact absurd (List.cons.inj h).1 hplus
    next => rfl

/-- The characters of a number without its sign. -/
def inNumber (c : Char) : Bool := c = '_' || (digitValue? c).isSome

/-- In base ten, a number is read of its groups of digits. -/
theorem read_ten (text : String) :
    read 10 text =
      let (negative, body) := takeSign (trim isMargin text.toList)
      let groups := (body.takeWhile inNumber).splitOn '_'
      if groups.any List.isEmpty then .error (.malformed 10 (quoted text))
      else if digitLimit < groups.flatten.length then .error (.tooLong groups.flatten.length)
      else if !(body.dropWhile inNumber).isEmpty then .error (.malformed 10 (quoted text))
      else
        let n := ofDigits 10 (groups.flatten.filterMap digitValue?)
        .ok (if negative then -(n : Int) else n) := by
  have hdigits : digitIn? 10 = digitValue? := funext digitIn?_ten
  rw [read]
  simp only [dropBase_ten, hdigits, decide_true, Bool.true_and, gt_iff_lt, decide_eq_true_eq]
  rfl

/-- The characters of a number are digits in groups. -/
theorem group_of_mem_splitOn {body g : List Char} (hbody : ∀ c ∈ body, inNumber c = true)
    (hgroups : ¬ (body.splitOn '_').any List.isEmpty = true) (hg : g ∈ body.splitOn '_') :
    Group g := by
  refine ⟨fun hnil => hgroups (List.any_eq_true.mpr ⟨g, hg, List.isEmpty_iff.mpr hnil⟩), ?_⟩
  intro c hc
  have hne : c ≠ '_' := fun h => not_mem_of_mem_splitOn hg (h ▸ hc)
  have hnumber := hbody c (mem_of_mem_splitOn hg hc)
  rw [inNumber, decide_eq_false hne, Bool.false_or] at hnumber
  exact hnumber

/-- What is read is written so. -/
theorem writes_of_read {text : String} {n : Int} (h : read 10 text = .ok n) :
    Writes text.toList n := by
  obtain ⟨left, right, htext, hleft, hright⟩ := exists_trim isMargin text.toList
  obtain ⟨sign, body, htrim, hsign⟩ := exists_takeSign (trim isMargin text.toList)
  rw [read_ten, hsign] at h
  dsimp only at h
  split at h
  · cases h
  next hgroups =>
    split at h
    · cases h
    next hshort =>
      split at h
      · cases h
      next hrest =>
        -- all characters behind the sign belong to the number
        have hdrop : body.dropWhile inNumber = [] := by simpa using hrest
        have htake : body.takeWhile inNumber = body := by
          have hall := List.takeWhile_append_dropWhile (p := inNumber) (l := body)
          rwa [hdrop, List.append_nil] at hall
        have hbody : ∀ c ∈ body, inNumber c = true := List.dropWhile_eq_nil_iff.mp hdrop
        rw [htake] at h hgroups hshort
        cases h
        have hwrites := @Writes.intro left right sign _ hleft hright (List.splitOn_ne_nil '_' body)
          (fun g hg => group_of_mem_splitOn hbody hgroups hg) (Nat.not_lt.mp hshort)
        rw [List.intercalate_splitOn '_', ← htrim, ← htext] at hwrites
        exact hwrites

section Groups

variable {groups : List (List Char)}

/-- Groups of digits with underscores between start with a digit. -/
theorem exists_intercalate_eq_cons (ne_nil : groups ≠ []) (digits : ∀ g ∈ groups, Group g) :
    ∃ c cs, ['_'].intercalate groups = c :: cs ∧ (digitValue? c).isSome := by
  obtain ⟨g, gs, rfl⟩ := List.exists_cons_of_ne_nil ne_nil
  have hg := digits g List.mem_cons_self
  obtain ⟨c, cs, rfl⟩ := List.exists_cons_of_ne_nil hg.ne_nil
  have hc := hg.isDigit c List.mem_cons_self
  cases gs with
  | nil => exact ⟨c, cs, List.intercalate_singleton, hc⟩
  | cons next rest => exact ⟨c, _, by rw [List.intercalate_cons_cons, List.append_assoc]; rfl, hc⟩

theorem inNumber_of_mem_intercalate (digits : ∀ g ∈ groups, Group g) {c : Char}
    (hc : c ∈ ['_'].intercalate groups) : inNumber c = true := by
  rw [inNumber, Bool.or_eq_true, decide_eq_true_eq]
  exact (eq_or_mem_of_mem_intercalate hc).imp_right fun ⟨g, hg, hc⟩ => (digits g hg).isDigit c hc

/-- No character of a number and of its sign is white space. -/
theorem isBlank_of_mem_chars (digits : ∀ g ∈ groups, Group g) {sign : Sign} {c : Char}
    (hc : c ∈ sign.chars ++ ['_'].intercalate groups) : isBlank c = false := by
  rcases List.mem_append.mp hc with hc | hc
  · cases sign with
    | none => cases hc
    | plus | minus =>
      rw [List.mem_singleton.mp hc]
      decide
  · rcases eq_or_mem_of_mem_intercalate hc with rfl | ⟨g, hg, hc⟩
    · decide
    · exact isBlank_of_digit ((digits g hg).isDigit c hc)

/-- Groups of digits are found again between the underscores. -/
theorem splitOn_groups (ne_nil : groups ≠ []) (digits : ∀ g ∈ groups, Group g) :
    (['_'].intercalate groups).splitOn '_' = groups := by
  refine List.splitOn_intercalate '_' (fun g hg hmem => ?_) ne_nil
  exact (ne_of_digit ((digits g hg).isDigit _ hmem)).1 rfl

/-- Without an underscore there is one group. -/
theorem eq_singleton_of_not_mem (ne_nil : groups ≠ []) (digits : ∀ g ∈ groups, Group g)
    (h : '_' ∉ ['_'].intercalate groups) : groups = [['_'].intercalate groups] := by
  have hsplit := splitOn_groups ne_nil digits
  rw [List.splitOn_eq_singleton h] at hsplit
  exact hsplit.symm

end Groups

/-- The character is one of the information separators. -/
def IsSeparator (c : Char) : Prop := 0x1c ≤ c.toNat ∧ c.toNat ≤ 0x1f

theorem isMargin_iff {c : Char} : isMargin c = true ↔ isBlank c = true ∧ ¬ IsSeparator c := by
  rw [isMargin, Bool.and_eq_true, Bool.not_eq_true', Bool.and_eq_false_iff, decide_eq_false_iff_not,
    decide_eq_false_iff_not, IsSeparator, Decidable.not_and_iff_not_or_not]

theorem isBlank_of_isSeparator {c : Char} (h : IsSeparator c) : isBlank c = true := by
  have hle : c.toNat ≤ 0x20 := Nat.le_succ_of_le h.2
  simp [isBlank, h.1, hle]

theorem isMargin_of_not_isBlank {c : Char} (h : isBlank c = false) : isMargin c = false := by
  rw [isMargin, h, Bool.false_and]

/-- What is written is read so. -/
theorem read_of_writes {text : String} {n : Int} (h : Writes text.toList n) :
    read 10 text = .ok n := by
  generalize hcs : text.toList = cs at h
  obtain @⟨left, right, sign, groups, hleft, hright, ne_nil, digits, short⟩ := h
  have htrim : trim isMargin text.toList = sign.chars ++ ['_'].intercalate groups := by
    rw [hcs]
    exact trim_surrounded hleft
      (fun c hc => isMargin_of_not_isBlank (isBlank_of_mem_chars digits hc)) hright
  have hnumber : ∀ c ∈ ['_'].intercalate groups, inNumber c = true := fun c hc =>
    inNumber_of_mem_intercalate digits hc
  have hgroups : ¬ groups.any List.isEmpty = true := fun hany => by
    obtain ⟨g, hg, hempty⟩ := List.any_eq_true.mp hany
    exact (digits g hg).ne_nil (List.isEmpty_iff.mp hempty)
  have hsign : takeSign (trim isMargin text.toList) =
      (sign.negative, ['_'].intercalate groups) := by
    obtain ⟨c, cs, hcons, hc⟩ := exists_intercalate_eq_cons ne_nil digits
    rw [htrim, hcons, takeSign_append hc]
  rw [read_ten, hsign]
  dsimp only
  rw [List.takeWhile_eq_self_iff.mpr hnumber, List.dropWhile_eq_nil_iff.mpr hnumber,
    splitOn_groups ne_nil digits, if_neg hgroups, if_neg (Nat.not_lt.mpr short), if_neg (by simp)]
  rfl

/-- **A text is read for an integer if and only if it writes it.** -/
theorem read_eq_ok_iff {text : String} {n : Int} : read 10 text = .ok n ↔ Writes text.toList n :=
  ⟨writes_of_read, read_of_writes⟩

/-- **Bytes are read for an integer if and only if they are those of an ASCII text that writes
it.** -/
theorem readBytes_eq_ok_iff {bs : List UInt8} {n : Int} :
    readBytes bs = .ok n ↔ (∀ b ∈ bs, b < 128) ∧ Writes (ofBytes bs).toList n := by
  have hascii : bs.all (· < 128) = true ↔ ∀ b ∈ bs, b < 128 := by
    simp only [List.all_eq_true, decide_eq_true_eq]
  rw [readBytes, ← hascii, ← read_eq_ok_iff]
  split
  next h =>
    -- a fault is shown in the form of the bytes, and a number stays what it is
    rw [and_iff_right h]
    cases read 10 (ofBytes bs) <;> simp [Except.mapError]
  next h => exact ⟨nofun, fun h' => absurd h'.1 h⟩

/-! ## Plain decimals -/

/-- Digits 0 to 9 write the same number in both readings. -/
theorem ofDigits_of_isDigit {ds : List Char} (h : ∀ c ∈ ds, c.isDigit = true) :
    ofDigits 10 (ds.filterMap digitValue?) = Nat.ofDigitChars 10 ds 0 := by
  have hvalues : ds.filterMap digitValue? = ds.filterMap asciiDigitValue? :=
    List.filterMap_congr fun c hc => digitValue?_of_isDigit (h c hc)
  rw [hvalues, ← decimal_eq_ofDigitChars h, decimal]

/-- No character of a text that writes an integer is an information separator. -/
theorem Writes.not_isSeparator {cs : List Char} {n : Int} (h : Writes cs n) {c : Char}
    (hc : c ∈ cs) : ¬ IsSeparator c := by
  obtain ⟨hleft, hright, ne_nil, digits, short⟩ := h
  rw [List.mem_append, List.mem_append] at hc
  rcases hc with (hc | hc) | hc
  · exact (isMargin_iff.mp (hleft c hc)).2
  · intro hseparator
    have hblank := isBlank_of_mem_chars digits hc
    rw [isBlank_of_isSeparator hseparator] at hblank
    cases hblank
  · exact (isMargin_iff.mp (hright c hc)).2

/-- The decimal of a number with no information separator around it writes it. -/
theorem writes_of_isDigit {cs : List Char} (ne_nil : trim isBlank cs ≠ [])
    (digits : ∀ c ∈ trim isBlank cs, c.isDigit = true)
    (short : (trim isBlank cs).length ≤ digitLimit) (clear : ∀ c ∈ cs, ¬ IsSeparator c) :
    Writes cs (Nat.ofDigitChars 10 (trim isBlank cs) 0) := by
  obtain ⟨left, right, hcs, hleft, hright⟩ := exists_trim isBlank cs
  have hmargin : ∀ ds : List Char, (∀ c ∈ ds, isBlank c = true) → ds ⊆ cs →
      ∀ c ∈ ds, isMargin c = true := fun ds hds hsub c hc =>
    isMargin_iff.mpr ⟨hds c hc, clear c (hsub hc)⟩
  have hgroup : Group (trim isBlank cs) := ⟨ne_nil, fun c hc => isSome_of_isDigit (digits c hc)⟩
  have hwrites := @Writes.intro left right .none [trim isBlank cs]
    (hmargin left hleft fun c hc => by rw [hcs]; simp [hc])
    (hmargin right hright fun c hc => by rw [hcs]; simp [hc])
    (List.cons_ne_nil _ _) (List.forall_mem_singleton.mpr hgroup) (by simpa using short)
  have htext : left ++ (Sign.none.chars ++ trim isBlank cs) ++ right = cs := hcs.symm
  rw [List.intercalate_singleton, List.flatten_singleton, ofDigits_of_isDigit digits,
    htext] at hwrites
  exact hwrites

/-- A text that writes an integer in digits 0 to 9 only is its decimal. -/
theorem Writes.of_isDigit {cs : List Char} {n : Int} (h : Writes cs n)
    (digits : ∀ c ∈ trim isBlank cs, c.isDigit = true) :
    trim isBlank cs ≠ [] ∧ (trim isBlank cs).length ≤ digitLimit ∧
      n = Nat.ofDigitChars 10 (trim isBlank cs) 0 := by
  obtain @⟨left, right, sign, groups, hleft, hright, ne_nil, groups_digits, short⟩ := h
  have htrim : trim isBlank (left ++ (sign.chars ++ ['_'].intercalate groups) ++ right) =
      sign.chars ++ ['_'].intercalate groups :=
    trim_surrounded (fun c hc => (isMargin_iff.mp (hleft c hc)).1)
      (fun c hc => isBlank_of_mem_chars groups_digits hc)
      (fun c hc => (isMargin_iff.mp (hright c hc)).1)
  rw [htrim] at digits ⊢
  cases sign with
  | plus => exact absurd (digits '+' List.mem_cons_self) (by decide)
  | minus => exact absurd (digits '-' List.mem_cons_self) (by decide)
  | none =>
    change ∀ c ∈ ['_'].intercalate groups, c.isDigit = true at digits
    change ['_'].intercalate groups ≠ [] ∧ (['_'].intercalate groups).length ≤ digitLimit ∧ _
    have hgroups : groups = [['_'].intercalate groups] :=
      eq_singleton_of_not_mem ne_nil groups_digits fun hmem => absurd (digits '_' hmem) (by decide)
    have hflatten : groups.flatten = ['_'].intercalate groups := by
      conv_lhs => rw [hgroups, List.flatten_singleton]
    rw [hflatten] at short ⊢
    obtain ⟨c, cs, hcons, -⟩ := exists_intercalate_eq_cons ne_nil groups_digits
    refine ⟨by rw [hcons]; exact List.cons_ne_nil c cs, short, ?_⟩
    rw [ofDigits_of_isDigit digits]
    rfl

end PodRedirect.Numeral
