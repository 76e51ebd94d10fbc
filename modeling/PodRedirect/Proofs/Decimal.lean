import PodRedirect.Text.Basic
import PodRedirect.Text.Digit

/-!
# Decimals

The decimal of an integer is read back to the integer, and pieces of text that a separator joins are
found again if they do not hold the separator.

## Main definitions

* `Text.integer?`: the integer that a decimal writes

## Main results

* `Text.decimal_toDigits`: digits are read back to their number
* `Text.integer?_toString`: decimals are read back to their integer
* `Text.fields_intercalate`: pieces of text are found again
* `Text.fields_append`: pieces of two texts with a separator between them
-/

namespace PodRedirect.Text

/-! ## Digits -/

/-- Digits write the number that they stand for by position. -/
theorem decimal_eq_ofDigitChars {cs : List Char} (h : ∀ c ∈ cs, c.isDigit = true) :
    decimal cs = Nat.ofDigitChars 10 cs 0 := by
  rw [decimal, ofDigits]
  -- the number that the digits so far stand for changes from one digit to the next
  generalize 0 = n
  induction cs generalizing n with
  | nil => rfl
  | cons c cs ih =>
    have hc : asciiDigitValue? c = some (c.toNat - '0'.toNat) := by
      rw [asciiDigitValue?, if_pos (h c List.mem_cons_self)]
    rw [List.filterMap_cons_some hc, List.foldl_cons, Nat.ofDigitChars_cons]
    exact ih (fun x hx => h x (List.mem_cons_of_mem _ hx)) _

/-- The digits of a number are digits. -/
theorem isDigit_of_mem_toDigits {n : Nat} {c : Char} (h : c ∈ Nat.toDigits 10 n) :
    c.isDigit = true :=
  Nat.isDigit_of_mem_toDigits (by omega) (by omega) h

/-- **Digits are read back to their number.** -/
theorem decimal_toDigits (n : Nat) : decimal (Nat.toDigits 10 n) = n := by
  rw [decimal_eq_ofDigitChars fun c hc => isDigit_of_mem_toDigits hc,
    Nat.ofDigitChars_ten_toDigits]

/-! ## Integers -/

/-- The characters of the decimal of an integer. -/
theorem toList_toString_ofNat (n : Nat) : (toString (n : Int)).toList = Nat.toDigits 10 n :=
  Nat.toList_repr

theorem toList_toString_negSucc (n : Nat) :
    (toString (Int.negSucc n)).toList = '-' :: Nat.toDigits 10 (n + 1) := by
  change ("-" ++ (n + 1).repr).toList = _
  rw [String.toList_append, Nat.toList_repr]
  rfl

/-- The decimal of an integer is made of digits, perhaps after a sign. -/
theorem isDigit_of_mem_toString {n : Int} {c : Char} (h : c ∈ (toString n).toList) :
    c.isDigit = true ∨ c = '-' := by
  cases n with
  | ofNat n =>
    rw [Int.ofNat_eq_natCast, toList_toString_ofNat] at h
    exact Or.inl (isDigit_of_mem_toDigits h)
  | negSucc n =>
    rw [toList_toString_negSucc, List.mem_cons] at h
    rcases h with rfl | h
    · exact Or.inr rfl
    · exact Or.inl (isDigit_of_mem_toDigits h)

/-- The number that one or more digits write. -/
def natural? (cs : List Char) : Option Nat :=
  if cs.isEmpty || !cs.all Char.isDigit then none else some (decimal cs)

/-- The integer that digits write, perhaps after a sign. -/
def integer? (text : String) : Option Int :=
  match text.toList with
  | '-' :: cs => (natural? cs).map fun n => -(n : Int)
  | cs => (natural? cs).map fun n => (n : Int)

theorem natural?_toDigits (n : Nat) : natural? (Nat.toDigits 10 n) = some n := by
  have hne : (Nat.toDigits 10 n).isEmpty = false := by
    rw [List.isEmpty_eq_false_iff]
    exact Nat.toDigits_ne_nil
  have hall : (Nat.toDigits 10 n).all Char.isDigit = true :=
    List.all_eq_true.mpr fun c hc => isDigit_of_mem_toDigits hc
  rw [natural?, hne, hall, decimal_toDigits]
  rfl

/-- **Decimals are read back to their integer.** -/
theorem integer?_toString (n : Int) : integer? (toString n) = some n := by
  cases n with
  | ofNat n =>
    -- what starts with a digit is not taken for a negative number
    have hsign : ∀ cs, Nat.toDigits 10 n ≠ '-' :: cs := by
      intro cs hcs
      have hdigit : '-'.isDigit = true := isDigit_of_mem_toDigits (n := n) (by simp [hcs])
      cases hdigit
    rw [Int.ofNat_eq_natCast, integer?, toList_toString_ofNat]
    split
    · rename_i cs hcs
      exact absurd hcs (hsign cs)
    · rw [natural?_toDigits]
      rfl
  | negSucc n =>
    rw [integer?, toList_toString_negSucc]
    simp only [natural?_toDigits]
    rfl

@[simp] theorem integer?_repr (n : Int) : integer? n.repr = some n := integer?_toString n

/-! ## Pieces of text -/

/-- **Pieces without the separator are found again** in the text that joins them. -/
theorem fields_intercalate {sep : Char} {ss : List String} (h : ∀ s ∈ ss, sep ∉ s.toList)
    (hne : ss ≠ []) : fields sep ((String.singleton sep).intercalate ss) = ss := by
  have hsplit : ((String.singleton sep).intercalate ss).toList.splitOn sep =
      ss.map String.toList := by
    rw [String.toList_intercalate, String.toList_singleton]
    refine List.splitOn_intercalate sep ?_ (by simpa using hne)
    intro cs hcs
    obtain ⟨s, hs, rfl⟩ := List.mem_map.mp hcs
    exact h s hs
  rw [fields, hsplit, List.map_map]
  simp [Function.comp_def]

/-- A text without the separator is one piece. -/
theorem fields_of_not_mem {sep : Char} {s : String} (h : sep ∉ s.toList) : fields sep s = [s] := by
  have hpieces : ∀ t ∈ [s], sep ∉ t.toList := fun t ht => List.mem_singleton.mp ht ▸ h
  have hfields := fields_intercalate hpieces (List.cons_ne_nil s [])
  rwa [String.intercalate_singleton] at hfields

/-- **The pieces of two texts with a separator between them are those of both.** -/
theorem fields_append (sep : Char) (s t : String) :
    fields sep (s ++ String.singleton sep ++ t) = fields sep s ++ fields sep t := by
  have hchars : (s ++ String.singleton sep ++ t).toList = s.toList ++ sep :: t.toList := by simp
  rw [fields, hchars, List.splitOn_append_cons_self, List.map_append]
  rfl

/-- Two texts without the separator are two pieces. -/
theorem fields_append_append {sep : Char} {s t : String} (hs : sep ∉ s.toList)
    (ht : sep ∉ t.toList) : fields sep (s ++ String.singleton sep ++ t) = [s, t] := by
  rw [fields_append, fields_of_not_mem hs, fields_of_not_mem ht]
  rfl

end PodRedirect.Text
