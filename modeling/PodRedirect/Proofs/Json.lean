import Mathlib.Algebra.GroupWithZero.Nat
import Mathlib.Data.List.Basic
import PodRedirect.Json.Text
import PodRedirect.Proofs.Text
import PodRedirect.Text.Digit

/-!
# Reading JSON texts

A reader of objects whose members are texts, character by character, after the grammar of the
format: white space between the parts, the short escapes, and UTF-16 units by their number. An
object that is written in printable ASCII is read back from its line.

## Main definitions

* `Json.Token`, `Json.Reader`: the parts of a text, and a reader in the middle of one
* `Json.Reader.read`: one more character
* `Json.decode`: the members of an object

## Main results

* `Json.run_escape`: a character is read back from its escape
* `Json.decode_object`: an object is read back from its text
* `Json.isPlain_of_mem_object`: its text is printable ASCII
-/

namespace PodRedirect.Json

open Text

/-! ## The reader -/

/-- A part of a JSON text: a bracket of an object, a separator, or a text that stands between
quotes. -/
inductive Token where
  | opening
  | closing
  | colon
  | comma
  | text (s : String)
  deriving DecidableEq, Repr

/-- Where a reader is: between parts or, with the UTF-16 units of the text so far, inside a text,
after a backslash, or in the number of a unit, of which some of the four digits were read. -/
inductive Mode where
  | between
  | inside (us : List Nat)
  | escaped (us : List Nat)
  | numbered (us digits : List Nat)
  deriving DecidableEq, Repr

/-- A reader: the parts so far, and where it is. -/
structure Reader where
  tokens : List Token
  mode : Mode
  deriving DecidableEq, Repr

/-- White space between parts. -/
def isSpace (c : Char) : Bool :=
  c = ' ' || c = '\t' || c = '\n' || c = '\r'

/-- The parts of one character. -/
def punctuation? (c : Char) : Option Token :=
  if c = '\x7b' then some .opening
  else if c = '\x7d' then some .closing
  else if c = ':' then some .colon
  else if c = ',' then some .comma
  else none

/-- The character that a letter after a backslash stands for. -/
def short? (c : Char) : Option Char :=
  if c = doubleQuote || c = '\\' || c = '/' then some c
  else if c = 'b' then some '\x08'
  else if c = 'f' then some '\x0c'
  else if c = 'n' then some '\n'
  else if c = 'r' then some '\r'
  else if c = 't' then some '\t'
  else none

/-- The units that are the first of a pair. -/
def isHigh (u : Nat) : Bool := 0xd800 ≤ u && u < 0xdc00

/-- The units that are the second of a pair. -/
def isLow (u : Nat) : Bool := 0xdc00 ≤ u && u < 0xe000

/-- The characters that UTF-16 units write. A unit that lacks its partner is refused. -/
def ofUnits? : List Nat → Option (List Char)
  | [] => some []
  | u :: us =>
    if isHigh u then
      match us with
      | [] => none
      | v :: us =>
        if isLow v then
          (ofUnits? us).map (Char.ofNat (0x10000 + (u - 0xd800) * 0x400 + (v - 0xdc00)) :: ·)
        else none
    else if isLow u then none
    else (ofUnits? us).map (Char.ofNat u :: ·)

/-- One more character. Control characters are refused inside of texts. -/
def Reader.read (r : Reader) (c : Char) : Option Reader :=
  match r.mode with
  | .between =>
    if isSpace c then some r
    else if c = doubleQuote then some { r with mode := .inside [] }
    else (punctuation? c).map fun t => { r with tokens := r.tokens ++ [t] }
  | .inside us =>
    if c = doubleQuote then
      (ofUnits? us).map fun cs => ⟨r.tokens ++ [.text (String.ofList cs)], .between⟩
    else if c = '\\' then some { r with mode := .escaped us }
    else if c.toNat < 0x20 then none
    else some { r with mode := .inside (us ++ units c) }
  | .escaped us =>
    if c = 'u' then some { r with mode := .numbered us [] }
    else (short? c).map fun d => { r with mode := .inside (us ++ units d) }
  | .numbered us digits =>
    (hexDigitValue? c).map fun d =>
      let digits := digits ++ [d]
      { r with mode := if digits.length < 4 then .numbered us digits
        else .inside (us ++ [ofDigits 16 digits]) }

/-- The reader after some characters. -/
def run (r : Reader) (cs : List Char) : Option Reader :=
  cs.foldlM Reader.read r

/-- The members from the first one to the end of the object. -/
def members? : List Token → Option (List (String × String))
  | [.text k, .colon, .text v, .closing] => some [(k, v)]
  | .text k :: .colon :: .text v :: .comma :: ts => (members? ts).map ((k, v) :: ·)
  | _ => none

/-- The members of an object. -/
def object? : List Token → Option (List (String × String))
  | .opening :: ts => if ts = [.closing] then some [] else members? ts
  | _ => none

/-- The members of the object that a text is, in their order. -/
def decode (s : String) : Option (List (String × String)) :=
  (run ⟨[], .between⟩ s.toList).bind fun r => if r.mode = .between then object? r.tokens else none

/-! ## Units -/

section Units

variable {c : Char} {n : Nat}

theorem units_of_lt (h : c.toNat < 0x10000) : units c = [c.toNat] :=
  if_pos h

theorem units_of_le (h : 0x10000 ≤ c.toNat) : units c =
    [0xd800 + (c.toNat - 0x10000) / 0x400, 0xdc00 + (c.toNat - 0x10000) % 0x400] :=
  if_neg (Nat.not_lt.mpr h)

/-- The numbers of characters leave out the units of pairs and end where pairs do. -/
theorem toNat_bounds (c : Char) : (c.toNat < 0xd800 ∨ 0xe000 ≤ c.toNat) ∧ c.toNat < 0x110000 := by
  have hvalid : c.toNat < 0xd800 ∨ 0xdfff < c.toNat ∧ c.toNat < 0x110000 := c.valid
  omega

theorem lt_of_mem_units (h : n ∈ units c) : n < 0x10000 := by
  have hbounds := (toNat_bounds c).2
  rcases Nat.lt_or_ge c.toNat 0x10000 with hc | hc
  · rw [units_of_lt hc, List.mem_singleton] at h
    omega
  · rw [units_of_le hc, List.mem_pair] at h
    omega

theorem isHigh_iff {u : Nat} : isHigh u = true ↔ 0xd800 ≤ u ∧ u < 0xdc00 := by
  rw [isHigh, Bool.and_eq_true, decide_eq_true_iff, decide_eq_true_iff]

theorem isLow_iff {u : Nat} : isLow u = true ↔ 0xdc00 ≤ u ∧ u < 0xe000 := by
  rw [isLow, Bool.and_eq_true, decide_eq_true_iff, decide_eq_true_iff]

theorem ofUnits?_cons {u : Nat} (h : u < 0xd800 ∨ 0xe000 ≤ u) (us : List Nat) :
    ofUnits? (u :: us) = (ofUnits? us).map (Char.ofNat u :: ·) := by
  have hhigh : ¬ isHigh u = true := by
    rw [isHigh_iff]
    omega
  have hlow : ¬ isLow u = true := by
    rw [isLow_iff]
    omega
  cases us <;> simp only [ofUnits?, if_neg hhigh, if_neg hlow]

theorem ofUnits?_pair {u v : Nat} (hhigh : isHigh u = true) (hlow : isLow v = true)
    (us : List Nat) : ofUnits? (u :: v :: us) =
      (ofUnits? us).map (Char.ofNat (0x10000 + (u - 0xd800) * 0x400 + (v - 0xdc00)) :: ·) := by
  rw [ofUnits?, if_pos hhigh]
  exact if_pos hlow

/-- **A character is read back from its units.** -/
theorem ofUnits?_units_append (c : Char) (us : List Nat) :
    ofUnits? (units c ++ us) = (ofUnits? us).map (c :: ·) := by
  obtain ⟨hpair, hbound⟩ := toNat_bounds c
  rcases Nat.lt_or_ge c.toNat 0x10000 with hc | hc
  · rw [units_of_lt hc, List.singleton_append, ofUnits?_cons hpair, Char.ofNat_toNat]
  · generalize hk : c.toNat - 0x10000 = k
    have hhigh : isHigh (0xd800 + k / 0x400) = true := isHigh_iff.mpr (by omega)
    have hlow : isLow (0xdc00 + k % 0x400) = true := isLow_iff.mpr (by omega)
    -- the two units hold the upper and the lower ten bits
    have hsum : 0x10000 + (0xd800 + k / 0x400 - 0xd800) * 0x400 + (0xdc00 + k % 0x400 - 0xdc00) =
        c.toNat := by omega
    rw [units_of_le hc, hk, List.cons_append, List.singleton_append, ofUnits?_pair hhigh hlow, hsum,
      Char.ofNat_toNat]

/-- Characters are read back from their units. -/
theorem ofUnits?_units (cs : List Char) : ofUnits? (cs.flatMap units) = some cs := by
  induction cs with
  | nil => rfl
  | cons c cs ih => rw [List.flatMap_cons, ofUnits?_units_append, ih, Option.map_some]

end Units

/-! ## Numbers -/

section Numbers

variable {n : Nat}

/-- The last digit of a number stands behind those of its quotient. -/
theorem hexDigits_succ {width : Nat} (hwidth : 0 < width) (n : Nat) :
    hexDigits (width + 1) n = hexDigits width (n / 16) ++ [Nat.digitChar (n % 16)] := by
  by_cases hn : n < 16
  · rw [hexDigits, hexDigits, Nat.toDigits_of_lt_base hn, Nat.div_eq_of_lt hn, Nat.mod_eq_of_lt hn]
    obtain ⟨width, rfl⟩ := Nat.exists_eq_succ_of_ne_zero (Nat.ne_of_gt hwidth)
    simp [List.leftpad, Nat.toDigits_of_lt_base, List.replicate_succ']
  · rw [hexDigits, hexDigits, Nat.toDigits_of_base_le (by omega) (by omega)]
    simp [List.leftpad]

theorem hexDigitValue?_digitChar {d : Nat} (h : d < 16) :
    hexDigitValue? (Nat.digitChar d) = some d := by
  revert d
  decide

/-- **Digits are read back to their number**, if there are enough of them. -/
theorem exists_hexDigits {width : Nat} (hwidth : 0 < width) (hn : n < 16 ^ width) :
    ∃ digits, (hexDigits width n).map hexDigitValue? = digits.map some ∧ digits.length = width ∧
      ofDigits 16 digits = n := by
  induction width, hwidth using Nat.le_induction generalizing n with
  | base =>
    have hn : n < 16 := hn
    refine ⟨[n], ?_, rfl, by simp [ofDigits]⟩
    simp [hexDigits, Nat.toDigits_of_lt_base hn, List.leftpad, hexDigitValue?_digitChar hn]
  | succ width hwidth ih =>
    have hquotient : n / 16 < 16 ^ width := by omega
    obtain ⟨digits, hdigits, hlength, hvalue⟩ := ih hquotient
    refine ⟨digits ++ [n % 16], ?_, by rw [List.length_append, hlength]; rfl, ?_⟩
    · rw [hexDigits_succ hwidth, List.map_append, hdigits, List.map_append]
      simp [hexDigitValue?_digitChar (Nat.mod_lt n (by decide : 0 < 16))]
    · rw [ofDigits, List.foldl_append, ← ofDigits, hvalue]
      exact Nat.div_add_mod n 16

end Numbers

/-! ## Steps of the reader -/

section Steps

variable {ts : List Token} {us : List Nat} {cs : List Char} {c : Char} {n : Nat}

theorem run_append (r : Reader) (cs ds : List Char) :
    run r (cs ++ ds) = (run r cs).bind fun r => run r ds :=
  List.foldlM_append

theorem run_cons (r : Reader) (c : Char) (cs : List Char) :
    run r (c :: cs) = (r.read c).bind fun r => run r cs :=
  List.foldlM_cons

@[simp] theorem run_nil (r : Reader) : run r [] = some r := rfl

/-- A quote starts a text. -/
theorem read_quote : Reader.read ⟨ts, .between⟩ doubleQuote = some ⟨ts, .inside []⟩ := rfl

/-- A character of a text that needs no escape. -/
theorem read_plain (hquote : c ≠ doubleQuote) (hbackslash : c ≠ '\\') (hc : 0x20 ≤ c.toNat) :
    Reader.read ⟨ts, .inside us⟩ c = some ⟨ts, .inside (us ++ units c)⟩ := by
  simp only [Reader.read, if_neg hquote, if_neg hbackslash, if_neg (Nat.not_lt.mpr hc)]

/-- A letter after a backslash. -/
theorem run_short {d : Char} (hd : d ≠ 'u') (hc : short? d = some c) :
    run ⟨ts, .inside us⟩ ['\\', d] = some ⟨ts, .inside (us ++ units c)⟩ := by
  have hbackslash : Reader.read ⟨ts, .inside us⟩ '\\' = some ⟨ts, .escaped us⟩ := rfl
  have hletter : Reader.read ⟨ts, .escaped us⟩ d = some ⟨ts, .inside (us ++ units c)⟩ := by
    simp only [Reader.read, if_neg hd, hc, Option.map_some]
  rw [run_cons, hbackslash, Option.bind_some, run_cons, hletter, Option.bind_some, run_nil]

/-- The reader takes the digits that are missing of a unit. -/
theorem run_numbered {digits more : List Nat} (hcs : cs.map hexDigitValue? = more.map some)
    (hmore : more ≠ []) (hlength : digits.length + more.length = 4) :
    run ⟨ts, .numbered us digits⟩ cs =
      some ⟨ts, .inside (us ++ [ofDigits 16 (digits ++ more)])⟩ := by
  induction more generalizing cs digits with
  | nil => exact absurd rfl hmore
  | cons d more ih =>
    obtain ⟨c, cs, rfl, hc, hcs⟩ := List.map_eq_cons_iff.mp hcs
    rw [run_cons, Reader.read, hc]
    cases more with
    | nil =>
      -- the last digit completes the unit
      obtain rfl := List.map_eq_nil_iff.mp hcs
      have hfull : ¬ (digits ++ [d]).length < 4 := by simp at hlength ⊢; omega
      simp only [Option.map_some, if_neg hfull, Option.bind_some, run_nil]
    | cons e more =>
      have hpart : (digits ++ [d]).length < 4 := by simp at hlength ⊢; omega
      simp only [Option.map_some, if_pos hpart, Option.bind_some]
      rw [ih hcs (List.cons_ne_nil _ _) (by simp at hlength ⊢; omega), List.append_assoc]
      rfl

/-- **A unit is read back from its number.** -/
theorem run_unitEscape (hn : n < 0x10000) :
    run ⟨ts, .inside us⟩ (unitEscape n) = some ⟨ts, .inside (us ++ [n])⟩ := by
  obtain ⟨digits, hdigits, hlength, hvalue⟩ := exists_hexDigits (by decide : 0 < 4) hn
  have hne : digits ≠ [] := List.ne_nil_of_length_pos (by omega)
  have hnumbered : run ⟨ts, .numbered us []⟩ (hexDigits 4 n) =
      some ⟨ts, .inside (us ++ [ofDigits 16 digits])⟩ := run_numbered hdigits hne (by simpa)
  rwa [hvalue] at hnumbered

theorem run_flatMap_unitEscape {ns : List Nat} (hns : ∀ n ∈ ns, n < 0x10000) :
    run ⟨ts, .inside us⟩ (ns.flatMap unitEscape) = some ⟨ts, .inside (us ++ ns)⟩ := by
  induction ns generalizing us with
  | nil => rw [List.append_nil, List.flatMap_nil, run_nil]
  | cons n ns ih =>
    rw [List.flatMap_cons, run_append, run_unitEscape (hns n List.mem_cons_self), Option.bind_some,
      ih fun m hm => hns m (List.mem_cons_of_mem n hm), List.append_assoc, List.singleton_append]

/-- **A character is read back from its escape**, whichever form it takes. -/
theorem run_escape (c : Char) :
    run ⟨ts, .inside us⟩ (escape c) = some ⟨ts, .inside (us ++ units c)⟩ := by
  have hunits : ∀ d : Char, c.toNat = d.toNat → units c = units d := fun d h => by
    rw [Char.toNat_inj.mp h]
  unfold escape
  split_ifs with hquoted hfeed hreturn htab hback hform hplain
  · have hshort : short? c = some c := if_pos (by simpa [or_assoc] using Or.inl hquoted)
    refine run_short ?_ hshort
    rintro rfl
    exact absurd hquoted (by decide)
  · exact hfeed ▸ run_short (by decide) rfl
  · exact hreturn ▸ run_short (by decide) rfl
  · exact htab ▸ run_short (by decide) rfl
  · exact hunits '\x08' hback ▸ run_short (by decide) rfl
  · exact hunits '\x0c' hform ▸ run_short (by decide) rfl
  · simp only [Bool.or_eq_true, decide_eq_true_eq, not_or] at hquoted
    simp only [Bool.and_eq_true, decide_eq_true_eq] at hplain
    rw [run_cons, read_plain hquoted.1 hquoted.2 hplain.1, Option.bind_some, run_nil]
  · exact run_flatMap_unitEscape fun n => lt_of_mem_units

theorem run_flatMap_escape (cs : List Char) :
    run ⟨ts, .inside us⟩ (cs.flatMap escape) = some ⟨ts, .inside (us ++ cs.flatMap units)⟩ := by
  induction cs generalizing us with
  | nil => rw [List.flatMap_nil, List.flatMap_nil, List.append_nil, run_nil]
  | cons c cs ih =>
    rw [List.flatMap_cons, run_append, run_escape, Option.bind_some, ih, List.append_assoc,
      List.flatMap_cons]

/-- **A text is read back from between its quotes.** -/
theorem run_text (s : String) :
    run ⟨ts, .between⟩ (text s).toList = some ⟨ts ++ [.text s], .between⟩ := by
  have hend : Reader.read ⟨ts, .inside (s.toList.flatMap units)⟩ doubleQuote =
      some ⟨ts ++ [.text s], .between⟩ := by
    simp only [Reader.read, ↓reduceIte, ofUnits?_units, Option.map_some, String.ofList_toList]
  rw [text, String.toList_ofList, List.cons_append, run_cons, read_quote, Option.bind_some,
    run_append, run_flatMap_escape, Option.bind_some, List.nil_append, run_cons, hend,
    Option.bind_some, run_nil]

end Steps

/-! ## Objects -/

section Objects

variable {ts : List Token}

/-- The parts of a member. -/
def memberTokens (m : String × String) : List Token := [.text m.1, .colon, .text m.2]

/-- A member as it is written. -/
def memberText (m : String × String) : String := text m.1 ++ ": " ++ text m.2

theorem run_member (m : String × String) :
    run ⟨ts, .between⟩ (memberText m).toList = some ⟨ts ++ memberTokens m, .between⟩ := by
  have hcolon : ∀ ts, run ⟨ts, .between⟩ ": ".toList = some ⟨ts ++ [.colon], .between⟩ :=
    fun _ => rfl
  rw [memberText, String.toList_append, String.toList_append, run_append, run_append, run_text,
    Option.bind_some, hcolon, Option.bind_some, run_text, List.append_assoc, List.append_assoc]
  rfl

theorem run_members (ms : List (String × String)) :
    run ⟨ts, .between⟩ (", ".toList.intercalate (ms.map fun m => (memberText m).toList)) =
      some ⟨ts ++ [Token.comma].intercalate (ms.map memberTokens), .between⟩ := by
  induction ms generalizing ts with
  | nil => simp
  | cons m ms ih =>
    cases ms with
    | nil => simpa using run_member m
    | cons next ms =>
      have hcomma : ∀ ts, run ⟨ts, .between⟩ ", ".toList = some ⟨ts ++ [.comma], .between⟩ :=
        fun _ => rfl
      rw [List.map_cons, List.map_cons, List.intercalate_cons_cons, run_append, run_append,
        run_member, Option.bind_some, hcomma, Option.bind_some]
      refine ih.trans ?_
      rw [List.map_cons, List.map_cons, List.map_cons, List.intercalate_cons_cons]
      simp only [List.append_assoc]

theorem members?_intercalate (m : String × String) (ms : List (String × String)) :
    members? ([Token.comma].intercalate ((m :: ms).map memberTokens) ++ [.closing]) =
      some (m :: ms) := by
  induction ms generalizing m with
  | nil => rfl
  | cons next ms ih =>
    rw [List.map_cons, List.map_cons, List.intercalate_cons_cons, ← List.map_cons]
    simp only [memberTokens, List.cons_append, List.nil_append, members?, ih, Option.map_some]

theorem toList_object (ms : List (String × String)) : (object ms).toList =
    '\x7b' :: (", ".toList.intercalate (ms.map fun m => (memberText m).toList) ++ ['\x7d']) := by
  rw [object, String.toList_append, String.toList_append, String.toList_intercalate, List.map_map]
  rfl

theorem object?_of_members? {ms : List (String × String)} (h : members? ts = some ms) :
    object? (.opening :: ts) = some ms := by
  have hne : ts ≠ [.closing] := by
    rintro rfl
    cases h
  rw [object?, if_neg hne, h]

/-- **An object is read back from its text.** -/
theorem decode_object (ms : List (String × String)) : decode (object ms) = some ms := by
  have hopening : Reader.read ⟨[], .between⟩ '\x7b' = some ⟨[.opening], .between⟩ := rfl
  have hclosing : ∀ ts, run ⟨ts, .between⟩ ['\x7d'] = some ⟨ts ++ [.closing], .between⟩ :=
    fun _ => rfl
  rw [decode, toList_object, run_cons, hopening, Option.bind_some, run_append, run_members,
    Option.bind_some, hclosing, Option.bind_some, if_pos rfl]
  cases ms with
  | nil => rfl
  | cons m ms => exact object?_of_members? (members?_intercalate m ms)

-- forms that are read but not written
example : decode "\x7b \"a\" :\t\"\\u00E9\\/\\uD83D\\uDE00\"\n\x7d" = some [("a", "é/😀")] := by
  decide +kernel

end Objects

/-! ## Printable characters -/

section Printable

variable {c d : Char} {n : Nat}

/-- The printable characters of ASCII. -/
def isPlain (c : Char) : Bool := 0x20 ≤ c.toNat && c.toNat ≤ 0x7e

theorem isPlain_of_between {first last : Char} (hfirst : 0x20 ≤ first.toNat)
    (hlast : last.toNat ≤ 0x7e) (h : first.toNat ≤ c.toNat ∧ c.toNat ≤ last.toNat) :
    isPlain c = true := by
  simp only [isPlain, Bool.and_eq_true, decide_eq_true_eq]
  omega

theorem isPlain_of_isSome (h : (hexDigitValue? c).isSome) : isPlain c = true := by
  unfold hexDigitValue? at h
  split_ifs at h with hdigit hsmall hcapital
  · exact isPlain_of_between (by decide) (by decide) (Char.isDigit_iff_toNat.mp hdigit)
  · simp only [Bool.and_eq_true, decide_eq_true_eq] at hsmall
    exact isPlain_of_between (by decide) (by decide) hsmall
  · simp only [Bool.and_eq_true, decide_eq_true_eq] at hcapital
    exact isPlain_of_between (by decide) (by decide) hcapital
  · cases h

theorem isPlain_of_mem_unitEscape (hn : n < 0x10000) (h : c ∈ unitEscape n) :
    isPlain c = true := by
  rcases List.mem_cons.mp h with rfl | h
  · rfl
  rcases List.mem_cons.mp h with rfl | h
  · rfl
  obtain ⟨digits, hdigits, -, -⟩ := exists_hexDigits (by decide : 0 < 4) hn
  have hvalue : hexDigitValue? c ∈ digits.map some := hdigits ▸ List.mem_map_of_mem h
  obtain ⟨d, -, hd⟩ := List.mem_map.mp hvalue
  exact isPlain_of_isSome (by rw [← hd]; rfl)

theorem isPlain_of_mem_short (hd : isPlain d = true) (h : c ∈ ['\\', d]) : isPlain c = true := by
  rcases List.mem_pair.mp h with rfl | rfl
  · rfl
  · exact hd

theorem isPlain_of_mem_escape (h : d ∈ escape c) : isPlain d = true := by
  unfold escape at h
  split_ifs at h with hquoted hfeed hreturn htab hback hform hplain
  · refine isPlain_of_mem_short ?_ h
    simp only [Bool.or_eq_true, decide_eq_true_eq] at hquoted
    rcases hquoted with rfl | rfl
    · rfl
    · rfl
  · exact isPlain_of_mem_short rfl h
  · exact isPlain_of_mem_short rfl h
  · exact isPlain_of_mem_short rfl h
  · exact isPlain_of_mem_short rfl h
  · exact isPlain_of_mem_short rfl h
  · exact List.mem_singleton.mp h ▸ hplain
  · obtain ⟨n, hn, hd⟩ := List.mem_flatMap.mp h
    exact isPlain_of_mem_unitEscape (lt_of_mem_units hn) hd

theorem isPlain_of_mem_text {s : String} (h : c ∈ (text s).toList) : isPlain c = true := by
  rw [text, String.toList_ofList, List.cons_append, List.mem_cons, List.mem_append,
    List.mem_singleton] at h
  rcases h with rfl | h | rfl
  · rfl
  · obtain ⟨d, -, hc⟩ := List.mem_flatMap.mp h
    exact isPlain_of_mem_escape hc
  · rfl

/-- **The text of an object is printable ASCII.** -/
theorem isPlain_of_mem_object {ms : List (String × String)} (h : c ∈ (object ms).toList) :
    isPlain c = true := by
  have hcolon : ∀ c ∈ ": ".toList, isPlain c = true := List.all_eq_true.mp (by decide)
  have hcomma : ∀ c ∈ ", ".toList, isPlain c = true := List.all_eq_true.mp (by decide)
  rw [toList_object, List.mem_cons, List.mem_append, List.mem_singleton] at h
  rcases h with rfl | h | rfl
  · rfl
  · rcases Text.mem_or_mem_of_mem_intercalate h with h | ⟨piece, hpiece, h⟩
    · exact hcomma c h
    · obtain ⟨m, -, rfl⟩ := List.mem_map.mp hpiece
      rw [memberText, String.toList_append, String.toList_append, List.mem_append,
        List.mem_append] at h
      rcases h with (h | h) | h
      · exact isPlain_of_mem_text h
      · exact hcolon c h
      · exact isPlain_of_mem_text h
  · rfl

end Printable

end PodRedirect.Json
