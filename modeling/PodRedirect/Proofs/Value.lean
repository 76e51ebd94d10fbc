import Mathlib.Algebra.GroupWithZero.Nat
import Mathlib.Data.List.Basic
import PodRedirect.Value

/-!
# Values that cannot be written

A value has a text unless it shows an integer with too many digits, be it the value itself or
somewhere inside, or lists, sets and mappings that are nested too deep. Where one of these comes up
again inside itself, nothing of it is shown. What is written first decides which of the two it is.

## Main definitions

* `Value.parts`: the values that are written inside a value, in order
* `Value.Unwritable`: the value cannot be written, for the given reason

## Main results

* `Value.faultIn_eq_some_iff`: why a value cannot be written
* `Value.display_eq_error_iff`: which values have no text
* `Value.display_int`: the text of an integer
-/

namespace PodRedirect

/-- An integer is written if it has few enough digits. -/
theorem Numeral.write_eq_error_iff {n : Int} {f : Fault} :
    write n = .error f ↔ 10 ^ digitLimit ≤ n.natAbs ∧ f = .unwritable := by
  have hlength : digitLimit < (Nat.toDigits 10 n.natAbs).length ↔ 10 ^ digitLimit ≤ n.natAbs := by
    rw [← Nat.not_le, Nat.length_toDigits_le_iff (by decide) (by decide), Nat.not_lt]
  rw [write, ← hlength]
  split
  next h => rw [and_iff_right h, Except.error.injEq, eq_comm]
  next h => exact ⟨nofun, fun h' => absurd h'.1 h⟩

theorem Numeral.of_write_ok {n : Int} {s : String} (h : write n = .ok s) : s = toString n := by
  unfold write at h
  split at h
  · cases h
  · exact (Except.ok.inj h).symm

namespace Value

/-- The values that are written inside a value, in order. -/
def parts : Value → List Value
  | list items | set items => items
  | pair first second => [first, second]
  | mapping entries => entries.flatMap fun e => [e.1, e.2]
  | _ => []

/-- The value cannot be written inside the lists and mappings with the given labels, where so many
calls are nested inside each other, for the given reason: nothing that is written before is at
fault. -/
inductive Unwritable : List Nat → Nat → Value → Numeral.Fault → Prop where
  | deep {outer : List Nat} {depth : Nat} {v : Value} (h : Numeral.callLimit ≤ depth) :
    Unwritable outer depth v .tooDeep
  | int {outer : List Nat} {depth : Nat} {n : Int} (room : depth < Numeral.callLimit)
    (h : 10 ^ Numeral.digitLimit ≤ n.natAbs) : Unwritable outer depth (.int n) .unwritable
  | part {outer : List Nat} {depth : Nat} {w v : Value} {pre post : List Value}
    {f : Numeral.Fault} (room : depth < Numeral.callLimit) (parts : w.parts = pre ++ v :: post)
    (before : ∀ u ∈ pre, faultIn outer (depth + 1) u = none)
    (h : Unwritable outer (depth + 1) v f) : Unwritable outer depth w f
  | shared {outer : List Nat} {depth label : Nat} {v : Value} {f : Numeral.Fault}
    (room : depth < Numeral.callLimit) (fresh : label ∉ outer)
    (h : Unwritable (label :: outer) depth v f) : Unwritable outer depth (.shared label v) f

section Fault

variable {outer : List Nat} {depth : Nat} {f : Numeral.Fault}

/-! ## What is written first -/

theorem findSome?_cons_or {α β : Type} (p : α → Option β) (a : α) (l : List α) :
    (a :: l).findSome? p = (p a).or (l.findSome? p) := by
  rw [List.findSome?_cons]
  cases p a <;> rfl

theorem faultInItems_eq (items : List Value) :
    faultInItems outer depth items = items.findSome? (faultIn outer depth) := by
  induction items with
  | nil => rfl
  | cons v vs ih => rw [faultInItems, ih, findSome?_cons_or]

theorem faultInEntries_eq (entries : List (Value × Value)) : faultInEntries outer depth entries =
    (entries.flatMap fun e => [e.1, e.2]).findSome? (faultIn outer depth) := by
  induction entries with
  | nil => rfl
  | cons e es ih =>
    rw [faultInEntries, ih, List.flatMap_cons, List.cons_append, List.singleton_append,
      findSome?_cons_or, findSome?_cons_or, Option.or_assoc]

/-- What is at fault in a value: it is nested too deep, it is an integer that is too long, it has a
label and its content is at fault, or the first of its parts is. -/
theorem faultIn_eq (w : Value) : faultIn outer depth w =
    if Numeral.callLimit ≤ depth then some .tooDeep
    else
      match w with
      | int n => if 10 ^ Numeral.digitLimit ≤ n.natAbs then some .unwritable else none
      | shared label v => if label ∈ outer then none else faultIn (label :: outer) depth v
      | w => w.parts.findSome? (faultIn outer (depth + 1)) := by
  rw [faultIn.eq_def]
  congr 1
  cases w with
  | int n =>
    dsimp only
    split
    next f hf =>
      obtain ⟨hlong, rfl⟩ := Numeral.write_eq_error_iff.mp hf
      rw [if_pos hlong]
    next s hs =>
      rw [if_neg fun hlong => ?_]
      cases (Numeral.write_eq_error_iff.mpr ⟨hlong, rfl⟩).symm.trans hs
  | shared label v => simp only [List.contains_iff_mem]
  | list items | set items => exact faultInItems_eq items
  | pair first second =>
    dsimp only
    rw [parts, findSome?_cons_or, findSome?_cons_or, List.findSome?_nil, Option.or_none]
  | mapping entries => exact faultInEntries_eq entries
  | _ => rfl

/-! ## Why values cannot be written -/

/-- What cannot be written is at fault. -/
theorem Unwritable.faultIn {v : Value} (h : Unwritable outer depth v f) :
    faultIn outer depth v = some f := by
  induction h with
  | deep h => rw [faultIn_eq, if_pos h]
  | int room h =>
    rw [faultIn_eq, if_neg (Nat.not_le.mpr room)]
    exact if_pos h
  | shared room fresh _ ih =>
    rw [faultIn_eq, if_neg (Nat.not_le.mpr room)]
    exact (if_neg fresh).trans ih
  | @part outer depth w v pre post f room hparts before _ ih =>
    have hfirst : w.parts.findSome? (Value.faultIn outer (depth + 1)) = some f :=
      List.findSome?_eq_some_iff.mpr ⟨pre, v, post, hparts, ih, before⟩
    rw [faultIn_eq, if_neg (Nat.not_le.mpr room)]
    -- what has parts is no integer, and it has no label
    cases w with
    | int | shared => simp [parts] at hparts
    | _ => exact hfirst

/-- The parts of a value are smaller than it. -/
theorem sizeOf_lt_of_mem_parts {v w : Value} (h : v ∈ w.parts) : sizeOf v < sizeOf w := by
  cases w with
  | list items | set items =>
    have hlt : sizeOf v < sizeOf items := List.sizeOf_lt_of_mem h
    simp only [list.sizeOf_spec, set.sizeOf_spec]
    omega
  | pair first second =>
    simp only [parts, List.mem_cons, List.not_mem_nil, or_false] at h
    simp only [pair.sizeOf_spec]
    rcases h with rfl | rfl <;> omega
  | mapping entries =>
    -- a key and a value are smaller than their entry, and this is smaller than all of them
    obtain ⟨⟨k, u⟩, he, hv⟩ := List.mem_flatMap.mp h
    have hlt := List.sizeOf_lt_of_mem he
    simp only [List.mem_cons, List.not_mem_nil, or_false] at hv
    simp only [Prod.mk.sizeOf_spec, mapping.sizeOf_spec] at hlt ⊢
    rcases hv with rfl | rfl <;> omega
  | _ => exact absurd h List.not_mem_nil

/-- What is at fault cannot be written. -/
theorem unwritable_of_faultIn (w : Value) (outer : List Nat) (depth : Nat)
    (h : faultIn outer depth w = some f) : Unwritable outer depth w f := by
  -- the recursion is on the size: `faultIn_eq` leads to parts, which are no arguments of a constructor
  rw [faultIn_eq] at h
  split at h
  next hdeep => cases h; exact .deep hdeep
  next hroom =>
    have room : depth < Numeral.callLimit := Nat.lt_of_not_le hroom
    split at h
    next n =>
      split at h
      next hlong => cases h; exact .int room hlong
      next => cases h
    next label v =>
      split at h
      · cases h
      next fresh => exact .shared room fresh (unwritable_of_faultIn v (label :: outer) depth h)
    next =>
      -- the first part that is at fault is the one that cannot be written
      obtain ⟨pre, v, post, hparts, hv, before⟩ := List.findSome?_eq_some_iff.mp h
      have hlt : sizeOf v < sizeOf w := sizeOf_lt_of_mem_parts (hparts ▸ List.mem_append_cons_self)
      exact .part room hparts before (unwritable_of_faultIn v outer (depth + 1) hv)
termination_by sizeOf w

/-- **Why a value cannot be written** inside the lists and mappings with the given labels. -/
theorem faultIn_eq_some_iff {v : Value} : faultIn outer depth v = some f ↔
    Unwritable outer depth v f :=
  ⟨unwritable_of_faultIn v outer depth, Unwritable.faultIn⟩

end Fault

/-! ## Texts of values -/

/-- **Which values have no text, and why.** -/
theorem display_eq_error_iff {v : Value} {f : Numeral.Fault} :
    v.display = .error f ↔ Unwritable [] 0 v f := by
  rw [← faultIn_eq_some_iff, display, written, fault?]
  cases faultIn [] 0 v <;> simp

/-- The text of an integer is its decimal. -/
theorem display_int (n : Int) : (int n).display = Numeral.write n := by
  cases hwrite : Numeral.write n with
  | error f =>
    obtain ⟨hlong, rfl⟩ := Numeral.write_eq_error_iff.mp hwrite
    exact display_eq_error_iff.mpr (.int (by decide) hlong)
  | ok s =>
    have hshort : ¬10 ^ Numeral.digitLimit ≤ n.natAbs := fun hlong => by
      cases hwrite.symm.trans (Numeral.write_eq_error_iff.mpr ⟨hlong, rfl⟩)
    rw [display, written, fault?, faultIn_eq, if_neg (by decide), Numeral.of_write_ok hwrite]
    simp only [hshort, if_false]
    rfl

end Value

end PodRedirect
