import Mathlib.Data.List.DropRight
import PodRedirect.Text.Blank

/-!
# Trimmed and divided texts

Characters of a class around a text do not matter where it is trimmed, and the pieces between the
separators of a text hold none.

## Main results

* `Text.exists_trim`: what trimming takes off
* `Text.trim_surrounded`: what is trimmed off does not matter
* `Text.strip_strip`: nothing is left to trim off
* `Text.not_mem_of_mem_splitOn`: pieces hold no separator
-/

namespace PodRedirect.Text

/-! ## Trimming -/

section Trim

variable {q : Char → Bool} {cs left right : List Char}

theorem trimEnd_append (h : ∀ c ∈ right, q c = true) : trimEnd q (cs ++ right) = trimEnd q cs := by
  rw [trimEnd, trimEnd, List.reverse_append,
    List.dropWhile_append_of_pos fun c hc => h c (List.mem_reverse.mp hc)]

theorem trim_append_left (h : ∀ c ∈ left, q c = true) : trim q (left ++ cs) = trim q cs := by
  rw [trim, trim, List.dropWhile_append_of_pos h]

theorem trim_append_right (h : ∀ c ∈ right, q c = true) : trim q (cs ++ right) = trim q cs := by
  rw [trim, trim, List.dropWhile_append]
  split
  next hempty =>
    -- nothing is left of the characters, and so nothing is of what follows them
    rw [List.isEmpty_iff.mp hempty, List.dropWhile_eq_nil_iff.mpr h]
  next => exact trimEnd_append h

/-- Where no character is of the class, nothing is trimmed off. -/
theorem trim_eq_self (h : ∀ c ∈ cs, q c = false) : trim q cs = cs := by
  have hdrop : ∀ ds : List Char, (∀ c ∈ ds, q c = false) → ds.dropWhile q = ds := by
    intro ds hds
    cases ds with
    | nil => rfl
    | cons c ds => exact List.dropWhile_cons_of_neg (by simp [hds c List.mem_cons_self])
  rw [trim, trimEnd, hdrop cs h, hdrop _ fun c hc => h c (List.mem_reverse.mp hc),
    List.reverse_reverse]

/-- **What is trimmed off does not matter.** -/
theorem trim_surrounded (hleft : ∀ c ∈ left, q c = true) (hcore : ∀ c ∈ cs, q c = false)
    (hright : ∀ c ∈ right, q c = true) : trim q (left ++ cs ++ right) = cs := by
  rw [trim_append_right hright, trim_append_left hleft, trim_eq_self hcore]

/-- **Characters of the class are trimmed off**, at both ends. -/
theorem exists_trim (q : Char → Bool) (cs : List Char) : ∃ left right,
    cs = left ++ trim q cs ++ right ∧ (∀ c ∈ left, q c = true) ∧ ∀ c ∈ right, q c = true := by
  have hleft := List.takeWhile_append_dropWhile (p := q) (l := cs)
  have hright := List.takeWhile_append_dropWhile (p := q) (l := (cs.dropWhile q).reverse)
  refine ⟨cs.takeWhile q, ((cs.dropWhile q).reverse.takeWhile q).reverse, ?_,
    fun c hc => List.mem_takeWhile_imp hc,
    fun c hc => List.mem_takeWhile_imp (List.mem_reverse.mp hc)⟩
  rw [trim, trimEnd, List.append_assoc, ← List.reverse_append, hright, List.reverse_reverse, hleft]

/-- What is not of the class stays. -/
theorem mem_trim {c : Char} (h : c ∈ cs) (hc : q c = false) : c ∈ trim q cs := by
  obtain ⟨left, right, hcs, hleft, hright⟩ := exists_trim q cs
  rw [hcs, List.mem_append, List.mem_append] at h
  rcases h with (h | h) | h
  · rw [hleft c h] at hc
    cases hc
  · exact h
  · rw [hright c h] at hc
    cases hc

theorem trim_trim (q : Char → Bool) (cs : List Char) :
    trim q (trim q cs) = trim q cs := by
  have hprefix : trim q cs <+: cs.dropWhile q := List.rdropWhile_prefix q _
  -- what is left does not start with a character of the class
  have hstart : (trim q cs).dropWhile q = trim q cs := by
    cases htrim : trim q cs with
    | nil => rfl
    | cons c rest =>
      have hhead : (cs.dropWhile q).head? = some c := by
        obtain ⟨r, hr⟩ := hprefix
        rw [← hr, htrim]
        rfl
      have hc := List.head?_dropWhile_not q cs
      rw [hhead] at hc
      rw [List.dropWhile_cons_of_neg (by simpa using hc)]
  rw [trim, hstart]
  exact List.rdropWhile_idempotent q _

/-- Nothing is left to trim off a text that was trimmed. -/
theorem strip_strip (text : String) : strip (strip text) = strip text := by
  rw [strip, strip, String.toList_ofList, trim_trim]

end Trim

/-! ## Pieces -/

section Pieces

variable {sep : Char} {cs piece : List Char}

/-- **The pieces between separators hold none.** -/
theorem not_mem_of_mem_splitOn (h : piece ∈ cs.splitOn sep) : sep ∉ piece := by
  induction cs generalizing piece with
  | nil =>
    rw [List.splitOn_nil, List.mem_singleton] at h
    exact h ▸ List.not_mem_nil
  | cons c cs ih =>
    rw [List.splitOn_cons_eq_if_modifyHead] at h
    split at h
    · rcases List.mem_cons.mp h with rfl | h
      · exact List.not_mem_nil
      · exact ih h
    next hc =>
      -- the character joins the first piece of the rest
      cases hrest : cs.splitOn sep with
      | nil => exact absurd hrest (List.splitOn_ne_nil _ _)
      | cons first rest =>
        rw [hrest, List.modifyHead_cons] at h
        rw [hrest] at ih
        rcases List.mem_cons.mp h with rfl | h
        · have hne : sep ≠ c := fun h => hc (beq_iff_eq.mpr h.symm)
          exact List.not_mem_cons_of_ne_of_not_mem hne (ih List.mem_cons_self)
        · exact ih (List.mem_cons_of_mem _ h)

variable {pieces : List (List Char)} {c : Char}

/-- The characters of a text are those of its pieces, and of what stands between them. -/
theorem mem_or_mem_of_mem_intercalate {between : List Char} (h : c ∈ between.intercalate pieces) :
    c ∈ between ∨ ∃ piece ∈ pieces, c ∈ piece := by
  induction pieces with
  | nil => cases h
  | cons piece pieces ih =>
    cases pieces with
    | nil =>
      rw [List.intercalate_singleton] at h
      exact Or.inr ⟨piece, List.mem_cons_self, h⟩
    | cons next rest =>
      rw [List.intercalate_cons_cons, List.append_assoc, List.mem_append, List.mem_append] at h
      rcases h with h | h | h
      · exact Or.inr ⟨piece, List.mem_cons_self, h⟩
      · exact Or.inl h
      · exact (ih h).imp_right fun ⟨p, hp, hc⟩ => ⟨p, List.mem_cons_of_mem _ hp, hc⟩

theorem eq_or_mem_of_mem_intercalate (h : c ∈ [sep].intercalate pieces) :
    c = sep ∨ ∃ piece ∈ pieces, c ∈ piece :=
  (mem_or_mem_of_mem_intercalate h).imp_left List.mem_singleton.mp

theorem mem_intercalate_of_mem (hpiece : piece ∈ pieces) (h : c ∈ piece) :
    c ∈ [sep].intercalate pieces := by
  induction pieces with
  | nil => cases hpiece
  | cons first pieces ih =>
    cases pieces with
    | nil =>
      rw [List.intercalate_singleton]
      exact List.mem_singleton.mp hpiece ▸ h
    | cons next rest =>
      rw [List.intercalate_cons_cons, List.append_assoc, List.mem_append]
      rcases List.mem_cons.mp hpiece with rfl | hpiece
      · exact Or.inl h
      · exact Or.inr (List.mem_append_right _ (ih hpiece))

/-- The pieces of a text have their characters from it. -/
theorem mem_of_mem_splitOn (hpiece : piece ∈ cs.splitOn sep) (h : c ∈ piece) : c ∈ cs := by
  have hmem : c ∈ [sep].intercalate (cs.splitOn sep) := mem_intercalate_of_mem hpiece h
  rwa [List.intercalate_splitOn sep] at hmem

end Pieces

end PodRedirect.Text
