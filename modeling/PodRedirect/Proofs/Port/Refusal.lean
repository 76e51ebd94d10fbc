import PodRedirect.Proofs.Port.Verdict

/-!
# What a refusal shows

A token that stands for no port is shown in a warning, as it is and perhaps once more in part. Every
other character of the warning is the program's own.

## Main definitions

* `Port.Refusal.IsOf`: a refusal is about a token

## Main results

* `Port.isOf_of_parse`: a token that is refused is the one that the refusal is about
* `Port.Refusal.IsOf.newline_mem_warning_iff`: where the lines of a warning come from
-/

namespace PodRedirect.Port

/-- The refusal shows the token, and of parts only such as the token has. -/
def Refusal.IsOf (r : Refusal) (token : String) : Prop :=
  r.text = token ∧
    match r.cause with
    | .badLower part | .badUpper part => part.toList ⊆ token.toList
    | .stated _ => False
    | _ => True

theorem trimEnd_subset (q : Char → Bool) (cs : List Char) : Text.trimEnd q cs ⊆ cs := by
  intro c hc
  rw [Text.trimEnd, List.mem_reverse] at hc
  exact List.mem_reverse.mp ((List.dropWhile_sublist q).subset hc)

theorem stripped_subset (token : String) : stripped token ⊆ token.toList := fun _ hc =>
  (List.dropWhile_sublist _).subset (trimEnd_subset _ _ hc)

/-- The two parts of a token that is divided by a dash have their characters from the token. -/
theorem subset_of_splitOn {token : String} {first second : List Char}
    (h : (stripped token).splitOn '-' = [first, second]) :
    first ⊆ token.toList ∧ second ⊆ token.toList := by
  constructor
  all_goals
    refine fun c hc => stripped_subset token ?_
    rw [eq_append_of_splitOn h]
    simp [hc]

/-- **A refusal is about the token that was read.** -/
theorem isOf_of_parse {token : String} {r : Refusal}
    (h : PortRange.parse (.text token) = .error (.refused r)) : r.IsOf token := by
  obtain ⟨text, htext, cause, hverdict, rfl⟩ := parse_eq_refused_iff.mp h
  obtain rfl : token = text := Except.ok.inj htext
  refine ⟨rfl, ?_⟩
  rcases cause_of_verdict hverdict with rfl | rfl | rfl | ⟨first, second, hsplit, rfl | rfl⟩
  · trivial
  · trivial
  · trivial
  · simpa using (subset_of_splitOn hsplit).1
  · simpa using (subset_of_splitOn hsplit).2

/-- **A warning has a line end if and only if its token has one.** -/
theorem Refusal.IsOf.newline_mem_warning_iff {r : Refusal} {token : String} (h : r.IsOf token) :
    '\n' ∈ r.warning.toList ↔ '\n' ∈ token.toList := by
  obtain ⟨htext, hcause⟩ := h
  have hwarning : '\n' ∈ r.warning.toList ↔ '\n' ∈ token.toList ∨ '\n' ∈ r.message.toList := by
    unfold Refusal.warning
    simp [htext]
  rw [hwarning, or_iff_left_iff_imp]
  -- whatever the message shows is from the token
  intro hmessage
  unfold Refusal.message at hmessage
  cases hr : r.cause with
  | noPort => simpa [hr, htext] using hmessage
  | noRange => simp [hr] at hmessage
  | reversed => simpa [hr, htext] using hmessage
  | badLower part =>
    rw [hr] at hcause
    exact hcause (by simpa [hr] using hmessage)
  | badUpper part =>
    rw [hr] at hcause
    exact hcause (by simpa [hr] using hmessage)
  | stated reason =>
    rw [hr] at hcause
    exact hcause.elim

/-- What is refused of tokens is refused because of one of them. -/
theorem exists_of_mem_refused {tokens : List Value} {r : Refusal} (h : r ∈ (read tokens).refused) :
    ∃ token ∈ tokens, PortRange.parse token = .error (.refused r) := by
  induction tokens with
  | nil => cases h
  | cons token tokens ih =>
    rw [read] at h
    cases hparse : PortRange.parse token with
    | ok range =>
      rw [hparse] at h
      obtain ⟨t, ht, hrefused⟩ := ih h
      exact ⟨t, List.mem_cons_of_mem _ ht, hrefused⟩
    | error f =>
      rw [hparse] at h
      cases f with
      | numeral f => cases h
      | refused r' =>
        rcases List.mem_cons.mp h with rfl | h
        · exact ⟨token, List.mem_cons_self, hparse⟩
        · obtain ⟨t, ht, hrefused⟩ := ih h
          exact ⟨t, List.mem_cons_of_mem _ ht, hrefused⟩

end PodRedirect.Port
