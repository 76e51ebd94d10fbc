import PodRedirect.Port.Group
import PodRedirect.Proofs.Except

/-!
# Verdicts on tokens

What a token comes to depends on its characters without the white space around them. The verdict on
these is a range whose bounds are read of them, or the cause of a refusal, which names the token.

## Main definitions

* `Port.verdict`: what the characters of a token come to

## Main results

* `Port.parse_of_display`: a token comes to the verdict on its characters
* `Port.bounds_of_verdict`, `Port.cause_of_verdict`: what ranges and refusals come from
* `Port.parse_eq_ok_iff`, `Port.parse_eq_refused_iff`: tokens that are ranges, and those refused
-/

namespace PodRedirect.Port

/-! ## Verdicts -/

/-- What two parts with a dash between come to. -/
def verdictOfBounds (first second : List Char) :
    Except Numeral.Fault (Except Cause PortRange) := do
  let some lower ← number? first | return .error (.badLower (String.ofList first))
  let some upper ← number? second | return .error (.badUpper (String.ofList second))
  return if upper < lower then .error .reversed else .ok ⟨lower, upper⟩

/-- What the characters of a token come to: the range that they write, or why there is none. -/
def verdict (cs : List Char) : Except Numeral.Fault (Except Cause PortRange) :=
  if (Numeral.readAscii? cs).isSome then
    (number? cs).map fun
      | some n => .ok ⟨n, n⟩
      | none => .error .noPort
  else
    match cs.splitOn '-' with
    | [first, second] => verdictOfBounds first second
    | _ => .ok (.error .noRange)

/-- What a verdict means for the token that is shown by the given text. -/
def judged (token : Value) (text : String) :
    Except Numeral.Fault (Except Cause PortRange) → Except Fault PortRange
  | .ok (.ok r) => .ok r
  | .ok (.error cause) => .error (.refused ⟨token, text, cause⟩)
  | .error f => .error (.numeral f)

section Judged

variable {token : Value} {text : String} {v : Except Numeral.Fault (Except Cause PortRange)}

theorem judged_eq_ok_iff {r : PortRange} : judged token text v = .ok r ↔ v = .ok (.ok r) := by
  rcases v with f | cause | range
  · exact ⟨nofun, nofun⟩
  · exact ⟨nofun, nofun⟩
  · rw [judged, Except.ok.injEq, Except.ok.injEq, Except.ok.injEq]

theorem judged_eq_refused_iff {x : Refusal} : judged token text v = .error (.refused x) ↔
    ∃ cause, v = .ok (.error cause) ∧ x = ⟨token, text, cause⟩ := by
  rcases v with f | cause | range
  · exact ⟨nofun, nofun⟩
  · simp [judged, eq_comm]
  · exact ⟨nofun, nofun⟩

end Judged

section Verdict

variable {cs : List Char}

/-- Characters that a dash divides in two are these parts with the dash between. -/
theorem eq_append_of_splitOn {first second : List Char} (h : cs.splitOn '-' = [first, second]) :
    cs = first ++ '-' :: second := by
  have hparts : ['-'].intercalate (cs.splitOn '-') = cs := List.intercalate_splitOn '-'
  rw [h, List.intercalate_cons_cons, List.intercalate_singleton, List.append_assoc,
    List.singleton_append] at hparts
  exact hparts.symm

/-- The bounds of a range are ports that are read: both of them of all the characters, or each of
one part. -/
theorem bounds_of_verdict {r : PortRange} (h : verdict cs = .ok (.ok r)) :
    (∃ n, number? cs = .ok (some n) ∧ r = ⟨n, n⟩) ∨
      ∃ first second lower upper, cs.splitOn '-' = [first, second] ∧
        number? first = .ok (some lower) ∧ number? second = .ok (some upper) ∧
        lower ≤ upper ∧ r = ⟨lower, upper⟩ := by
  unfold verdict at h
  split at h
  · obtain ⟨found, hfound, h⟩ := of_map_ok h
    cases found with
    | none => cases h
    | some n =>
      cases h
      exact Or.inl ⟨n, hfound, rfl⟩
  · split at h
    next first second hsplit =>
      obtain ⟨lower, hlower, h⟩ := of_bind_ok h
      cases lower with
      | none => cases h
      | some lower =>
        obtain ⟨upper, hupper, h⟩ := of_bind_ok h
        cases upper with
        | none => cases h
        | some upper =>
          have h := Except.ok.inj h
          split at h
          next => cases h
          next hordered =>
            cases h
            exact Or.inr ⟨first, second, lower, upper, hsplit, hlower, hupper,
              Int.not_lt.mp hordered, rfl⟩
    next => cases h

/-- The cause of a refusal shows nothing but a part of the characters. -/
theorem cause_of_verdict {cause : Cause} (h : verdict cs = .ok (.error cause)) :
    cause = .noPort ∨ cause = .noRange ∨ cause = .reversed ∨
      ∃ first second, cs.splitOn '-' = [first, second] ∧
        (cause = .badLower (String.ofList first) ∨ cause = .badUpper (String.ofList second)) := by
  unfold verdict at h
  split at h
  · obtain ⟨found, -, h⟩ := of_map_ok h
    cases found with
    | some n => cases h
    | none =>
      cases h
      exact Or.inl rfl
  · split at h
    next first second hsplit =>
      obtain ⟨lower, -, h⟩ := of_bind_ok h
      cases lower with
      | none =>
        cases h
        exact Or.inr (Or.inr (Or.inr ⟨first, second, hsplit, Or.inl rfl⟩))
      | some lower =>
        obtain ⟨upper, -, h⟩ := of_bind_ok h
        cases upper with
        | none =>
          cases h
          exact Or.inr (Or.inr (Or.inr ⟨first, second, hsplit, Or.inr rfl⟩))
        | some upper =>
          have h := Except.ok.inj h
          split at h
          next =>
            cases h
            exact Or.inr (Or.inr (Or.inl rfl))
          next => cases h
    next =>
      cases h
      exact Or.inr (Or.inl rfl)

end Verdict

/-! ## Tokens -/

section Token

variable {token : Value}

theorem parse_of_unwritable {f : Numeral.Fault} (h : token.display = .error f) :
    PortRange.parse token = .error (.numeral f) := by
  unfold PortRange.parse
  rw [h]
  rfl

/-- **A token comes to the verdict on its characters** without the white space around them. -/
theorem parse_of_display {text : String} (h : token.display = .ok text) :
    PortRange.parse token = judged token text (verdict (stripped text)) := by
  unfold PortRange.parse verdict
  rw [h]
  change (if _ then _ else _) = _
  dsimp only
  by_cases hnumber : (Numeral.readAscii? (stripped text)).isSome = true
  · rw [if_pos hnumber, if_pos hnumber]
    cases number? (stripped text) with
    | error f => rfl
    | ok n => cases n <;> rfl
  · rw [if_neg hnumber, if_neg hnumber]
    rcases (stripped text).splitOn '-' with _ | ⟨first, _ | ⟨second, _ | ⟨third, rest⟩⟩⟩
    · rfl
    · rfl
    · -- two parts: each of them may be too long, or no port
      dsimp only
      rw [verdictOfBounds]
      cases number? first with
      | error f => rfl
      | ok lower =>
        cases lower with
        | none => rfl
        | some lower =>
          change (Except.mapError _ (number? second) >>= _) = judged _ _ (number? second >>= _)
          cases number? second with
          | error f => rfl
          | ok upper =>
            cases upper with
            | none => rfl
            | some upper =>
              change (if _ then _ else _) = judged _ _ (.ok (if _ then _ else _))
              split <;> rfl
    · rfl

/-- A token is a range if its characters are. -/
theorem parse_eq_ok_iff {r : PortRange} : PortRange.parse token = .ok r ↔
    ∃ text, token.display = .ok text ∧ verdict (stripped text) = .ok (.ok r) := by
  cases hdisplay : token.display with
  | error f =>
    rw [parse_of_unwritable hdisplay]
    exact ⟨nofun, nofun⟩
  | ok text =>
    rw [parse_of_display hdisplay, judged_eq_ok_iff]
    simp only [Except.ok.injEq, exists_eq_left']

/-- A token is refused for the cause that its characters give, and the refusal names it. -/
theorem parse_eq_refused_iff {x : Refusal} : PortRange.parse token = .error (.refused x) ↔
    ∃ text, token.display = .ok text ∧
      ∃ cause, verdict (stripped text) = .ok (.error cause) ∧ x = ⟨token, text, cause⟩ := by
  cases hdisplay : token.display with
  | error f =>
    rw [parse_of_unwritable hdisplay]
    exact ⟨nofun, nofun⟩
  | ok text =>
    rw [parse_of_display hdisplay, judged_eq_refused_iff]
    simp only [Except.ok.injEq, exists_eq_left']

/-- A refusal names the token that was read. -/
theorem token_of_parse {r : Refusal} (h : PortRange.parse token = .error (.refused r)) :
    r.token = token := by
  obtain ⟨text, -, cause, -, rfl⟩ := parse_eq_refused_iff.mp h
  rfl

end Token

end PodRedirect.Port
