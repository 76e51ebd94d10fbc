import PodRedirect.Port.Group
import PodRedirect.Proofs.Decimal

/-!
# Groups of ports and what they stand for

Tokens are read to ranges, ranges are put into groups, and a group is written as the destinations of
a rule. None of the three steps loses a port or adds one: the destinations of all groups, read back,
are the ranges that the tokens stand for, in their order.

## Main definitions

* `PortRange.contains`: a port lies in a range
* `PortRange.ofDestination?`, `Port.destinations?`: a destination of a rule, and all of them
* `Port.exempts`: a port lies in the range of some token

## Main results

* `PortRange.ofDestination?_destination`, `Port.destinations?_intercalate`: destinations are read
  back
* `Port.pack_flatten`: groups keep the ranges and their order
* `Port.any_pack`: a port lies in a range of some group if and only if it lies in the range of some
  token
-/

namespace PodRedirect

open Text

/-! ## Destinations -/

namespace PortRange

/-- A port lies in the range. -/
def contains (r : PortRange) (port : Nat) : Bool := r.lower ≤ port && port ≤ r.upper

/-- The range that a destination of a rule gives. -/
def ofDestination? (text : String) : Option PortRange :=
  match fields ':' text with
  | [port] => (integer? port).map fun n => ⟨n, n⟩
  | [first, second] => do return ⟨← integer? first, ← integer? second⟩
  | _ => none

theorem not_mem_toString {c : Char} (hdigit : c.isDigit = false) (hsign : c ≠ '-') (n : Int) :
    c ∉ (toString n).toList := by
  intro hc
  rcases isDigit_of_mem_toString hc with h | h
  · rw [hdigit] at h
    cases h
  · exact hsign h

/-- A destination holds digits, signs and colons only. -/
theorem not_mem_destination {c : Char} (hdigit : c.isDigit = false) (hsign : c ≠ '-')
    (hcolon : c ≠ ':') (r : PortRange) : c ∉ r.destination.toList := by
  have hnumber := not_mem_toString hdigit hsign
  unfold destination
  split
  · exact hnumber _
  · rw [String.toList_append, String.toList_append, List.mem_append, List.mem_append]
    rintro ((h | h) | h)
    · exact hnumber _ h
    · exact hcolon (by simpa using h)
    · exact hnumber _ h

/-- **A range is read back from its destination.** -/
theorem ofDestination?_destination (r : PortRange) : ofDestination? r.destination = some r := by
  have hcolon := not_mem_toString (c := ':') (by decide) (by decide)
  obtain ⟨lower, upper⟩ := r
  by_cases h : lower = upper
  · subst h
    have hdestination : destination ⟨lower, lower⟩ = toString lower := by
      rw [destination, isSingle, if_pos (decide_eq_true rfl)]
    rw [hdestination, ofDestination?, fields_of_not_mem (hcolon lower)]
    simp only [integer?_toString]
    rfl
  · have hdestination : destination ⟨lower, upper⟩ = toString lower ++ ":" ++ toString upper := by
      rw [destination, isSingle, if_neg (by simpa using h)]
    have hfields := fields_append_append (hcolon lower) (hcolon upper)
    rw [show String.singleton ':' = ":" from rfl] at hfields
    rw [hdestination, ofDestination?, hfields]
    simp only [integer?_toString]
    rfl

end PortRange

namespace Port

/-- The ranges that the destinations of a rule give. -/
def destinations? (text : String) : Option (List PortRange) :=
  (fields ',' text).mapM PortRange.ofDestination?

/-- Every destination of a rule is a piece of its own. -/
theorem fields_destinations {rs : List PortRange} (hne : rs ≠ []) :
    fields ',' (",".intercalate (rs.map PortRange.destination)) =
      rs.map PortRange.destination := by
  have hpieces : ∀ s ∈ rs.map PortRange.destination, ',' ∉ s.toList := by
    intro s hs
    obtain ⟨r, -, rfl⟩ := List.mem_map.mp hs
    exact PortRange.not_mem_destination (by decide) (by decide) (by decide) r
  have hfields := fields_intercalate hpieces (by simpa using hne)
  rwa [show String.singleton ',' = "," from rfl] at hfields

/-- The ranges of a group are read back from the destinations of its rule. -/
theorem destinations?_intercalate {rs : List PortRange} (hne : rs ≠ []) :
    destinations? (",".intercalate (rs.map PortRange.destination)) = some rs := by
  rw [destinations?, fields_destinations hne]
  -- every destination is read back by itself
  clear hne
  induction rs with
  | nil => rfl
  | cons r rs ih =>
    rw [List.map_cons, List.mapM_cons, PortRange.ofDestination?_destination, ih]
    rfl

/-! ## Groups -/

theorem packFrom_flatten (capacity : Int) (current : List PortRange) (cost : Nat)
    (rs : List PortRange) : (packFrom capacity current cost rs).flatten = current ++ rs := by
  induction rs generalizing current cost with
  | nil => simp [packFrom]
  | cons r rs ih =>
    rw [packFrom]
    -- either the current group is closed and the range opens the next one, or it is added
    split
    · rw [List.flatten_cons, ih, List.singleton_append]
    · rw [ih, List.append_assoc, List.singleton_append]

/-- **Groups keep the ranges and their order.** -/
theorem pack_flatten (capacity : Int) (rs : List PortRange) : (pack capacity rs).flatten = rs := by
  rw [pack, packFrom_flatten, List.nil_append]

/-! ## Tokens -/

/-- The token is a range, or it is refused: its numbers are short enough to be read. -/
def Legible (token : String) : Prop :=
  ∀ f, PortRange.parse (.text token) ≠ .error (.numeral f)

instance (token : String) : Decidable (Legible token) :=
  match h : PortRange.parse (.text token) with
  | .ok _ => isTrue fun _ hf => nomatch h.symm.trans hf
  | .error (.refused _) => isTrue fun _ hf => nomatch h.symm.trans hf
  | .error (.numeral f) => isFalse fun hl => hl f h

/-- A port lies in the range of some token. A token that is refused stands for no port. -/
def exempts (tokens : List String) (port : Nat) : Bool :=
  tokens.any fun token =>
    match PortRange.parse (.text token) with
    | .ok r => r.contains port
    | .error _ => false

/-- The reading reaches the end of the tokens if and only if every token is a range or refused. -/
theorem fault_read_eq_none_iff (tokens : List String) :
    (read (tokens.map Value.text)).fault = none ↔ ∀ token ∈ tokens, Legible token := by
  induction tokens with
  | nil => simp [read]
  | cons token tokens ih =>
    rw [List.map_cons, read, List.forall_mem_cons, ← ih]
    cases h : PortRange.parse (.text token) with
    | ok r => simp [Legible, h]
    | error f =>
      cases f with
      | refused r => simp [Legible, h]
      | numeral f => simp [Legible, h]

/-- The ranges that are accepted are those of the tokens. -/
theorem any_accepted {tokens : List String} (h : (read (tokens.map Value.text)).fault = none)
    (port : Nat) :
    (read (tokens.map Value.text)).accepted.any (·.contains port) = exempts tokens port := by
  induction tokens with
  | nil => rfl
  | cons token tokens ih =>
    rw [List.map_cons, read] at h ⊢
    rw [exempts, List.any_cons, ← exempts]
    cases hparse : PortRange.parse (.text token) with
    | ok r =>
      rw [hparse] at h
      simp only [List.any_cons]
      rw [ih h]
    | error f =>
      rw [hparse] at h
      cases f with
      | refused r => simpa using ih h
      -- the reading would have ended here
      | numeral f => cases h

/-- **No port is lost or added in the grouping.** -/
theorem any_pack {tokens : List String} (h : (read (tokens.map Value.text)).fault = none)
    (capacity : Int) (port : Nat) :
    ((pack capacity (read (tokens.map Value.text)).accepted).any fun g =>
      g.any (·.contains port)) = exempts tokens port := by
  rw [← any_accepted h, ← List.any_flatten, pack_flatten]

end Port

end PodRedirect
