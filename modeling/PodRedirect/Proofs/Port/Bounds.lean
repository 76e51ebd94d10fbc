import Mathlib.Algebra.GroupWithZero.Nat
import PodRedirect.Proofs.Port.Group
import PodRedirect.Proofs.Port.Verdict

/-!
# Ports within bounds

What is read as a port is one, the bounds of a range are ports and in order, and the ranges of a
group together cost no more port references than a rule may have.

## Main definitions

* `PortRange.Valid`: both bounds are ports, and in order
* `Port.cost`: the port references that ranges cost

## Main results

* `Port.isValid_of_parse`, `PortRange.valid_of_parse`: what is read is valid
* `Port.cost_le_of_mem_pack`: groups stay within their capacity
* `Port.exists_of_mem_multiport`: the groups for tokens are those of valid ranges
-/

namespace PodRedirect

/-- Both bounds of the range are ports, and in order. -/
structure PortRange.Valid (r : PortRange) : Prop where
  lower : Port.isValid r.lower = true
  upper : Port.isValid r.upper = true
  ordered : r.lower ≤ r.upper

namespace Port

/-! ## Ports and ranges -/

variable {token : Value}

theorem isValid_iff {n : Int} : isValid n = true ↔ 0 ≤ n ∧ n ≤ 65535 := by
  rw [isValid, bounds, Bool.and_eq_true, decide_eq_true_eq, decide_eq_true_eq]

/-- The number that a text writes is only taken for a port if it is one. -/
theorem isValid_of_number? {cs : List Char} {n : Int} (h : number? cs = .ok (some n)) :
    isValid n = true := by
  unfold number? at h
  split at h
  · cases h
  · cases h
  · split at h
    · cases h
      assumption
    · cases h

/-- **What is read as a port is one.** -/
theorem isValid_of_parse {n : Int} (h : parse token = .ok n) : isValid n = true := by
  obtain ⟨text, -, h⟩ := of_bind_ok h
  obtain ⟨found, hfound, h⟩ := of_bind_ok h
  cases found with
  | none => cases h
  | some m =>
    cases h
    exact isValid_of_number? (of_mapError_ok hfound)

end Port

/-- **The bounds of a range that is read are ports, and in order.** -/
theorem PortRange.valid_of_parse {token : Value} {r : PortRange}
    (h : PortRange.parse token = .ok r) : r.Valid := by
  obtain ⟨text, -, hverdict⟩ := Port.parse_eq_ok_iff.mp h
  rcases Port.bounds_of_verdict hverdict with
    ⟨n, hnumber, rfl⟩ | ⟨first, second, lower, upper, -, hlower, hupper, hordered, rfl⟩
  · -- a number alone is both bounds
    have hvalid := Port.isValid_of_number? hnumber
    exact ⟨hvalid, hvalid, Int.le_refl n⟩
  · exact ⟨Port.isValid_of_number? hlower, Port.isValid_of_number? hupper, hordered⟩

namespace Port

theorem valid_of_mem_accepted {tokens : List Value} {r : PortRange}
    (h : r ∈ (read tokens).accepted) : r.Valid := by
  induction tokens with
  | nil => cases h
  | cons token tokens ih =>
    rw [read] at h
    cases hparse : PortRange.parse token with
    | ok range =>
      rw [hparse] at h
      rcases List.mem_cons.mp h with rfl | h
      · exact PortRange.valid_of_parse hparse
      · exact ih h
    | error f =>
      rw [hparse] at h
      cases f with
      | refused r' =>
        -- a token that is refused is passed over
        exact ih h
      | numeral f => cases h

/-! ## Groups -/

/-- The port references that ranges cost. -/
def cost (rs : List PortRange) : Nat := (rs.map PortRange.cost).sum

theorem cost_append_singleton (rs : List PortRange) (r : PortRange) :
    cost (rs ++ [r]) = cost rs + r.cost := by
  simp [cost]

theorem cost_singleton (r : PortRange) : cost [r] = r.cost := by
  simp [cost]

/-- A range costs no more than two port references. -/
theorem cost_le_two (r : PortRange) : r.cost ≤ 2 := by
  unfold PortRange.cost
  split <;> decide

/-- A group that is within the capacity stays so, and so do those that are begun after it, if there
is room for a range in a group of its own. -/
theorem cost_le_of_mem_packFrom {capacity : Int} (room : 2 ≤ capacity) {current : List PortRange}
    (within : cost current ≤ capacity) {rs g : List PortRange}
    (hg : g ∈ packFrom capacity current (cost current) rs) : cost g ≤ capacity := by
  -- the cost that is carried along is that of the current group
  induction rs generalizing current with
  | nil => exact List.mem_singleton.mp hg ▸ within
  | cons r rs ih =>
    have hr := cost_le_two r
    rw [packFrom] at hg
    split at hg
    · -- the range does not fit: the current group is done, and the range begins another
      rcases List.mem_cons.mp hg with rfl | hg
      · exact within
      · rw [← cost_singleton] at hg
        refine ih ?_ hg
        rw [cost_singleton]
        omega
    · -- the range joins the current group, which has no range yet or room for this one
      rename_i hfits
      rw [← cost_append_singleton] at hg
      refine ih ?_ hg
      rw [cost_append_singleton]
      cases current with
      | nil =>
        simp only [cost, List.map_nil, List.sum_nil]
        omega
      | cons x xs =>
        simp only [List.isEmpty_cons, Bool.not_false, Bool.true_and, decide_eq_true_eq] at hfits
        omega

/-- **Groups stay within their capacity**, if that has room for a range. -/
theorem cost_le_of_mem_pack {capacity : Int} (room : 2 ≤ capacity) {rs g : List PortRange}
    (hg : g ∈ pack capacity rs) : cost g ≤ capacity :=
  cost_le_of_mem_packFrom room (by simp [cost]; omega) hg

/-- The groups of destinations for tokens are those of valid ranges within the capacity. -/
theorem exists_of_mem_multiport {capacity : Int} (room : 2 ≤ capacity) {tokens : List Value}
    {groups : List (List String)} (h : multiport capacity tokens = .ok groups) {g : List String}
    (hg : g ∈ groups) :
    ∃ rs : List PortRange, g = rs.map PortRange.destination ∧ (∀ r ∈ rs, r.Valid) ∧
      cost rs ≤ capacity := by
  unfold multiport at h
  split at h
  · cases h
  · cases h
    unfold Port.groups at hg
    split at hg
    · cases hg
    · obtain ⟨rs, hrs, rfl⟩ := List.mem_map.mp hg
      refine ⟨rs, rfl, fun r hr => ?_, cost_le_of_mem_pack room hrs⟩
      -- the groups together are the ranges that were read
      have hmem : r ∈ (pack capacity (read tokens).accepted).flatten :=
        List.mem_flatten.mpr ⟨rs, hrs, hr⟩
      rw [pack_flatten] at hmem
      exact valid_of_mem_accepted hmem

end Port

end PodRedirect
