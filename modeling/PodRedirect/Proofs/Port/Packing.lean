import PodRedirect.Proofs.Port.Reading

/-!
# Groups within a capacity

Ranges are packed in their order, each into the group begun last if that has room for it. A group
that is within the capacity, handed over range by range, is taken into the current group, or it
closes the current group once and then all of the rest fits into the next one. So no division of the
ranges into groups within the capacity has fewer groups than the packing.

## Main definitions

* `Port.Joins`: a range joins the group begun so far
* `Port.Division`: consecutive groups of ranges within a capacity

## Main results

* `Port.packFrom_of_joins`, `Port.packFrom_of_not_joins`: one more range
* `Port.packFrom_append_group`: one more group of ranges
* `Port.fill_lossless`: the groups for tokens hold what the tokens stand for, within the capacity
* `Port.multiport_least`: no division has fewer groups
-/

namespace PodRedirect.Port

variable {capacity : Int} {g : List PortRange}

/-! ## One more range -/

/-- The range joins the group begun so far, which has no range yet or has room for it. -/
def Joins (capacity : Int) (current : List PortRange) (r : PortRange) : Prop :=
  current = [] ∨ (cost (current ++ [r]) : Int) ≤ capacity

section Step

variable {current : List PortRange} {r : PortRange}

theorem joins_iff : Joins capacity current r ↔
    (!current.isEmpty && capacity < cost current + r.cost) = false := by
  rw [Joins, cost_append_singleton, Bool.and_eq_false_iff, Bool.not_eq_false', List.isEmpty_iff,
    decide_eq_false_iff_not]
  exact or_congr Iff.rfl (by omega)

theorem packFrom_of_joins (h : Joins capacity current r) (rs : List PortRange) :
    packFrom capacity current (cost current) (r :: rs) =
      packFrom capacity (current ++ [r]) (cost (current ++ [r])) rs := by
  rw [packFrom, joins_iff.mp h, cost_append_singleton]
  rfl

/-- A range that does not join a group closes it, and begins the next one. -/
theorem packFrom_of_not_joins (h : ¬ Joins capacity current r) (rs : List PortRange) :
    packFrom capacity current (cost current) (r :: rs) =
      current :: packFrom capacity [r] (cost [r]) rs := by
  rw [joins_iff, Bool.not_eq_false] at h
  rw [packFrom, h, cost_singleton]
  rfl

end Step

theorem cost_append (rs ss : List PortRange) : cost (rs ++ ss) = cost rs + cost ss := by
  simp [cost]

/-- A group that begins with what is begun so far has nothing but one range, or is within the
capacity. -/
theorem fits_of_mem_packFrom {current rs : List PortRange} (hne : current ++ rs ≠ [])
    (hcurrent : current = [] ∨ (cost current : Int) ≤ capacity ∨ current.length = 1)
    (hg : g ∈ packFrom capacity current (cost current) rs) :
    g ≠ [] ∧ ((cost g : Int) ≤ capacity ∨ g.length = 1) := by
  induction rs generalizing current with
  | nil =>
    obtain rfl := List.mem_singleton.mp hg
    rw [List.append_nil] at hne
    exact ⟨hne, hcurrent.resolve_left hne⟩
  | cons r rs ih =>
    by_cases hjoins : Joins capacity current r
    · rw [packFrom_of_joins hjoins] at hg
      refine ih (by simp) (Or.inr ?_) hg
      rcases hjoins with rfl | hroom
      · exact Or.inr rfl
      · exact Or.inl hroom
    · rw [packFrom_of_not_joins hjoins] at hg
      have hbegun : current ≠ [] := fun h => hjoins (Or.inl h)
      rcases List.mem_cons.mp hg with rfl | hg
      · exact ⟨hbegun, hcurrent.resolve_left hbegun⟩
      · exact ih (by simp) (Or.inr (Or.inr rfl)) hg

/-- No group is empty, and each of them is within the capacity or has one range only. -/
theorem fits_of_mem_pack {rs : List PortRange} (hne : rs ≠ []) (hg : g ∈ pack capacity rs) :
    g ≠ [] ∧ ((cost g : Int) ≤ capacity ∨ g.length = 1) :=
  fits_of_mem_packFrom (List.nil_append rs ▸ hne) (Or.inl rfl) hg

/-- **The groups for tokens hold what the tokens stand for.** One pass over tokens that can be read
reports each token that is refused once, in order and with its refusal, and gives the destinations
of groups that together are the ranges of the other tokens, in order. A group is within the
capacity, unless it has one range only; where no token is a range there is one group that is empty,
which costs nothing and still is more than a negative capacity. -/
theorem fill_lossless {m : Type → Type} [Monad m] [LawfulMonad m]
    (report : Value → Refusal → m Unit) (capacity : Int) (ports : Option (List Value))
    (readable : ∀ token ∈ ports.getD [], Readable token) :
    ∃ gs : List (List PortRange),
      (fill report capacity ports).run = (do
        forM (refusals (ports.getD [])) fun (token, r) => report token r
        return .ok (gs.map fun g => g.map PortRange.destination)) ∧
      gs.flatten = ranges (ports.getD []) ∧
      (∀ g ∈ gs, (cost g : Int) ≤ capacity ∨ g.length = 1 ∨ g = [] ∧ capacity < 0) ∧
      (2 ≤ capacity → ∀ g ∈ gs, (cost g : Int) ≤ capacity) ∧
      (ranges (ports.getD []) ≠ [] → [] ∉ gs) ∧
      (ports.getD [] ≠ [] → ranges (ports.getD []) = [] → gs = [[]]) ∧
      (ports.getD [] = [] → gs = []) := by
  generalize htokens : ports.getD [] = tokens at readable ⊢
  have hrun := run_fill_of_readable report capacity (htokens ▸ readable)
  rw [htokens, multiport_of_readable readable] at hrun
  refine ⟨_, hrun, ?_⟩
  by_cases hempty : tokens = []
  · subst hempty
    simp [ranges]
  rw [if_neg hempty]
  refine ⟨pack_flatten _ _, fun g hg => ?_, fun room g hg => cost_le_of_mem_pack room hg,
    fun hne hg => (fits_of_mem_pack hne hg).1 rfl, fun _ hnone => ?_, fun h => absurd h hempty⟩
  · by_cases hnone : ranges tokens = []
    · -- the only group is the empty one
      rw [hnone] at hg
      obtain rfl := List.mem_singleton.mp hg
      by_cases hcapacity : capacity < 0
      · exact Or.inr (Or.inr ⟨rfl, hcapacity⟩)
      · exact Or.inl (by simpa [cost] using hcapacity)
    · exact (fits_of_mem_pack hnone hg).2.imp_right Or.inl
  · rw [hnone]
    rfl

/-- Ports, a range and a token that stands for none, which is reported to the log. -/
theorem fill_lossless_mixed :
    (∀ token ∈ [.text "22", .text "http", .text "25-27", .int 33], Readable token) ∧
    ∃ gs : List (List PortRange),
      (fill logRefused 2 (some [.text "22", .text "http", .text "25-27", .int 33])).run = (do
        logRefused (.text "http") ⟨.text "http", "http", .noRange⟩
        return .ok (gs.map fun g => g.map PortRange.destination)) ∧
      gs.flatten = [⟨22, 22⟩, ⟨25, 27⟩, ⟨33, 33⟩] ∧
      (∀ g ∈ gs, (cost g : Int) ≤ 2) ∧ [] ∉ gs := by
  have hreadable : ∀ token ∈ [.text "22", .text "http", .text "25-27", .int 33],
      Readable token := by decide +kernel
  obtain ⟨gs, hrun, hflatten, -, hwithin, hfilled, -⟩ :=
    fill_lossless logRefused 2 (some [.text "22", .text "http", .text "25-27", .int 33]) hreadable
  refine ⟨hreadable, gs, hrun, hflatten, hwithin (by decide), hfilled ?_⟩
  exact List.cons_ne_nil _ _

/-- Below zero, even the group that is empty is over the capacity, and has no single range. -/
theorem fill_overfull :
    (∀ token ∈ [.text "http"], Readable token) ∧
    ¬ ∃ gs : List (List PortRange),
      (fill (fun _ _ => pure ()) (-1) (some [.text "http"]) : ExceptT Numeral.Fault Id _).run =
        pure (.ok (gs.map fun g => g.map PortRange.destination)) ∧
      ∀ g ∈ gs, (cost g : Int) ≤ -1 ∨ g.length = 1 := by
  refine ⟨by decide +kernel, ?_⟩
  rintro ⟨gs, hrun, hfits⟩
  have hgroups : gs.map (fun g => g.map PortRange.destination) = [[]] :=
    (Except.ok.inj hrun).symm
  obtain ⟨g, rfl, hg⟩ := List.map_eq_singleton_iff.mp hgroups
  obtain rfl := List.map_eq_nil_iff.mp hg
  simpa [cost] using hfits [] (List.mem_singleton_self [])

/-! ## One more group -/

/-- A group for which the current one has room is taken into it. -/
theorem packFrom_append_of_fits {current : List PortRange}
    (h : (cost (current ++ g) : Int) ≤ capacity) (rs : List PortRange) :
    packFrom capacity current (cost current) (g ++ rs) =
      packFrom capacity (current ++ g) (cost (current ++ g)) rs := by
  induction g generalizing current with
  | nil => simp
  | cons r g ih =>
    rw [List.append_cons] at h
    have hjoins : Joins capacity current r := by
      rw [cost_append] at h
      exact Or.inr (by omega)
    rw [List.cons_append, packFrom_of_joins hjoins, ih h, ← List.append_cons]

/-- **A group within the capacity closes the current group once at most**, and then all of it that
is left is in the next one. -/
theorem packFrom_append_group (h : (cost g : Int) ≤ capacity) (current rs : List PortRange) :
    packFrom capacity current (cost current) (g ++ rs) =
        packFrom capacity (current ++ g) (cost (current ++ g)) rs ∨
      ∃ taken left, g = taken ++ left ∧
        packFrom capacity current (cost current) (g ++ rs) =
          (current ++ taken) :: packFrom capacity left (cost left) rs := by
  induction g generalizing current with
  | nil => exact Or.inl (by simp)
  | cons r g ih =>
    rw [List.cons_append]
    by_cases hjoins : Joins capacity current r
    · have hrest : (cost g : Int) ≤ capacity := by
        rw [← List.singleton_append, cost_append] at h
        omega
      rw [packFrom_of_joins hjoins]
      rcases ih hrest (current ++ [r]) with htaken | ⟨taken, left, rfl, htaken⟩
      · exact Or.inl (by rw [htaken, ← List.append_cons])
      · exact Or.inr ⟨r :: taken, left, rfl, by rw [htaken, ← List.append_cons]⟩
    · -- the rest of the group fits, since all of it does
      have hnext : packFrom capacity [r] (cost [r]) (g ++ rs) =
          packFrom capacity (r :: g) (cost (r :: g)) rs := packFrom_append_of_fits h rs
      exact Or.inr ⟨[], r :: g, rfl, by rw [packFrom_of_not_joins hjoins, hnext, List.append_nil]⟩

/-! ## Divisions -/

/-- Ranges in their order, in groups within the capacity. -/
structure Division (capacity : Int) (rs : List PortRange) (ds : List (List PortRange)) : Prop where
  flatten : ds.flatten = rs
  within : ∀ d ∈ ds, (cost d : Int) ≤ capacity

/-- Behind a group begun so far, every group of a division closes one group at most. -/
theorem length_packFrom_le {ds : List (List PortRange)} (h : ∀ d ∈ ds, (cost d : Int) ≤ capacity)
    (current : List PortRange) :
    (packFrom capacity current (cost current) ds.flatten).length ≤ ds.length + 1 := by
  induction ds generalizing current with
  | nil => simp [packFrom]
  | cons d ds ih =>
    rw [List.forall_mem_cons] at h
    rw [List.flatten_cons, List.length_cons]
    rcases packFrom_append_group h.1 current ds.flatten with heq | ⟨taken, left, -, heq⟩
    · have hrest := ih h.2 (current ++ d)
      rw [heq]
      omega
    · have hrest := ih h.2 left
      rw [heq, List.length_cons]
      omega

/-- A packing has no more groups than any division of the same ranges. -/
theorem Division.length_pack_le {rs : List PortRange} {ds : List (List PortRange)}
    (h : Division capacity rs ds) (hne : rs ≠ []) : (pack capacity rs).length ≤ ds.length := by
  obtain ⟨rfl, hwithin⟩ := h
  cases ds with
  | nil => exact absurd rfl hne
  | cons d ds =>
    rw [List.forall_mem_cons] at hwithin
    -- the first group of the division closes none
    have hfirst : pack capacity (d ++ ds.flatten) = packFrom capacity d (cost d) ds.flatten :=
      packFrom_append_of_fits hwithin.1 ds.flatten
    rw [List.flatten_cons, hfirst]
    exact length_packFrom_le hwithin.2 d

/-- **No division has fewer groups.** The groups for tokens that can be read, one of them a range,
are a division of the ranges within a capacity of two or more, and no division of these ranges has
fewer groups. -/
theorem multiport_least {capacity : Int} (room : 2 ≤ capacity) {tokens : List Value}
    (readable : ∀ token ∈ tokens, Readable token) (accepted : ranges tokens ≠ []) :
    ∃ gs : List (List PortRange),
      multiport capacity tokens = .ok (gs.map fun g => g.map PortRange.destination) ∧
      Division capacity (ranges tokens) gs ∧
      ∀ ds, Division capacity (ranges tokens) ds → gs.length ≤ ds.length := by
  have hne : tokens ≠ [] := by
    rintro rfl
    exact accepted rfl
  have hgroups := multiport_of_readable readable capacity
  rw [if_neg hne] at hgroups
  exact ⟨_, hgroups, ⟨pack_flatten _ _, fun g hg => cost_le_of_mem_pack room hg⟩,
    fun ds hds => hds.length_pack_le accepted⟩

/-- Two ranges and a port do not fit into one group of three references. -/
theorem multiport_least_three :
    (2 : Int) ≤ 3 ∧
    (∀ token ∈ [.text "1-2", .text "http", .text "3", .text "4-5"], Readable token) ∧
    ranges [.text "1-2", .text "http", .text "3", .text "4-5"] ≠ [] ∧
    multiport 3 [.text "1-2", .text "http", .text "3", .text "4-5"] =
      .ok [["1:2", "3"], ["4:5"]] ∧
    ∀ ds, Division 3 [⟨1, 2⟩, ⟨3, 3⟩, ⟨4, 5⟩] ds → 2 ≤ ds.length := by
  have hreadable : ∀ token ∈ [.text "1-2", .text "http", .text "3", .text "4-5"],
      Readable token := by decide +kernel
  have haccepted : ranges [.text "1-2", .text "http", .text "3", .text "4-5"] ≠ [] :=
    List.cons_ne_nil _ _
  have hgroups : multiport 3 [.text "1-2", .text "http", .text "3", .text "4-5"] =
      .ok [["1:2", "3"], ["4:5"]] := rfl
  obtain ⟨gs, heq, -, hleast⟩ := multiport_least (by decide : (2 : Int) ≤ 3) hreadable haccepted
  have hlength : gs.length = 2 := by
    have hmap := Except.ok.inj (heq.symm.trans hgroups)
    simpa using congrArg List.length hmap
  exact ⟨by decide, hreadable, haccepted, hgroups, fun ds hds => hlength ▸ hleast ds hds⟩

end PodRedirect.Port
