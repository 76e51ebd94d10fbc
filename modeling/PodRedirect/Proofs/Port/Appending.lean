import PodRedirect.Proofs.Direction
import PodRedirect.Proofs.Port.Packing

/-!
# Groups of longer lists

A packing never goes back to a group that it has closed. So what is packed behind ranges goes on
with the last group of these ranges, which may grow, and leaves the groups before it as they are.
Tokens that are added at the end of a list leave the rules for all groups but the last one as they
were.

## Main results

* `Port.packFrom_append`: a packing goes on with the last group
* `Port.multiport_append`: the groups and the rules for a list of tokens, and for a longer one
-/

namespace PodRedirect

namespace Port

variable (capacity : Int)

/-- What is packed behind ranges goes on with the last group of these. -/
theorem packFrom_append (current : List PortRange) (rs ss : List PortRange) :
    ∃ closed last, packFrom capacity current (cost current) rs = closed ++ [last] ∧
      packFrom capacity current (cost current) (rs ++ ss) =
        closed ++ packFrom capacity last (cost last) ss := by
  induction rs generalizing current with
  | nil => exact ⟨[], current, rfl, rfl⟩
  | cons r rs ih =>
    rw [List.cons_append]
    by_cases hjoins : Joins capacity current r
    · rw [packFrom_of_joins hjoins, packFrom_of_joins hjoins]
      exact ih (current ++ [r])
    · -- the current group is closed, and is so in both
      rw [packFrom_of_not_joins hjoins, packFrom_of_not_joins hjoins]
      obtain ⟨closed, last, hrs, happend⟩ := ih [r]
      exact ⟨current :: closed, last, congrArg (current :: ·) hrs, congrArg (current :: ·) happend⟩

/-- A group begun so far keeps its ranges, and more may follow them. -/
theorem exists_packFrom_eq_cons (current rs : List PortRange) :
    ∃ added more, packFrom capacity current (cost current) rs = (current ++ added) :: more := by
  induction rs generalizing current with
  | nil => exact ⟨[], [], by rw [packFrom, List.append_nil]⟩
  | cons r rs ih =>
    by_cases hjoins : Joins capacity current r
    · obtain ⟨added, more, heq⟩ := ih (current ++ [r])
      exact ⟨r :: added, more, by rw [packFrom_of_joins hjoins, heq, ← List.append_cons]⟩
    · exact ⟨[], _, by rw [packFrom_of_not_joins hjoins, List.append_nil]⟩

/-- The groups of more ranges are those of the first ones, but that the last one may grow and others
may follow. -/
theorem pack_append (rs ss : List PortRange) :
    ∃ closed last added more, pack capacity rs = closed ++ [last] ∧
      pack capacity (rs ++ ss) = closed ++ (last ++ added) :: more := by
  obtain ⟨closed, last, hrs, happend⟩ := packFrom_append capacity [] rs ss
  obtain ⟨added, more, hmore⟩ := exists_packFrom_eq_cons capacity last ss
  exact ⟨closed, last, added, more, hrs, happend.trans (congrArg (closed ++ ·) hmore)⟩

variable {xs ys : List Value}

/-- The same for tokens that can be read, if there are some to begin with. -/
theorem exists_multiport_append (hne : xs ≠ []) (readable : ∀ token ∈ xs ++ ys, Readable token) :
    ∃ closed last added more, multiport capacity xs = .ok (closed ++ [last]) ∧
      multiport capacity (xs ++ ys) = .ok (closed ++ (last ++ added) :: more) := by
  have hxs : ∀ token ∈ xs, Readable token := fun token htoken =>
    readable token (List.mem_append_left ys htoken)
  have happend : ranges (xs ++ ys) = ranges xs ++ ranges ys := List.filterMap_append
  obtain ⟨closed, last, added, more, hpack, hpacked⟩ :=
    pack_append capacity (ranges xs) (ranges ys)
  refine ⟨closed.map (·.map PortRange.destination), last.map PortRange.destination,
    added.map PortRange.destination, more.map (·.map PortRange.destination), ?_, ?_⟩
  · rw [multiport_of_readable hxs, if_neg hne, hpack]
    simp
  · rw [multiport_of_readable readable, if_neg (List.append_ne_nil_of_left_ne_nil hne ys), happend,
      hpacked]
    simp

end Port

/-! ## Rules -/

namespace Compiler

/-- The rules for all groups but the last one stay where tokens are added. -/
theorem dropLast_commands_isPrefix {xs ys : List Value} (hne : xs ≠ [])
    (readable : ∀ token ∈ xs ++ ys, Port.Readable token) (traceId chain : String) :
    (commands (ignorePorts traceId chain xs)).dropLast <+:
      commands (ignorePorts traceId chain (xs ++ ys)) := by
  obtain ⟨closed, last, added, more, hxs, happend⟩ :=
    Port.exists_multiport_append Port.referenceLimit hne readable
  rw [commands_ignorePorts traceId hxs, commands_ignorePorts traceId happend, List.filter_append,
    List.filter_append, List.map_append, List.map_append]
  refine List.IsPrefix.trans ?_ (List.prefix_append _ _)
  -- a last group that is empty has no rule
  cases last with
  | nil =>
    rw [List.filter_cons_of_neg (by simp), List.filter_nil, List.map_nil, List.append_nil]
    exact List.dropLast_prefix _
  | cons d ds =>
    rw [List.filter_cons_of_pos (by simp), List.filter_nil, List.map_singleton,
      List.dropLast_concat]

end Compiler

namespace Port

/-- **Groups that are closed stay as they are.** Behind tokens, more of them leave all groups but
the last one as they were, and this one in its place, with its destinations in front. So they leave
all rules but the last one as they were. -/
theorem multiport_append (capacity : Int) {xs ys : List Value} (hne : xs ≠ [])
    (readable : ∀ token ∈ xs ++ ys, Readable token) :
    ∃ gs hs : List (List String),
      multiport capacity xs = .ok gs ∧ multiport capacity (xs ++ ys) = .ok hs ∧
      gs.dropLast <+: hs ∧
      (∃ last grown, gs.getLast? = some last ∧ hs[gs.length - 1]? = some grown ∧
        last <+: grown) ∧
      ∀ traceId chain,
        (Compiler.commands (Compiler.ignorePorts traceId chain xs)).dropLast <+:
          Compiler.commands (Compiler.ignorePorts traceId chain (xs ++ ys)) := by
  obtain ⟨closed, last, added, more, hxs, happend⟩ :=
    exists_multiport_append capacity hne readable
  refine ⟨_, _, hxs, happend, ?_, ⟨last, last ++ added, ?_, ?_, List.prefix_append last added⟩,
    Compiler.dropLast_commands_isPrefix hne readable⟩
  · rw [List.dropLast_concat]
    exact List.prefix_append closed _
  · rw [List.getLast?_concat]
  · rw [List.length_append, List.length_singleton, Nat.add_sub_cancel,
      List.getElem?_append_right (Nat.le_refl _), Nat.sub_self, List.getElem?_cons_zero]

/-- A refused token ends the first list. The second one completes the open group and begins
another. -/
theorem multiport_append_refused :
    [Value.text "1-2", .text "3", .text "http"] ≠ [] ∧
    (∀ token ∈ [Value.text "1-2", .text "3", .text "http"] ++ [.text "4", .text "5-6"],
      Readable token) ∧
    ∃ gs hs : List (List String),
      multiport 2 [.text "1-2", .text "3", .text "http"] = .ok gs ∧
      multiport 2 ([.text "1-2", .text "3", .text "http"] ++ [.text "4", .text "5-6"]) = .ok hs ∧
      gs = [["1:2"], ["3"]] ∧ hs = [["1:2"], ["3", "4"], ["5:6"]] ∧ gs.dropLast <+: hs := by
  have hreadable : ∀ token ∈ [Value.text "1-2", .text "3", .text "http"] ++
      [.text "4", .text "5-6"], Readable token := by decide +kernel
  have hne : [Value.text "1-2", .text "3", .text "http"] ≠ [] := List.cons_ne_nil _ _
  obtain ⟨gs, hs, hxs, happend, hclosed, -⟩ := multiport_append 2 hne hreadable
  exact ⟨hne, hreadable, gs, hs, hxs, happend, (Except.ok.inj hxs).symm,
    (Except.ok.inj happend).symm, hclosed⟩

end Port

end PodRedirect
