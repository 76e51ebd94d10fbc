import PodRedirect.Proofs.Decimal
import PodRedirect.Proofs.Pattern
import PodRedirect.Proofs.Table.Signature
import PodRedirect.Proofs.Text

/-!
# What a scan looks for

A scan of a listing looks for four patterns, each of which starts at the start of a line and stays
on that line. So it finds in a listing what it finds in the lines, one by one, and neither the order
of the lines nor how often they come makes a difference.

## Main definitions

* `Direction.chainPattern`, `Direction.jumpPattern`: the patterns for the chain of a direction and
  for the jump to it
* `Direction.DeclaredBy`, `Direction.JumpedBy`: what a line says of them
* `Installed.union`: what two listings say together

## Main results

* `Installed.scan_chain_eq_search`, `Installed.scan_jump_eq_search`: a scan is a search for the
  patterns
* `Installed.scan_append`: a scan of two listings, one below the other
* `Installed.scan_byLines`: what a scan sees in a listing, and in a line of it
-/

namespace PodRedirect

open Pattern (LineStarts)

/-! ## Parts of lines -/

section Lines

variable {text : List Char} {P : List Char → Prop}

/-- Every line of a text stands in it at the start of a line. -/
theorem exists_of_mem_lines {line : List Char} (h : line ∈ text.splitOn '\n') :
    ∃ before after, text = before ++ line ++ after ∧ LineStarts before := by
  obtain ⟨above, below, hlines⟩ := List.append_of_mem h
  have htext : ['\n'].intercalate (above ++ line :: below) = text := by
    rw [← hlines]
    exact List.intercalate_splitOn '\n'
  rw [← htext]
  clear hlines htext h
  -- the lines above it are taken off one by one
  induction above with
  | nil =>
    cases below with
    | nil => exact ⟨[], [], by simp, nofun⟩
    | cons next rest =>
      refine ⟨[], '\n' :: ['\n'].intercalate (next :: rest), ?_, nofun⟩
      rw [List.nil_append, List.nil_append, List.intercalate_cons_cons, List.append_assoc]
      rfl
  | cons first above ih =>
    obtain ⟨before, after, hrest, hstart⟩ := ih
    refine ⟨first ++ '\n' :: before, after, ?_, ?_⟩
    · obtain ⟨next, rest, hne⟩ := List.exists_cons_of_ne_nil
        (List.append_ne_nil_of_right_ne_nil above (List.cons_ne_nil line below))
      rw [List.cons_append, hne, List.intercalate_cons_cons, ← hne, hrest]
      simp
    · intro c hc
      rcases List.eq_nil_or_concat before with rfl | ⟨init, last, rfl⟩
      · simpa using hc.symm
      · have hlast : first ++ '\n' :: init.concat last = (first ++ '\n' :: init) ++ [last] := by
          simp
        rw [hlast, List.getLast?_concat] at hc
        exact hstart c (by simpa using hc)

/-- The first line of a text goes on as the text does. -/
theorem splitOn_append_of_not_mem {part : List Char} (h : '\n' ∉ part) (after : List Char) :
    (part ++ after).splitOn '\n' = (after.splitOn '\n').modifyHead (part ++ ·) := by
  induction part with
  | nil =>
    cases hlines : after.splitOn '\n' with
    | nil => exact absurd hlines (List.splitOn_ne_nil _ _)
    | cons first rest => simp [hlines]
  | cons c part ih =>
    rw [List.mem_cons, not_or] at h
    have hc : ¬ (c == '\n') = true := fun hc => h.1 (beq_iff_eq.mp hc).symm
    rw [List.cons_append, List.splitOn_cons_eq_if_modifyHead, if_neg hc, ih h.2,
      List.modifyHead_modifyHead]
    rfl

/-- **What lines start with stands in the text at the starts of lines**, and does not reach beyond
them. -/
theorem exists_mem_lines_iff :
    (∃ line ∈ text.splitOn '\n', ∃ part, part <+: line ∧ P part) ↔
      ∃ before part after, text = before ++ part ++ after ∧ LineStarts before ∧ '\n' ∉ part ∧
        P part := by
  constructor
  · rintro ⟨line, hline, part, ⟨rest, rfl⟩, hpart⟩
    have hnewline := Text.not_mem_of_mem_splitOn hline
    rw [List.mem_append, not_or] at hnewline
    obtain ⟨before, after, htext, hstart⟩ := exists_of_mem_lines hline
    exact ⟨before, part, rest ++ after, by simp [htext], hstart, hnewline.1, hpart⟩
  · rintro ⟨before, part, after, rfl, hstart, hnewline, hpart⟩
    have hline : ∃ line ∈ (part ++ after).splitOn '\n', part <+: line := by
      obtain ⟨first, rest, hlines⟩ := List.exists_cons_of_ne_nil (List.splitOn_ne_nil '\n' after)
      rw [splitOn_append_of_not_mem hnewline, hlines, List.modifyHead_cons]
      exact ⟨part ++ first, List.mem_cons_self, List.prefix_append _ _⟩
    obtain ⟨line, hmem, hstart⟩ := hline
    refine ⟨line, ?_, part, hstart, hpart⟩
    rcases List.eq_nil_or_concat before with rfl | ⟨init, last, rfl⟩
    · exact hmem
    · obtain rfl : last = '\n' := hstart last (by simp)
      have hsplit : (init ++ ['\n'] ++ part ++ after) = init ++ '\n' :: (part ++ after) := by simp
      rw [List.concat_eq_append, hsplit, List.splitOn_append_cons_self]
      exact List.mem_append_right _ hmem

end Lines

/-! ## The patterns of a scan -/

namespace Direction

open Pattern

variable (d : Direction)

/-- The pattern for the chain of a direction. -/
def chainPattern : Pattern := .seq .lineStart (.word (":" ++ d.chain ++ " ").toList)

/-- The pattern for the jump of a direction: behind the chain that it is a rule of, it comes at once
or after something and a blank. -/
def jumpPattern : Pattern :=
  .seq .lineStart (.seq (.word ("-A " ++ d.hook ++ " ").toList)
    (.seq (.optional (.seq .run (.word " ".toList))) (.word ("-j " ++ d.chain).toList)))

/-- The line declares the chain of the direction. -/
def DeclaredBy (line : String) : Prop := ∃ rest, line = ":" ++ d.chain ++ " " ++ rest

/-- The line is a rule of the chain that the packets of the direction come through, and reads like a
jump to the chain of the direction: at once, or behind something and a blank. -/
def JumpedBy (line : String) : Prop :=
  ∃ rest, line = "-A " ++ d.hook ++ " " ++ rest ∧
    ((∃ after, rest = "-j " ++ d.chain ++ after) ∨
      ∃ before after, before ≠ "" ∧ rest = before ++ " -j " ++ d.chain ++ after)

/-- What a line starts with that reads like a jump of the direction. -/
def JumpText (part : List Char) : Prop :=
  part = ("-A " ++ d.hook ++ " ").toList ++ ("-j " ++ d.chain).toList ∨
    ∃ between, between ≠ [] ∧
      part = ("-A " ++ d.hook ++ " ").toList ++ (between ++ (" -j " ++ d.chain).toList)

variable {d} {before part line : List Char}

theorem withinLine_chainPattern : d.chainPattern.WithinLine := by
  cases d <;> decide

theorem withinLine_jumpPattern : d.jumpPattern.WithinLine := by
  cases d <;> decide

theorem matches_chainPattern_iff : d.chainPattern.Matches before part ↔
    LineStarts before ∧ part = (":" ++ d.chain ++ " ").toList := by
  simp only [chainPattern, Matches]
  constructor
  · rintro ⟨first, second, rfl, ⟨rfl, hstart⟩, rfl⟩
    exact ⟨hstart, rfl⟩
  · rintro ⟨hstart, rfl⟩
    exact ⟨[], _, rfl, ⟨rfl, hstart⟩, rfl⟩

/-- What the pattern for a jump describes is within a line, so that it is told by its shape. -/
theorem matches_jumpPattern_iff : d.jumpPattern.Matches before part ↔
    LineStarts before ∧ '\n' ∉ part ∧ d.JumpText part := by
  constructor
  · intro h
    refine ⟨?_, newline_not_mem_of_matches withinLine_jumpPattern h, ?_⟩
    · obtain ⟨_, _, -, ⟨-, hstart⟩, -⟩ := h
      exact hstart
    · obtain ⟨_, _, rfl, ⟨rfl, -⟩, _, _, rfl, rfl, _, _, rfl,
        rfl | ⟨between, _, rfl, hrun, rfl⟩, rfl⟩ := h
      · exact Or.inl rfl
      · exact Or.inr ⟨between, hrun.1, by simp⟩
  · rintro ⟨hstart, hnewline, rfl | ⟨between, hne, rfl⟩⟩
    · exact ⟨[], _, rfl, ⟨rfl, hstart⟩, _, _, rfl, rfl, [], _, rfl, Or.inl rfl, rfl⟩
    · refine ⟨[], _, rfl, ⟨rfl, hstart⟩, _, _, rfl, rfl, between ++ [' '], _, by simp, Or.inr ?_,
        rfl⟩
      refine ⟨between, [' '], rfl, ⟨hne, fun hmem => hnewline ?_⟩, rfl⟩
      simp [hmem]

/-- A line declares a chain if it starts so. -/
theorem declares_iff_start : Installed.declares d.chain line = true ↔
    ∃ part, part <+: line ∧ part = (":" ++ d.chain ++ " ").toList := by
  simp [Installed.declares, List.isPrefixOf_iff_prefix]

/-- What comes behind the first character, if it is there. -/
theorem infix_drop_one_iff {c : Char} {cs rest : List Char} :
    c :: cs <:+: rest.drop 1 ↔ ∃ before after, before ≠ [] ∧ rest = before ++ c :: cs ++ after := by
  constructor
  · rintro ⟨before, after, h⟩
    cases rest with
    | nil => simp at h
    | cons x rest => exact ⟨x :: before, after, List.cons_ne_nil _ _, by simpa using h.symm⟩
  · rintro ⟨before, after, hne, rfl⟩
    obtain ⟨x, before, rfl⟩ := List.exists_cons_of_ne_nil hne
    exact ⟨before, after, by simp⟩

/-- A line reads like a jump if it starts so. -/
theorem jumps_iff_start : Installed.jumps d.hook d.chain line = true ↔
    ∃ part, part <+: line ∧ d.JumpText part := by
  have hhead : ("-A " ++ d.hook ++ " ").toList = "-A ".toList ++ d.hook.toList ++ [' '] := by simp
  have hjump : (" -j " ++ d.chain).toList = ' ' :: ("-j ".toList ++ d.chain.toList) := by simp
  have htarget : ("-j " ++ d.chain).toList = "-j ".toList ++ d.chain.toList := by simp
  simp only [Installed.jumps, Bool.and_eq_true, Bool.or_eq_true, List.isPrefixOf_iff_prefix,
    Dump.occursIn_iff, infix_drop_one_iff, JumpText, hhead, hjump, htarget]
  generalize "-A ".toList ++ d.hook.toList ++ [' '] = head
  generalize "-j ".toList ++ d.chain.toList = jump
  constructor
  · rintro ⟨⟨rest, rfl⟩, h⟩
    rw [List.drop_left] at h
    rcases h with ⟨after, rfl⟩ | ⟨between, after, hne, rfl⟩
    · exact ⟨head ++ jump, ⟨after, by simp⟩, Or.inl rfl⟩
    · exact ⟨_, ⟨after, by simp⟩, Or.inr ⟨between, hne, rfl⟩⟩
  · rintro ⟨part, ⟨after, rfl⟩, rfl | ⟨between, hne, rfl⟩⟩
    · refine ⟨⟨jump ++ after, by simp⟩, Or.inl ⟨after, ?_⟩⟩
      rw [List.append_assoc, List.drop_left]
    · refine ⟨⟨_, (List.append_assoc _ _ _).symm⟩, Or.inr ⟨between, after, hne, ?_⟩⟩
      rw [List.append_assoc, List.drop_left]

/-! ## Lines as texts -/

theorem declares_iff_declaredBy {line : String} :
    Installed.declares d.chain line.toList = true ↔ d.DeclaredBy line := by
  rw [declares_iff_start]
  constructor
  · rintro ⟨_, ⟨rest, h⟩, rfl⟩
    exact ⟨String.ofList rest, String.toList_inj.mp (by simp [← h])⟩
  · rintro ⟨rest, rfl⟩
    exact ⟨_, ⟨rest.toList, by simp⟩, rfl⟩

theorem jumps_iff_jumpedBy {line : String} :
    Installed.jumps d.hook d.chain line.toList = true ↔ d.JumpedBy line := by
  rw [jumps_iff_start]
  constructor
  · rintro ⟨_, ⟨after, h⟩, rfl | ⟨between, hne, rfl⟩⟩
    · exact ⟨"-j " ++ d.chain ++ String.ofList after, String.toList_inj.mp (by simp [← h]),
        Or.inl ⟨_, rfl⟩⟩
    · exact ⟨String.ofList between ++ " -j " ++ d.chain ++ String.ofList after,
        String.toList_inj.mp (by simp [← h]), Or.inr ⟨_, _, by simpa using hne, rfl⟩⟩
  · rintro ⟨rest, rfl, ⟨after, rfl⟩ | ⟨before, after, hne, rfl⟩⟩
    · exact ⟨_, ⟨after.toList, by simp⟩, Or.inl rfl⟩
    · exact ⟨_, ⟨after.toList, by simp⟩, Or.inr ⟨before.toList, by simpa using hne, rfl⟩⟩

end Direction

/-! ## Scans -/

namespace Installed

open Pattern (search search_isSome_iff)

/-- What there is by either of two listings. -/
def union (i j : Installed) : Installed where
  redirectChain := i.redirectChain || j.redirectChain
  outputChain := i.outputChain || j.outputChain
  inboundJump := i.inboundJump || j.inboundJump
  outboundJump := i.outboundJump || j.outboundJump

@[simp] theorem union_chain (i j : Installed) (d : Direction) :
    (i.union j).chain d = (i.chain d || j.chain d) := by
  cases d <;> rfl

@[simp] theorem union_jump (i j : Installed) (d : Direction) :
    (i.union j).jump d = (i.jump d || j.jump d) := by
  cases d <;> rfl

/-- **A scan for a chain is a search for its pattern.** -/
theorem scan_chain_eq_search (listing : String) (d : Direction) :
    (scan listing).chain d = (search d.chainPattern listing).isSome := by
  have hshape : ∀ part, '\n' ∉ part ∧ part = (":" ++ d.chain ++ " ").toList ↔
      part = (":" ++ d.chain ++ " ").toList := by
    refine fun part => and_iff_right_of_imp ?_
    rintro rfl
    cases d <;> decide
  rw [Bool.eq_iff_iff, search_isSome_iff, Table.scan_chain_eq, List.any_eq_true]
  simp only [Direction.declares_iff_start]
  rw [exists_mem_lines_iff]
  simp only [hshape, Pattern.Occurs, List.nil_append, Direction.matches_chainPattern_iff]

/-- **A scan for a jump is a search for its pattern.** -/
theorem scan_jump_eq_search (listing : String) (d : Direction) :
    (scan listing).jump d = (search d.jumpPattern listing).isSome := by
  rw [Bool.eq_iff_iff, search_isSome_iff, Table.scan_jump_eq, List.any_eq_true]
  simp only [Direction.jumps_iff_start]
  rw [exists_mem_lines_iff]
  simp only [Pattern.Occurs, List.nil_append, Direction.matches_jumpPattern_iff]

/-- A jump is found on the second line, up to the last place where it is named. -/
example : (search (Direction.jumpPattern .inbound)
      "*nat\n-A PREROUTING -i eth0 -j PROXY_INIT_REDIRECT -j PROXY_INIT_REDIRECT_2").map Prod.snd =
    some "-A PREROUTING -i eth0 -j PROXY_INIT_REDIRECT -j PROXY_INIT_REDIRECT".toList := by
  decide +kernel

/-- A scan is told by the lines, as texts. -/
theorem scan_chain_eq_any (listing : String) (d : Direction) : (scan listing).chain d =
    (Text.fields '\n' listing).any fun line => declares d.chain line.toList := by
  simp [Table.scan_chain_eq, Text.fields, Function.comp_def]

theorem scan_jump_eq_any (listing : String) (d : Direction) : (scan listing).jump d =
    (Text.fields '\n' listing).any fun line => jumps d.hook d.chain line.toList := by
  simp [Table.scan_jump_eq, Text.fields, Function.comp_def]

/-- **A scan of two listings, one below the other**, sees what there is in either. -/
theorem scan_append (above below : String) :
    scan (above ++ "\n" ++ below) = (scan above).union (scan below) := by
  have hfields : Text.fields '\n' (above ++ "\n" ++ below) =
      Text.fields '\n' above ++ Text.fields '\n' below := Text.fields_append '\n' above below
  refine eq_of_forall (fun d => ?_) fun d => ?_
  · rw [union_chain, scan_chain_eq_any, scan_chain_eq_any, scan_chain_eq_any, hfields,
      List.any_append]
  · rw [union_jump, scan_jump_eq_any, scan_jump_eq_any, scan_jump_eq_any, hfields, List.any_append]

/-- **A scan does not depend on the order of the lines**, nor on how often they come. -/
theorem scan_congr {listing other : String}
    (h : ∀ line, line ∈ Text.fields '\n' listing ↔ line ∈ Text.fields '\n' other) :
    scan listing = scan other := by
  have hany : ∀ q : String → Bool,
      (Text.fields '\n' listing).any q = (Text.fields '\n' other).any q := by
    intro q
    rw [Bool.eq_iff_iff, List.any_eq_true, List.any_eq_true]
    exact exists_congr fun line => and_congr_left fun _ => h line
  refine eq_of_forall (fun d => ?_) fun d => ?_
  · rw [scan_chain_eq_any, scan_chain_eq_any, hany]
  · rw [scan_jump_eq_any, scan_jump_eq_any, hany]

/-- A scan of a single line. -/
theorem scan_line {line : String} (h : '\n' ∉ line.toList) (d : Direction) :
    ((scan line).chain d = true ↔ d.DeclaredBy line) ∧
      ((scan line).jump d = true ↔ d.JumpedBy line) := by
  rw [scan_chain_eq_any, scan_jump_eq_any, Text.fields_of_not_mem h, List.any_cons, List.any_nil,
    Bool.or_false, List.any_cons, List.any_nil, Bool.or_false]
  exact ⟨Direction.declares_iff_declaredBy, Direction.jumps_iff_jumpedBy⟩

/-- **A scan goes line by line.** It is a search for patterns of which none reaches beyond a line.
Of two listings, one below the other, it sees what there is in either, and listings with the same
lines in any order come to the same. In a line it sees the chain of a direction if the line declares
it, and the jump if the line reads like one. -/
theorem scan_byLines :
    (∀ listing d, (scan listing).chain d = (search (Direction.chainPattern d) listing).isSome ∧
      (scan listing).jump d = (search (Direction.jumpPattern d) listing).isSome) ∧
    (∀ d before part, (Direction.chainPattern d).Matches before part ∨
      (Direction.jumpPattern d).Matches before part → '\n' ∉ part) ∧
    (∀ above below, scan (above ++ "\n" ++ below) = (scan above).union (scan below)) ∧
    (∀ listing other, (Text.fields '\n' listing).Perm (Text.fields '\n' other) →
      scan listing = scan other) ∧
    ∀ line, '\n' ∉ line.toList → ∀ d, ((scan line).chain d = true ↔ d.DeclaredBy line) ∧
      ((scan line).jump d = true ↔ d.JumpedBy line) := by
  refine ⟨fun listing d => ⟨scan_chain_eq_search listing d, scan_jump_eq_search listing d⟩, ?_,
    scan_append, fun listing other h => scan_congr fun line => h.mem_iff, fun line h => scan_line h⟩
  rintro d before part (h | h)
  · exact Pattern.newline_not_mem_of_matches Direction.withinLine_chainPattern h
  · exact Pattern.newline_not_mem_of_matches Direction.withinLine_jumpPattern h

/-- A jump behind a match, as a line and in two listings. -/
theorem scan_byLines_matched :
    (Direction.jumpPattern .inbound).Matches "*nat\n".toList
      "-A PREROUTING -j PROXY_INIT_REDIRECT".toList ∧
    '\n' ∉ "-A PREROUTING -j PROXY_INIT_REDIRECT".toList ∧
    (Text.fields '\n'
      "-A PREROUTING -i eth0 -j PROXY_INIT_REDIRECT\n:PROXY_INIT_REDIRECT - [0:0]").Perm
      (Text.fields '\n'
        ":PROXY_INIT_REDIRECT - [0:0]\n-A PREROUTING -i eth0 -j PROXY_INIT_REDIRECT") ∧
    scan "-A PREROUTING -i eth0 -j PROXY_INIT_REDIRECT\n:PROXY_INIT_REDIRECT - [0:0]" =
      scan ":PROXY_INIT_REDIRECT - [0:0]\n-A PREROUTING -i eth0 -j PROXY_INIT_REDIRECT" ∧
    Direction.JumpedBy .inbound "-A PREROUTING -i eth0 -j PROXY_INIT_REDIRECT" ∧
    (scan "-A PREROUTING -i eth0 -j PROXY_INIT_REDIRECT").jump .inbound = true := by
  obtain ⟨-, hwithin, -, horder, hline⟩ := scan_byLines
  have hmatches : (Direction.jumpPattern .inbound).Matches "*nat\n".toList
      "-A PREROUTING -j PROXY_INIT_REDIRECT".toList :=
    Direction.matches_jumpPattern_iff.mpr
      ⟨by decide, by decide, Or.inl (by decide)⟩
  have hperm : (Text.fields '\n'
      "-A PREROUTING -i eth0 -j PROXY_INIT_REDIRECT\n:PROXY_INIT_REDIRECT - [0:0]").Perm
      (Text.fields '\n'
        ":PROXY_INIT_REDIRECT - [0:0]\n-A PREROUTING -i eth0 -j PROXY_INIT_REDIRECT") := by
    decide +kernel
  have hjumped : Direction.JumpedBy .inbound "-A PREROUTING -i eth0 -j PROXY_INIT_REDIRECT" :=
    ⟨"-i eth0 -j PROXY_INIT_REDIRECT", by decide +kernel,
      Or.inr ⟨"-i eth0", "", by decide +kernel, by decide +kernel⟩⟩
  exact ⟨hmatches, hwithin _ _ _ (Or.inr hmatches), hperm, horder _ _ hperm, hjumped,
    (hline _ (by decide +kernel) .inbound).2.mpr hjumped⟩

end Installed

end PodRedirect
