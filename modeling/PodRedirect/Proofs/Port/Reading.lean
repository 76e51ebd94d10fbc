import PodRedirect.Proofs.Port.Bounds

/-!
# What tokens come to

A refusal names the token that was read, so the two may be reported together: one pass over tokens,
with a report for each that is refused, comes to the reading of all of them and to the groups of
what they stand for.

## Main definitions

* `Port.Readable`: a token is a range, or it is refused
* `Port.ranges`, `Port.refusals`: the ranges that tokens stand for, and the tokens that are refused

## Main results

* `Port.read_of_readable`: what a reading accepts and refuses
* `Port.run_fill`: one pass over tokens comes to the reading and the groups
-/

namespace PodRedirect.Port

/-! ## Tokens -/

/-- The token is a range, or it is refused: its text can be written, and its numbers are short
enough to be read. -/
def Readable (token : Value) : Prop := ∀ f, PortRange.parse token ≠ .error (.numeral f)

instance (token : Value) : Decidable (Readable token) :=
  match h : PortRange.parse token with
  | .ok _ => isTrue fun _ hf => nomatch h.symm.trans hf
  | .error (.refused _) => isTrue fun _ hf => nomatch h.symm.trans hf
  | .error (.numeral f) => isFalse fun hr => hr f h

/-- Why the token is refused, if it is. -/
def refusal? (token : Value) : Option Refusal :=
  match PortRange.parse token with
  | .error (.refused r) => some r
  | _ => none

/-- The ranges that tokens stand for, in order. -/
def ranges (tokens : List Value) : List PortRange :=
  tokens.filterMap fun token => (PortRange.parse token).toOption

/-- The tokens that are refused, in order, each with its refusal. -/
def refusals (tokens : List Value) : List (Value × Refusal) :=
  tokens.filterMap fun token => (refusal? token).map fun r => (token, r)

/-- A reading accepts the tokens that are ranges, refuses the others and reaches the end. -/
theorem read_of_readable {tokens : List Value} (h : ∀ token ∈ tokens, Readable token) :
    (read tokens).accepted = ranges tokens ∧
      (read tokens).refused.map (fun r => (r.token, r)) = refusals tokens ∧
      (read tokens).fault = none := by
  induction tokens with
  | nil => exact ⟨rfl, rfl, rfl⟩
  | cons token tokens ih =>
    rw [List.forall_mem_cons] at h
    obtain ⟨haccepted, hrefused, hfault⟩ := ih h.2
    rw [read, ranges, refusals, List.filterMap_cons, List.filterMap_cons, ← ranges, ← refusals,
      refusal?]
    cases hparse : PortRange.parse token with
    | ok r => exact ⟨congrArg (r :: ·) haccepted, hrefused, hfault⟩
    | error f =>
      cases f with
      | numeral f => exact absurd hparse (h.1 f)
      | refused r =>
        refine ⟨haccepted, ?_, hfault⟩
        rw [List.map_cons, hrefused, token_of_parse hparse]
        rfl

/-- The groups for tokens that can be read are those of the ranges that they stand for. -/
theorem multiport_of_readable {tokens : List Value} (h : ∀ token ∈ tokens, Readable token)
    (capacity : Int) :
    multiport capacity tokens = .ok ((if tokens = [] then [] else pack capacity (ranges tokens)).map
      fun g => g.map PortRange.destination) := by
  obtain ⟨haccepted, -, hfault⟩ := read_of_readable h
  rw [multiport, hfault, groups, haccepted]
  cases tokens <;> rfl

/-! ## One pass -/

section Pass

variable {m : Type → Type} [Monad m] [LawfulMonad m] (report : Value → Refusal → m Unit)
  (capacity : Int)

/-- A pass with a group begun reports what is refused up to the first token that cannot be read, and
then packs what was accepted. -/
theorem run_fillFrom (current : List PortRange) (cost : Nat) (tokens : List Value) :
    (fillFrom report capacity (current.map PortRange.destination) cost tokens).run = (do
      forM (read tokens).refused fun r => report r.token r
      return match (read tokens).fault with
        | some f => .error f
        | none => .ok ((packFrom capacity current cost (read tokens).accepted).map
            fun g => g.map PortRange.destination)) := by
  induction tokens generalizing current cost with
  | nil => simp [fillFrom, read, packFrom]
  | cons token tokens ih =>
    rw [fillFrom, read]
    cases hparse : PortRange.parse token with
    | ok r =>
      have hempty : (current.map PortRange.destination).isEmpty = current.isEmpty := by simp
      dsimp only
      rw [packFrom, hempty]
      split
      next =>
        -- the group is done, and the rest is the pass that begins with the range
        have hnext := ih [r] r.cost
        rw [List.map_singleton] at hnext
        rw [ExceptT.run_bind, hnext, bind_assoc]
        congr 1
        funext _
        cases (read tokens).fault <;> simp
      next =>
        have hnext := ih (current ++ [r]) (cost + r.cost)
        rwa [List.map_append, List.map_singleton] at hnext
    | error f =>
      cases f with
      | numeral f => simp
      | refused r =>
        change ((ExceptT.lift (report token r) : ExceptT Numeral.Fault m Unit) >>= fun _ =>
          fillFrom report capacity (current.map PortRange.destination) cost tokens).run = _
        rw [ExceptT.run_bind_lift, ih, List.forM_cons, token_of_parse hparse, bind_assoc]

/-- **One pass over tokens comes to the reading and the groups.** Every refusal of the reading is
reported, with the token that it names. -/
theorem run_fill (ports : Option (List Value)) :
    (fill report capacity ports).run = (do
      forM (read (ports.getD [])).refused fun r => report r.token r
      return multiport capacity (ports.getD [])) := by
  rw [fill]
  cases htokens : ports.getD [] with
  | nil => simp [read, multiport, groups]
  | cons token tokens =>
    have hpass := run_fillFrom report capacity [] 0 (token :: tokens)
    rw [List.map_nil] at hpass
    dsimp only
    rw [hpass, multiport]
    cases (read (token :: tokens)).fault <;> rfl

/-- A pass over tokens that can be read reports those that are refused, in order. -/
theorem run_fill_of_readable {ports : Option (List Value)}
    (h : ∀ token ∈ ports.getD [], Readable token) :
    (fill report capacity ports).run = (do
      forM (refusals (ports.getD [])) fun (token, r) => report token r
      return multiport capacity (ports.getD [])) := by
  rw [run_fill, ← (read_of_readable h).2.1, List.forM_map]

end Pass

end PodRedirect.Port
