import PodRedirect.Proofs.Direction
import PodRedirect.Proofs.Port.Group

/-!
# When a compilation succeeds

A compilation only fails on numbers: those of a token for ports that has too many digits to be read,
or that of a user or a group that has too many to be written. What is installed has no part in it.

## Main definitions

* `Numeral.Writable`: an integer has few enough digits to be written

## Main results

* `Compiler.exists_compile_iff`: when a compilation succeeds
* `Compiler.commands_ignorePorts_tokens`: the commands for tokens that can be read
-/

namespace PodRedirect

/-- The integer has few enough digits to be written. -/
def Numeral.Writable (n : Int) : Prop := ∃ text, Numeral.write n = .ok text

namespace Compiler

open Port (Legible)

variable {ss rest : List Step}

/-! ## What steps stop at -/

/-- Steps stop where the first of them stops. -/
theorem stopped?_append : stopped? (ss ++ rest) = (stopped? ss).or (stopped? rest) := by
  induction ss with
  | nil => rfl
  | cons s ss ih =>
    cases s with
    | stop f => rfl
    | emit c => exact ih
    | remark text => exact ih
    | refuse r => exact ih

theorem stopped?_append_eq_none_iff :
    stopped? (ss ++ rest) = none ↔ stopped? ss = none ∧ stopped? rest = none := by
  rw [stopped?_append, Option.or_eq_none_iff]

/-- Steps that hold no number that is too long are all taken. -/
theorem stopped?_eq_none (h : ∀ s ∈ ss, ∀ f, s ≠ .stop f) : stopped? ss = none := by
  induction ss with
  | nil => rfl
  | cons s ss ih =>
    have hrest := ih fun x hx => h x (List.mem_cons_of_mem _ hx)
    cases s with
    | stop f => exact absurd rfl (h _ List.mem_cons_self f)
    | emit c => exact hrest
    | remark text => exact hrest
    | refuse r => exact hrest

theorem stopped?_map_emit {α : Type} (f : α → Command) (xs : List α) :
    stopped? (xs.map fun x => .emit (f x)) = none := by
  refine stopped?_eq_none fun s hs => ?_
  obtain ⟨x, -, rfl⟩ := List.mem_map.mp hs
  intro f hf
  cases hf

variable (p : Policy) (traceId chain : String) (i : Installed)

theorem stopped?_ensureChain (exists_ : Bool) : stopped? (ensureChain chain exists_) = none := by
  cases exists_ <;> rfl

theorem stopped?_ensureJump (target tag : String) (exists_ : Bool) (drop : Option Command) :
    stopped? (ensureJump chain target tag exists_ drop) = none := by
  cases exists_ <;> cases drop <;> rfl

theorem stopped?_redirectInbound : stopped? (redirectInbound p traceId chain) = none := by
  cases h : p.redirect with
  | all => simp [redirectInbound, h, stopped?]
  | listed =>
    simp only [redirectInbound, h, stopped?]
    exact stopped?_map_emit _ _

/-- The steps about ports stop at the first token that cannot be read. -/
theorem stopped?_ignorePorts (tokens : List Value) :
    stopped? (ignorePorts traceId chain tokens) = (Port.read tokens).fault := by
  -- a token that is refused is only reported
  have hrefused : stopped? ((Port.read tokens).refused.map .refuse) = none := by
    refine stopped?_eq_none fun s hs => ?_
    obtain ⟨r, -, rfl⟩ := List.mem_map.mp hs
    intro f hf
    cases hf
  rw [ignorePorts, stopped?_append, hrefused, Option.none_or, Port.multiport]
  cases hfault : (Port.read tokens).fault with
  | some f => rfl
  | none =>
    -- the steps for a group are a remark and a command
    refine stopped?_eq_none fun s hs => ?_
    obtain ⟨g, -, hs⟩ := List.mem_flatMap.mp hs
    unfold ignoreGroup at hs
    split at hs
    · cases hs
    · simp only [List.mem_cons, List.not_mem_nil, or_false] at hs
      rcases hs with rfl | rfl <;> intro f hf <;> cases hf

theorem stopped?_ignorePorts_eq_none_iff (tokens : List String) :
    stopped? (ignorePorts traceId chain (Compiler.tokens tokens)) = none ↔
      ∀ token ∈ tokens, Legible token := by
  rw [stopped?_ignorePorts, Compiler.tokens, Port.fault_read_eq_none_iff]

/-- The steps about a number stop if it cannot be written. -/
theorem stopped?_emitFor_eq_none_iff (number : Int) (cs : List Command) :
    stopped? (emitFor number cs) = none ↔ Numeral.Writable number := by
  rw [emitFor, Numeral.Writable]
  cases Numeral.write number with
  | ok text => simpa using stopped?_map_emit id cs
  | error f => simp [stopped?]

theorem stopped?_ite_emitFor_eq_none_iff (number : Int) (cs : List Command) :
    stopped? (if 0 < number then emitFor number cs else []) = none ↔
      (0 < number → Numeral.Writable number) := by
  by_cases h : 0 < number
  · rw [if_pos h, stopped?_emitFor_eq_none_iff]
    exact ⟨fun hw _ => hw, fun hw => hw h⟩
  · rw [if_neg h]
    exact ⟨fun _ hu => absurd hu h, fun _ => rfl⟩

theorem stopped?_ignoreProxy_eq_none_iff :
    stopped? (ignoreProxy p traceId chain) = none ↔
      (0 < p.uid → Numeral.Writable p.uid) ∧ (0 < p.gid → Numeral.Writable p.gid) := by
  rw [ignoreProxy, stopped?_append_eq_none_iff, stopped?_ite_emitFor_eq_none_iff,
    stopped?_ite_emitFor_eq_none_iff]

theorem stopped?_inbound_eq_none_iff :
    stopped? (inbound p traceId i) = none ↔ ∀ token ∈ p.inboundIgnored, Legible token := by
  rw [inbound]
  simp only [stopped?_append_eq_none_iff, stopped?_ensureChain, stopped?_ensureJump,
    stopped?_redirectInbound, stopped?_ignorePorts_eq_none_iff, true_and, and_true]
  exact and_iff_left (stopped?_map_emit _ _)

theorem stopped?_outbound_eq_none_iff :
    stopped? (outbound p traceId i) = none ↔
      ((0 < p.uid → Numeral.Writable p.uid) ∧ (0 < p.gid → Numeral.Writable p.gid)) ∧
        ∀ token ∈ p.outboundIgnored, Legible token := by
  rw [outbound]
  simp only [stopped?_append_eq_none_iff, stopped?_ensureChain, stopped?_ensureJump,
    stopped?_ignorePorts_eq_none_iff, stopped?_ignoreProxy_eq_none_iff, true_and, and_true]
  simp [stopped?]

/-- **A compilation succeeds if and only if every token can be read and the numbers of the proxy's
user and group can be written**, whatever is installed. -/
theorem exists_compile_iff (listing : String) :
    (∃ r, ((new p traceId).compile listing).1 = .ok r) ↔
      (∀ token ∈ p.inboundIgnored ++ p.outboundIgnored, Legible token) ∧
        (0 < p.uid → Numeral.Writable p.uid) ∧ (0 < p.gid → Numeral.Writable p.gid) := by
  have hsteps : (∃ r, ((new p traceId).compile listing).1 = .ok r) ↔
      stopped? (steps p traceId (Installed.scan listing)) = none := by
    constructor
    · rintro ⟨r, h⟩
      exact ((compile_eq_ok_iff p traceId).mp h).1
    · exact fun h => ⟨_, (compile_eq_ok_iff p traceId).mpr ⟨h, rfl⟩⟩
  rw [hsteps, steps, stopped?_append_eq_none_iff, stopped?_inbound_eq_none_iff,
    stopped?_outbound_eq_none_iff, List.forall_mem_append]
  tauto

/-! ## Commands for tokens -/

/-- Tokens that can be read get a command for every group of ports that is not empty. -/
theorem commands_ignorePorts_tokens {tokens : List String} (h : ∀ token ∈ tokens, Legible token) :
    commands (ignorePorts traceId chain (Compiler.tokens tokens)) =
      ((Port.pack Port.referenceLimit (Port.read (Compiler.tokens tokens)).accepted).filter
        fun g => !g.isEmpty).map fun g =>
          ignoreGroupCommand traceId chain (g.map PortRange.destination) := by
  have hfault : (Port.read (Compiler.tokens tokens)).fault = none :=
    (Port.fault_read_eq_none_iff tokens).mpr h
  have hmultiport : Port.multiport Port.referenceLimit (Compiler.tokens tokens) =
      .ok (Port.groups Port.referenceLimit (Compiler.tokens tokens)) := by
    rw [Port.multiport, hfault]
  rw [commands_ignorePorts traceId hmultiport, Port.groups]
  -- no tokens give no group, but an empty group would give no command either
  cases tokens with
  | nil => rfl
  | cons token tokens =>
    have hne : (Compiler.tokens (token :: tokens)).isEmpty = false := rfl
    rw [hne, if_neg Bool.false_ne_true, List.filter_map, List.map_map]
    simp [Function.comp_def]

end Compiler

end PodRedirect
