import PodRedirect.Net.Network
import PodRedirect.Proofs.Port.Group
import PodRedirect.Proofs.Table

/-!
# Traffic

A packet meets the rules of a chain in their order. A rule is a list of arguments; it applies to a
packet of which all its conditions hold, and then it redirects the packet, sends it back to where it
came from, or sends it through another chain. From there it comes back if that chain does not
redirect it. What a packet meets in a chain is given as a relation, so that a chain may use any
other.

## Main definitions

* `Packet`: what rules look at in a packet
* `Argument`, `Spec.arguments?`: the arguments of a rule
* `Packet.says?`, `Packet.meets`: what an argument says of a packet
* `Packet.effect`: what a rule does with a packet
* `Evaluates`: what becomes of a packet that meets rules

## Main results

* `evaluates_cons`: what a packet meets is decided by the first rule that applies to it
* `Evaluates.unique`: at most one thing becomes of a packet
* `evaluates_map_leave`, `evaluates_map_redirect`: rules that all do the same act as one
-/

namespace PodRedirect

open Text

/-! ## Packets -/

/-- What rules look at in a packet. -/
structure Packet where
  protocol : String
  family : Net.Family
  source : Nat
  destination : Nat
  /-- The port that the packet is for. -/
  port : Nat
  /-- The interface that the packet leaves through. -/
  interface : String
  /-- The user that the packet comes from, if it comes from this host. -/
  user : Option Nat
  group : Option Nat
  deriving DecidableEq, Repr

/-- An address of a family lies in the network. -/
def Net.Network.holds (n : Network) (family : Family) (address : Nat) : Bool :=
  n.family = family && n.contains address

/-- The owner of a packet has the given number. -/
def owns (owner : Option Nat) (number : Int) : Bool := owner.any fun n => (n : Int) = number

/-! ## Arguments of rules -/

/-- An argument of a rule: an option and its value. What it says may be inverted. -/
structure Argument where
  inverted : Bool
  name : String
  value : String
  deriving DecidableEq, Repr

/-- The arguments of a rule. -/
def Spec.arguments? : Spec → Option (List Argument)
  | [] => some []
  | "!" :: name :: value :: rest => (Spec.arguments? rest).map (⟨true, name, value⟩ :: ·)
  | "!" :: _ => none
  | name :: value :: rest => (Spec.arguments? rest).map (⟨false, name, value⟩ :: ·)
  | _ => none

namespace Packet

/-- What an option with a value says of a packet, if the value can be read. An option that is no
condition says nothing against a packet. -/
def says? (pkt : Packet) (name value : String) : Option Bool :=
  match name with
  | "-p" => some (value = "all" || pkt.protocol = value)
  | "-s" => (Net.Network.parse? value).map (·.holds pkt.family pkt.source)
  | "-d" => (Net.Network.parse? value).map (·.holds pkt.family pkt.destination)
  | "-o" => some (pkt.interface = value)
  | "--uid-owner" => (integer? value).map (owns pkt.user)
  | "--gid-owner" => (integer? value).map (owns pkt.group)
  | "--destination-port" => (integer? value).map fun n => (pkt.port : Int) = n
  | "--dports" => (Port.destinations? value).map fun rs => rs.any (·.contains pkt.port)
  | _ => some true

section Says

variable (pkt : Packet) (value : String)

@[simp] theorem says?_protocol :
    pkt.says? "-p" value = some (value = "all" || pkt.protocol = value) := rfl

@[simp] theorem says?_source : pkt.says? "-s" value =
    (Net.Network.parse? value).map (·.holds pkt.family pkt.source) := rfl

@[simp] theorem says?_destination : pkt.says? "-d" value =
    (Net.Network.parse? value).map (·.holds pkt.family pkt.destination) := rfl

@[simp] theorem says?_interface :
    pkt.says? "-o" value = some (decide (pkt.interface = value)) := rfl

@[simp] theorem says?_user :
    pkt.says? "--uid-owner" value = (integer? value).map (owns pkt.user) := rfl

@[simp] theorem says?_group :
    pkt.says? "--gid-owner" value = (integer? value).map (owns pkt.group) := rfl

@[simp] theorem says?_port : pkt.says? "--destination-port" value =
    (integer? value).map fun n => decide ((pkt.port : Int) = n) := rfl

@[simp] theorem says?_ports : pkt.says? "--dports" value =
    (Port.destinations? value).map fun rs => rs.any (·.contains pkt.port) := rfl

@[simp] theorem says?_module : pkt.says? "-m" value = some true := rfl

@[simp] theorem says?_match : pkt.says? "--match" value = some true := rfl

@[simp] theorem says?_comment : pkt.says? "--comment" value = some true := rfl

@[simp] theorem says?_target : pkt.says? "-j" value = some true := rfl

@[simp] theorem says?_toPort : pkt.says? "--to-port" value = some true := rfl

end Says

/-- The packet meets an argument. What cannot be read is met by no packet. -/
def meets (pkt : Packet) (a : Argument) : Bool :=
  ((pkt.says? a.name a.value).map (· != a.inverted)).getD false

end Packet

/-! ## Effects of rules -/

/-- What a rule does with a packet: nothing, if it does not apply. -/
inductive Effect where
  | pass
  | leave
  | redirect (port : Int)
  | enter (chain : String)
  deriving DecidableEq, Repr

/-- The value of an option. -/
def Argument.value? (name : String) (as : List Argument) : Option String :=
  (as.find? fun a => a.name = name).map Argument.value

/-- What the arguments of a rule do with the packets that meet them. -/
def Effect.ofArguments (as : List Argument) : Effect :=
  match Argument.value? "-j" as with
  | some "RETURN" => .leave
  | some "REDIRECT" =>
    match (Argument.value? "--to-port" as).bind integer? with
    | some port => .redirect port
    | none => .pass
  | some chain => .enter chain
  | none => .pass

namespace Effect

variable {as : List Argument}

theorem ofArguments_return (h : Argument.value? "-j" as = some "RETURN") :
    ofArguments as = .leave := by
  rw [ofArguments, h]
  rfl

theorem ofArguments_redirect {text : String} {port : Int}
    (h : Argument.value? "-j" as = some "REDIRECT")
    (hport : Argument.value? "--to-port" as = some text) (htext : integer? text = some port) :
    ofArguments as = .redirect port := by
  rw [ofArguments, h, hport, Option.bind_some, htext]
  rfl

end Effect

/-- What a rule does with a packet. -/
def Packet.effect (pkt : Packet) (s : Spec) : Effect :=
  match Spec.arguments? s with
  | some as => if as.all pkt.meets then .ofArguments as else .pass
  | none => .pass

/-- The arguments of two parts of a rule, one after the other. -/
theorem Spec.arguments?_append {s t : Spec} {as bs : List Argument} (hs : s.arguments? = some as)
    (ht : t.arguments? = some bs) : Spec.arguments? (s ++ t) = some (as ++ bs) := by
  -- one case for each way to read the first arguments, inverted or not, or to fail to
  induction s using Spec.arguments?.induct generalizing as with
  | case1 =>
    cases hs
    exact ht
  | case2 name value rest ih =>
    obtain ⟨cs, hcs, rfl⟩ := Option.map_eq_some_iff.mp hs
    simp [arguments?, ih hcs]
  | case3 rest h => simp [arguments?] at hs
  | case4 name value rest h₁ h₂ ih =>
    rw [arguments?] at hs
    · obtain ⟨cs, hcs, rfl⟩ := Option.map_eq_some_iff.mp hs
      rw [List.cons_append, List.cons_append, arguments?, ih hcs]
      · rfl
      · exact fun _ _ hname _ => h₂ hname
      · exact h₂
    · exact h₁
    · exact h₂
  | case5 s h₁ h₂ h₃ h₄ =>
    rw [arguments?] at hs
    · cases hs
    · exact h₁
    · exact h₂
    · exact h₃
    · exact h₄

/-! ## Evaluation -/

/-- What becomes of a packet that meets rules in their order, where other chains have the given
rules: it is redirected to a port, or it goes back to where it came from. -/
inductive Evaluates (chains : String → List Spec) (pkt : Packet) : List Spec → Option Int → Prop
  | nil : Evaluates chains pkt [] none
  | pass {s : Spec} {ss : List Spec} {v : Option Int} (h : pkt.effect s = .pass)
    (rest : Evaluates chains pkt ss v) : Evaluates chains pkt (s :: ss) v
  | leave {s : Spec} {ss : List Spec} (h : pkt.effect s = .leave) :
    Evaluates chains pkt (s :: ss) none
  | redirect {s : Spec} {ss : List Spec} {port : Int} (h : pkt.effect s = .redirect port) :
    Evaluates chains pkt (s :: ss) (some port)
  | decided {s : Spec} {ss : List Spec} {chain : String} {port : Int}
    (h : pkt.effect s = .enter chain) (inner : Evaluates chains pkt (chains chain) (some port)) :
    Evaluates chains pkt (s :: ss) (some port)
  | returned {s : Spec} {ss : List Spec} {chain : String} {v : Option Int}
    (h : pkt.effect s = .enter chain) (inner : Evaluates chains pkt (chains chain) none)
    (rest : Evaluates chains pkt ss v) : Evaluates chains pkt (s :: ss) v

variable {chains : String → List Spec} {pkt : Packet} {s : Spec} {ss : List Spec} {v w : Option Int}

@[simp] theorem evaluates_nil : Evaluates chains pkt [] v ↔ v = none := by
  constructor
  · intro h
    cases h
    rfl
  · rintro rfl
    exact .nil

/-- **What a packet meets is decided by the first rule that applies to it.** If that sends the
packet through another chain which does not redirect it, the rules after it are met too. -/
theorem evaluates_cons :
    Evaluates chains pkt (s :: ss) v ↔
      match pkt.effect s with
      | .pass => Evaluates chains pkt ss v
      | .leave => v = none
      | .redirect port => v = some port
      | .enter chain =>
        (∃ port, Evaluates chains pkt (chains chain) (some port) ∧ v = some port) ∨
          Evaluates chains pkt (chains chain) none ∧ Evaluates chains pkt ss v := by
  constructor
  · intro h
    cases h with
    | pass hs rest =>
      rw [hs]
      exact rest
    | leave hs => rw [hs]
    | redirect hs => rw [hs]
    | decided hs inner =>
      rw [hs]
      exact Or.inl ⟨_, inner, rfl⟩
    | returned hs inner rest =>
      rw [hs]
      exact Or.inr ⟨inner, rest⟩
  · cases hs : pkt.effect s with
    | pass => exact fun h => .pass hs h
    | leave =>
      rintro rfl
      exact .leave hs
    | redirect port =>
      rintro rfl
      exact .redirect hs
    | enter chain =>
      rintro (⟨port, inner, rfl⟩ | ⟨inner, rest⟩)
      · exact .decided hs inner
      · exact .returned hs inner rest

/-- A rule that sends a packet through another chain decides if that chain redirects the packet. If
not, the packet meets the rules after it. -/
theorem evaluates_enter {chain : String} (hs : pkt.effect s = .enter chain)
    (inner : ∀ u, Evaluates chains pkt (chains chain) u ↔ u = w) :
    Evaluates chains pkt (s :: ss) v ↔
      if w.isSome then v = w else Evaluates chains pkt ss v := by
  rw [evaluates_cons, hs]
  simp only [inner]
  cases w with
  | none => simp
  | some port => simp [eq_comm]

/-- **At most one thing becomes of a packet.** -/
theorem Evaluates.unique (h : Evaluates chains pkt ss v) (h' : Evaluates chains pkt ss w) :
    v = w := by
  -- the effect of the first rule is the same in both, so the second goes the way of the first
  induction h generalizing w with
  | nil => exact (evaluates_nil.mp h').symm
  | pass hs _ ih =>
    rw [evaluates_cons, hs] at h'
    exact ih h'
  | leave hs =>
    rw [evaluates_cons, hs] at h'
    exact h'.symm
  | redirect hs =>
    rw [evaluates_cons, hs] at h'
    exact h'.symm
  | decided hs _ ih =>
    rw [evaluates_cons, hs] at h'
    rcases h' with ⟨port, inner, rfl⟩ | ⟨inner, -⟩
    · exact ih inner
    · cases ih inner
  | returned hs _ _ ihInner ihRest =>
    rw [evaluates_cons, hs] at h'
    rcases h' with ⟨port, inner, -⟩ | ⟨-, rest⟩
    · cases ihInner inner
    · exact ihRest rest

/-! ## Rules that all do the same -/

section Blocks

variable {α : Type} {f : α → Spec} {q : α → Bool} {xs : List α}

/-- Rules that send back the packets they apply to send back those that one of them applies to. -/
theorem evaluates_map_leave
    (h : ∀ x ∈ xs, pkt.effect (f x) = if q x then .leave else .pass) :
    Evaluates chains pkt (xs.map f ++ ss) v ↔
      if xs.any q then v = none else Evaluates chains pkt ss v := by
  induction xs with
  | nil => rfl
  | cons x xs ih =>
    have hx := h x List.mem_cons_self
    rw [List.map_cons, List.cons_append, evaluates_cons, hx, List.any_cons]
    cases q x with
    | true => simp
    | false => simpa using ih fun y hy => h y (List.mem_cons_of_mem _ hy)

/-- Rules that redirect the packets they apply to redirect those that one of them applies to. -/
theorem evaluates_map_redirect {port : Int}
    (h : ∀ x ∈ xs, pkt.effect (f x) = if q x then .redirect port else .pass) :
    Evaluates chains pkt (xs.map f) v ↔ v = if xs.any q then some port else none := by
  induction xs with
  | nil => exact evaluates_nil
  | cons x xs ih =>
    have hx := h x List.mem_cons_self
    rw [List.map_cons, evaluates_cons, hx, List.any_cons]
    cases q x with
    | true => simp
    | false => simpa using ih fun y hy => h y (List.mem_cons_of_mem _ hy)

end Blocks

end PodRedirect
