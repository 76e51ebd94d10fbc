import PodRedirect.Proofs.Table

/-!
# Any meaning of rules

A table also holds rules of others, with conditions and targets that a redirection does not use.
Whatever those do with packets, a rule sends a packet on only to the chain that it names as its
target, and only if that is no built-in chain. What becomes of a packet therefore depends on the
chains that its way may lead through, and on no other.

## Main definitions

* `Meaning`: what rules do with packets of any kind
* `Meaning.Treats`: what becomes of a packet that meets rules
* `Meaning.Alike`: a chain of one table does with every packet what it does in another

## Main results

* `Meaning.treats_congr`: tables that agree on the chains of a way treat packets on it alike
-/

namespace PodRedirect

/-- The chains of every table, which packets come through. No rule goes on in one of them. -/
def builtinChains : List String := ["PREROUTING", "INPUT", "FORWARD", "OUTPUT", "POSTROUTING"]

/-- What a rule does with a packet: it does not apply, sends the packet back to where it came from,
decides what becomes of it, or sends it on to a chain. What that chain does not decide comes back
after `call`, and goes to where the packet came from after `go`. -/
inductive Act (ω : Type) where
  | pass
  | leave
  | settle (v : ω)
  | call (chain : String)
  | go (chain : String)

/-- The chain that a packet is sent on to. -/
def Act.next? {ω : Type} : Act ω → Option String
  | call chain | go chain => some chain
  | _ => none

/-- What rules do with packets. A rule sends packets on only to its target. -/
structure Meaning (π ω : Type) where
  act : π → Spec → Act ω
  next : ∀ {pkt : π} {s : Spec} {chain : String}, (act pkt s).next? = some chain →
    s.target? = some chain ∧ chain ∉ builtinChains

/-- The rules of a chain of a table. A chain that is not there has none. -/
def Table.chains (t : Table) (name : String) : List Spec := (t.lookup name).getD []

theorem Table.chains_of_lookup {t : Table} {name : String} {rules : List Spec}
    (h : t.lookup name = some rules) : t.chains name = rules := by
  rw [chains, h, Option.getD_some]

/-- If the rule goes on in a chain at all, it does so in one of the given ones. -/
def Spec.Within (P : String → Prop) (s : Spec) : Prop :=
  ∀ chain ∈ s.target?, chain ∉ builtinChains → P chain

namespace Meaning

variable {π ω : Type} (m : Meaning π ω)

/-- What becomes of a packet that meets rules in their order, where other chains have the given
rules: it is decided, or the packet goes back to where it came from. -/
inductive Treats (chains : String → List Spec) (pkt : π) : List Spec → Option ω → Prop
  | nil : Treats chains pkt [] none
  | pass {s : Spec} {ss : List Spec} {v : Option ω} (h : m.act pkt s = .pass)
    (rest : Treats chains pkt ss v) : Treats chains pkt (s :: ss) v
  | leave {s : Spec} {ss : List Spec} (h : m.act pkt s = .leave) : Treats chains pkt (s :: ss) none
  | settle {s : Spec} {ss : List Spec} {w : ω} (h : m.act pkt s = .settle w) :
    Treats chains pkt (s :: ss) (some w)
  | decided {s : Spec} {ss : List Spec} {chain : String} {w : ω} (h : m.act pkt s = .call chain)
    (inner : Treats chains pkt (chains chain) (some w)) : Treats chains pkt (s :: ss) (some w)
  | returned {s : Spec} {ss : List Spec} {chain : String} {v : Option ω}
    (h : m.act pkt s = .call chain) (inner : Treats chains pkt (chains chain) none)
    (rest : Treats chains pkt ss v) : Treats chains pkt (s :: ss) v
  | go {s : Spec} {ss : List Spec} {chain : String} {v : Option ω} (h : m.act pkt s = .go chain)
    (inner : Treats chains pkt (chains chain) v) : Treats chains pkt (s :: ss) v

/-- The chain of the given name does with every packet in one table what it does in the other. -/
def Alike (t u : Table) (name : String) : Prop :=
  ∀ (pkt : π) (v : Option ω),
    m.Treats t.chains pkt (t.chains name) v ↔ m.Treats u.chains pkt (u.chains name) v

variable {m} {chains chains' : String → List Spec} {P : String → Prop} {pkt : π} {ss : List Spec}
  {v : Option ω}

/-- A packet that stays within some chains is treated the same wherever these have their rules. -/
theorem Treats.transfer (agree : ∀ name, P name → chains name = chains' name)
    (closed : ∀ name, P name → ∀ s ∈ chains name, s.Within P) (h : m.Treats chains pkt ss v)
    (within : ∀ s ∈ ss, s.Within P) : m.Treats chains' pkt ss v := by
  -- the rules that are met next are the rest of these, or those of a chain that the way leads to
  have stays : ∀ {s : Spec} {chain : String}, s.Within P →
      (m.act pkt s).next? = some chain → P chain := by
    intro s chain hs hnext
    obtain ⟨htarget, hbuiltin⟩ := m.next hnext
    exact hs chain htarget hbuiltin
  induction h with
  | nil => exact .nil
  | pass hs _ ih => exact .pass hs (ih (List.forall_mem_cons.mp within).2)
  | leave hs => exact .leave hs
  | settle hs => exact .settle hs
  | decided hs _ ih =>
    have hchain := stays (within _ List.mem_cons_self) (congrArg Act.next? hs)
    exact .decided hs (agree _ hchain ▸ ih (closed _ hchain))
  | returned hs _ _ ihInner ihRest =>
    have hchain := stays (within _ List.mem_cons_self) (congrArg Act.next? hs)
    exact .returned hs (agree _ hchain ▸ ihInner (closed _ hchain))
      (ihRest (List.forall_mem_cons.mp within).2)
  | go hs _ ih =>
    have hchain := stays (within _ List.mem_cons_self) (congrArg Act.next? hs)
    exact .go hs (agree _ hchain ▸ ih (closed _ hchain))

/-- **Tables that agree on the chains of a way treat the packets on it alike.** -/
theorem treats_congr (agree : ∀ name, P name → chains name = chains' name)
    (closed : ∀ name, P name → ∀ s ∈ chains name, s.Within P)
    (within : ∀ s ∈ ss, s.Within P) : m.Treats chains pkt ss v ↔ m.Treats chains' pkt ss v := by
  refine ⟨fun h => h.transfer agree closed within, fun h => ?_⟩
  refine h.transfer (fun name hname => (agree name hname).symm) (fun name hname => ?_) within
  rw [← agree name hname]
  exact closed name hname

/-- Two tables that agree on chains which the packets of one of these do not leave treat those
packets alike. -/
theorem alike_of_agree {t u : Table} {name : String} (hname : P name)
    (agree : ∀ name, P name → t.lookup name = u.lookup name)
    (closed : ∀ name, P name → ∀ s ∈ t.chains name, s.Within P) : m.Alike t u name := by
  have hchains : ∀ name, P name → t.chains name = u.chains name := by
    intro name hname
    rw [Table.chains, agree name hname, Table.chains]
  intro pkt v
  rw [← hchains name hname]
  exact treats_congr hchains closed (closed name hname)

end Meaning

end PodRedirect
