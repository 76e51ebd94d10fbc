import PodRedirect.Proofs.Direction
import PodRedirect.Proofs.Port.Bounds

/-!
# Arguments that come from settings

Some options of a rule are followed by a value that goes back to a setting: ports, networks, and the
numbers of users and groups. What they may be followed by is told for every two consecutive
arguments of a command, so that no value is passed over.

## Main definitions

* `Argument.Validated`: the value is one that the option may have
* `Argument.Destinations`, `Argument.Subnet`: what rules have for ports and networks

## Main results

* `Argument.destinations_of_valid`: the destinations of a group are what a rule may have
* `Argument.isChain_append_option`: the arguments of a rule are right if the value of its option is
-/

namespace PodRedirect

namespace Argument

/-! ## Values of options -/

/-- The decimal of a port, or of two ports in order with a colon between them. -/
def Destination (d : String) : Prop :=
  (∃ n : Nat, n ≤ 65535 ∧ d = toString n) ∨
    ∃ a b : Nat, a < b ∧ b ≤ 65535 ∧ d = toString a ++ ":" ++ toString b

/-- The port references that a destination costs: one for a port, and two for a range. -/
def references (d : String) : Nat := if ':' ∈ d.toList then 2 else 1

/-- One destination or more with commas between them, within what a rule may have. -/
structure Destinations (value : String) : Prop where
  nonempty : value ≠ ""
  each : ∀ d ∈ Text.fields ',' value, Destination d
  within : ((Text.fields ',' value).map references).sum ≤ 15

/-- A network of the family, without white space around it. -/
structure Subnet (f : Net.Family) (value : String) : Prop where
  nonempty : value ≠ ""
  trimmed : Text.strip value = value
  network : ∃ n, Net.Network.parse? value = some n ∧ n.family = f

/-- The value is one that the option may have, if the option is about ports, networks or owners. -/
def Validated (f : Net.Family) (option value : String) : Prop :=
  match option with
  | "--to-port" | "--destination-port" | "--dport" => ∃ n : Nat, n ≤ 65535 ∧ value = toString n
  | "--dports" => Destinations value
  | "-s" => Subnet f value
  | "--uid-owner" | "--gid-owner" => ∃ n : Nat, 0 < n ∧ value = toString n
  | _ => True

/-- The options that are about ports, networks or owners. -/
def options : List String :=
  ["--to-port", "--destination-port", "--dport", "--dports", "-s", "--uid-owner", "--gid-owner"]

variable {f : Net.Family} {option value : String}

/-- Whatever follows an argument that is no such option is right. -/
theorem validated_of_not_mem (h : option ∉ options) : Validated f option value := by
  unfold Validated
  split <;> trivial

/-! ## Values that are written -/

/-- An argument without a dash is none of the options. -/
theorem not_mem_options (h : '-' ∉ value.toList) : value ∉ options := by
  have hdash : ∀ o ∈ options, '-' ∈ o.toList := by decide
  exact fun hmem => h (hdash value hmem)

theorem dash_not_mem_decimal (n : Nat) : '-' ∉ (toString n).toList := by
  rw [Nat.toString_eq_repr, Nat.toList_repr]
  intro h
  cases Text.isDigit_of_mem_toDigits h

theorem exists_port {n : Int} (h : Port.isValid n = true) : ∃ m : Nat, m ≤ 65535 ∧ n = m := by
  obtain ⟨hlower, hupper⟩ := Port.isValid_iff.mp h
  exact ⟨n.toNat, by omega, by omega⟩

/-- The value is right behind the option, and is none of the options itself. -/
structure Fits (f : Net.Family) (option value : String) : Prop where
  validated : Validated f option value
  plain : value ∉ options

theorem fits_port {n : Int} (h : Port.isValid n = true)
    (hoption : option ∈ ["--to-port", "--destination-port", "--dport"]) :
    Fits f option (toString n) := by
  obtain ⟨m, hm, rfl⟩ := exists_port h
  refine ⟨?_, not_mem_options (dash_not_mem_decimal m)⟩
  simp only [List.mem_cons, List.not_mem_nil, or_false] at hoption
  rcases hoption with rfl | rfl | rfl <;> exact ⟨m, hm, rfl⟩

theorem fits_owner {n : Int} (h : 0 < n) (hoption : option ∈ ["--uid-owner", "--gid-owner"]) :
    Fits f option (toString n) := by
  lift n to Nat using h.le
  refine ⟨?_, not_mem_options (dash_not_mem_decimal n)⟩
  simp only [List.mem_cons, List.not_mem_nil, or_false] at hoption
  rcases hoption with rfl | rfl <;> exact ⟨n, by omega, rfl⟩

/-! ## Destinations -/

theorem destination_of_valid {r : PortRange} (h : r.Valid) : Destination r.destination := by
  obtain ⟨a, ha, hlower⟩ := exists_port h.lower
  obtain ⟨b, hb, hupper⟩ := exists_port h.upper
  -- bounds that are in order and not equal are in strict order
  have hordered := h.ordered
  rw [hlower, hupper] at hordered
  rw [PortRange.destination, PortRange.isSingle, hlower, hupper]
  split
  · exact Or.inl ⟨a, ha, rfl⟩
  · rename_i hsingle
    rw [decide_eq_true_eq] at hsingle
    exact Or.inr ⟨a, b, by omega, hb, rfl⟩

/-- A destination costs as many port references as its range. -/
theorem references_destination (r : PortRange) : references r.destination = r.cost := by
  -- decimals have no colon, so that one tells a range from a port
  have hcolon := PortRange.not_mem_toString (c := ':') (by decide) (by decide)
  by_cases h : r.isSingle = true
  · rw [PortRange.destination, PortRange.cost, if_pos h, if_pos h, references, if_neg (hcolon _)]
  · rw [PortRange.destination, PortRange.cost, if_neg h, if_neg h, references, if_pos (by simp)]

/-- The destinations of a group are what a rule may have. -/
theorem destinations_of_valid {rs : List PortRange} (hne : rs ≠ []) (valid : ∀ r ∈ rs, r.Valid)
    (within : Port.cost rs ≤ 15) :
    Destinations (",".intercalate (rs.map PortRange.destination)) := by
  have hfields := Port.fields_destinations hne
  constructor
  · -- the empty text is one piece, which is no destination
    intro hempty
    obtain ⟨r, hr⟩ := List.exists_mem_of_ne_nil rs hne
    have hmem : r.destination ∈ Text.fields ',' "" := by
      rw [← hempty, hfields]
      exact List.mem_map_of_mem hr
    rw [Text.fields_of_not_mem (by simp), List.mem_singleton] at hmem
    have hread := r.ofDestination?_destination
    rw [hmem] at hread
    cases hread
  · rw [hfields]
    intro d hd
    obtain ⟨r, hr, rfl⟩ := List.mem_map.mp hd
    exact destination_of_valid (valid r hr)
  · rw [hfields, List.map_map]
    simpa [Function.comp_def, references_destination, Port.cost] using within

theorem Destination.dash_not_mem {d : String} (h : Destination d) : '-' ∉ d.toList := by
  rcases h with ⟨n, -, rfl⟩ | ⟨a, b, -, -, rfl⟩
  · exact dash_not_mem_decimal n
  · simp only [String.toList_append, List.mem_append, not_or]
    exact ⟨⟨dash_not_mem_decimal a, by decide⟩, dash_not_mem_decimal b⟩

theorem Destinations.fits (h : Destinations value) : Fits f "--dports" value := by
  refine ⟨h, fun hmem => ?_⟩
  -- an option would be a single piece
  have hcomma : ∀ o ∈ options, ',' ∉ o.toList := by decide
  have hone := h.each value (by rw [Text.fields_of_not_mem (hcomma value hmem)]; simp)
  exact not_mem_options hone.dash_not_mem hmem

theorem Subnet.fits (h : Subnet f value) : Fits f "-s" value := by
  refine ⟨h, fun hmem => ?_⟩
  -- no option is read as a network
  have hnone : ∀ o ∈ options, Net.Network.parse? o = none := by decide
  obtain ⟨n, hn, -⟩ := h.network
  rw [hnone value hmem] at hn
  cases hn

/-! ## Commands -/

section Commands

variable {traceId chain tag : String} {n m : Int} {l : List String}

/-- Words that are none of the options may stand before anything. -/
theorem isChain_words {a : List String} (h : ∀ w ∈ a, w ∉ options)
    (hl : l.IsChain (Validated f)) : (a ++ l).IsChain (Validated f) := by
  induction a with
  | nil => exact hl
  | cons w a ih =>
    -- a word that is no option allows any word behind it
    rw [List.forall_mem_cons] at h
    exact List.isChain_cons.mpr ⟨fun _ _ => validated_of_not_mem h.1, ih h.2⟩

/-- A value that fits its option may stand behind it, before anything. -/
theorem Fits.isChain (h : Fits f option value) (hl : l.IsChain (Validated f)) :
    (option :: value :: l).IsChain (Validated f) :=
  .cons_cons h.validated (List.isChain_cons.mpr ⟨fun _ _ => validated_of_not_mem h.plain, hl⟩)

theorem isChain_comment : (Command.commentArgs tag traceId).IsChain (Validated f) :=
  isChain_words (a := ["-m", "comment", "--comment"]) (by decide) (.singleton _)

/-- The arguments of a rule are right if those behind the name of its chain are. -/
theorem isChain_append {table : String} {spec : List String} (htable : table ∉ options)
    (hchain : chain ∉ options)
    (h : (spec ++ Command.commentArgs tag traceId).IsChain (Validated f)) :
    (Rule.append traceId table chain spec tag).args.IsChain (Validated f) := by
  have hstart : ∀ w ∈ ["-t", table, "-A", chain], w ∉ options := by
    simp only [List.forall_mem_cons]
    exact ⟨by decide, htable, by decide, hchain, nofun⟩
  rw [Rule.append, List.append_assoc]
  exact isChain_words hstart h

/-- A rule with one such option is right if its value fits it. -/
theorem isChain_append_option {table : String} {a b : List String} (htable : table ∉ options)
    (hchain : chain ∉ options) (ha : ∀ w ∈ a, w ∉ options) (hb : ∀ w ∈ b, w ∉ options)
    (h : Fits f option value) :
    (Rule.append traceId table chain (a ++ option :: value :: b) tag).args.IsChain
      (Validated f) := by
  refine isChain_append htable hchain ?_
  rw [List.append_assoc]
  exact isChain_words ha (h.isChain (isChain_words hb isChain_comment))

theorem isChain_redirectAll (hchain : chain ∉ options) (hn : Port.isValid n = true) :
    (Rule.redirectAll traceId chain n tag).args.IsChain (Validated f) := by
  have hport : Fits f "--to-port" (toString n) := fits_port hn (by decide)
  exact isChain_append_option (a := ["-p", "tcp", "-j", "REDIRECT"]) (b := []) (by decide) hchain
    (by decide) nofun hport

/-- The only rule with two such options. -/
theorem isChain_redirectPort (hchain : chain ∉ options) (hn : Port.isValid n = true)
    (hm : Port.isValid m = true) :
    (Rule.redirectPort traceId chain n m tag).args.IsChain (Validated f) := by
  have hfrom : Fits f "--destination-port" (toString n) := fits_port hn (by decide)
  have hto : Fits f "--to-port" (toString m) := fits_port hm (by decide)
  refine isChain_append (by decide) hchain ?_
  refine isChain_words (a := ["-p", "tcp"]) (by decide) (hfrom.isChain ?_)
  exact isChain_words (a := ["-j", "REDIRECT"]) (by decide) (hto.isChain isChain_comment)

theorem isChain_ignorePorts (hchain : chain ∉ options) {destinations : List String}
    (h : Destinations (",".intercalate destinations)) :
    (Rule.ignorePorts traceId chain destinations tag).args.IsChain (Validated f) :=
  isChain_append_option (a := ["-p", "tcp", "--match", "multiport"]) (b := ["-j", "RETURN"])
    (by decide) hchain (by decide) (by decide) h.fits

theorem isChain_ignoreSubnet (hchain : chain ∉ options) (h : Subnet f value) :
    (Rule.ignoreSubnet traceId chain value tag).args.IsChain (Validated f) :=
  isChain_append_option (a := ["-p", "all", "-j", "RETURN"]) (b := []) (by decide) hchain
    (by decide) nofun h.fits

theorem isChain_ignoreUser (hchain : chain ∉ options) (hn : 0 < n) :
    (Rule.ignoreUser traceId chain n tag).args.IsChain (Validated f) := by
  have howner : Fits f "--uid-owner" (toString n) := fits_owner hn (by decide)
  exact isChain_append_option (a := ["-m", "owner"]) (b := ["-j", "RETURN"]) (by decide) hchain
    (by decide) (by decide) howner

theorem isChain_ignoreGroup (hchain : chain ∉ options) (hn : 0 < n) :
    (Rule.ignoreGroup traceId chain n tag).args.IsChain (Validated f) := by
  have howner : Fits f "--gid-owner" (toString n) := fits_owner hn (by decide)
  exact isChain_append_option (a := ["-m", "owner"]) (b := ["-j", "RETURN"]) (by decide) hchain
    (by decide) (by decide) howner

theorem isChain_ignoreLoopback (hchain : chain ∉ options) :
    (Rule.ignoreLoopback traceId chain tag).args.IsChain (Validated f) :=
  isChain_append (by decide) hchain
    (isChain_words (a := ["-o", "lo", "-j", "RETURN"]) (by decide) isChain_comment)

theorem isChain_redirectLoopback (hchain : chain ∉ options) {network target : String}
    (hnetwork : network ∉ options) (htarget : target ∉ options) (hn : 0 < n) :
    (Rule.redirectLoopback traceId network chain target n tag).args.IsChain (Validated f) := by
  have howner : Fits f "--uid-owner" (toString n) := fits_owner hn (by decide)
  have hrest : ∀ w ∈ ["-o", "lo", "!", "-d", network, "-j", target], w ∉ options := by
    simp only [List.forall_mem_cons]
    exact ⟨by decide, by decide, by decide, by decide, hnetwork, by decide, htarget, nofun⟩
  exact isChain_append_option (a := ["-m", "owner"]) (by decide) hchain (by decide) hrest howner

theorem isChain_dropFin (hchain : chain ∉ options) (hn : Port.isValid n = true) :
    (Rule.dropFin traceId chain n tag).args.IsChain (Validated f) := by
  have hport : Fits f "--dport" (toString n) := fits_port hn (by decide)
  exact isChain_append_option (a := ["-p", "tcp"])
    (b := ["--tcp-flags", "FIN", "FIN", "-j", "DROP"]) (by decide) hchain (by decide) (by decide)
    hport

/-- Words of which none is an option are right. -/
theorem isChain_of_forall_not_mem (h : ∀ w ∈ l, w ∉ options) : l.IsChain (Validated f) := by
  rw [← List.append_nil l]
  exact isChain_words h .nil

end Commands

end Argument

end PodRedirect
