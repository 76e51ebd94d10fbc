import PodRedirect.Proofs.DryRun

/-!
# One set of settings for two families

The policies for the two families of addresses come from the same settings. Nothing that is checked
depends on the family, so that either both are built or both are rejected for the same reason, and
they differ in what a family has of its own: the binaries, where these are not given by their paths,
and the networks, of which each goes to one of the two.

## Main definitions

* `Policy.networks`: the networks among values, whatever their family
* `Policy.Matching`: two policies differ in their family, their binaries and their networks only
* `Policy.Counterpart`: the same, with the binaries that settings ask for

## Main results

* `Policy.computes_sanitizeSubnets`: the networks of a family are those of all that belong to it
* `Policy.alike_build_of_checked`: policies from settings that differ in a few values only
* `Policy.families_match`: the policies for the two families, with and without paths
-/

namespace PodRedirect.Policy

open Logged (Alike Computes EndsAlike alike_pure alike_except alike_bind_of_eq alike_bind_of_ok
  computes_pure computes_throw computes_except computes_note)

/-! ## Networks -/

/-- The family of the network that a text writes. -/
def familyOf? (text : String) : Option Net.Family := (Net.Network.parse? text).map (·.family)

/-- The networks among values, in order, without white space around them and without empty ones. -/
def networks : List Value → Except Failure (List String)
  | [] => .ok []
  | v :: vs => do
    let text := Text.strip (← v.said)
    if text.isEmpty then networks vs
    else
      match Net.Network.parse? text with
      | none => .error (.rejected (.network text))
      | some _ => return text :: (← networks vs)

/-- The networks among the texts that are of the family. -/
def ofFamily (f : Net.Family) (texts : List String) : List String :=
  texts.filter fun t => familyOf? t = some f

section OfFamily

variable {f : Net.Family} {t : String}

theorem ofFamily_cons_of_eq (h : familyOf? t = some f) (ts : List String) :
    ofFamily f (t :: ts) = t :: ofFamily f ts := by
  rw [ofFamily, List.filter_cons_of_pos (by simpa using h), ofFamily]

theorem ofFamily_cons_of_ne (h : familyOf? t ≠ some f) (ts : List String) :
    ofFamily f (t :: ts) = ofFamily f ts := by
  rw [ofFamily, List.filter_cons_of_neg (by simpa using h), ofFamily]

/-- One more network goes to its family, or is left out. -/
theorem map_ofFamily_cons (found : Except Failure (List String)) :
    (found >>= fun ts => .ok (t :: ts)).map (ofFamily f) =
      if familyOf? t = some f then found.map (ofFamily f) >>= fun ts => .ok (t :: ts)
      else found.map (ofFamily f) := by
  cases found with
  | error e => split <;> rfl
  | ok ts =>
    split
    next h => exact congrArg Except.ok (ofFamily_cons_of_eq h ts)
    next h => exact congrArg Except.ok (ofFamily_cons_of_ne h ts)

end OfFamily

/-- **Networks are checked for both families, and then divided among them.** -/
theorem computes_sanitizeSubnets (six : Bool) (vs : List Value) :
    (sanitizeSubnets six vs).Computes
      ((networks vs).map (ofFamily (if six then .v6 else .v4))) := by
  have hmap {α β γ : Type} (x : Except Failure α) (g : α → Except Failure β) (f : β → γ) :
      (x >>= g).map f = x >>= fun a => (g a).map f := by cases x <;> rfl
  induction vs with
  | nil => exact computes_pure _
  | cons v vs ih =>
    rw [sanitizeSubnets, networks, hmap]
    refine (computes_except v.said).bind fun text => ?_
    dsimp only
    split
    · exact ih
    · cases hn : Net.Network.parse? (Text.strip text) with
      | none => exact computes_throw _
      | some n =>
        have hfamily : ((n.family = .v6) = (six = true)) ↔
            familyOf? (Text.strip text) = some (if six then .v6 else .v4) := by
          rw [familyOf?, hn, Option.map_some, Option.some_inj]
          cases n.family <;> cases six <;> decide
        have hcons := map_ofFamily_cons (f := if six then .v6 else .v4) (t := Text.strip text)
          (networks vs)
        dsimp only
        split
        next h =>
          -- the network is one of the family
          rw [if_pos (hfamily.mp h)] at hcons
          exact hcons ▸ ih.bind fun rest => computes_pure (Text.strip text :: rest)
        next h =>
          -- it is left out with a remark
          rw [if_neg fun h' => h (hfamily.mpr h')] at hcons
          exact hcons ▸ (computes_note _ _ _).bind fun _ => ih

/-- The networks among values are those of their texts that are left without white space, and all of
these are networks. -/
theorem networks_eq_ok {vs : List Value} {ts : List String} (h : networks vs = .ok ts) :
    (∃ texts, vs.mapM Value.said = .ok texts ∧ ts = Setting.tidied texts) ∧
      ∀ t ∈ ts, ∃ f, familyOf? t = some f := by
  induction vs generalizing ts with
  | nil =>
    cases h
    exact ⟨⟨[], rfl, rfl⟩, nofun⟩
  | cons v vs ih =>
    rw [networks] at h
    obtain ⟨text, htext, h⟩ := of_bind_ok h
    have hsaid : ∀ texts, vs.mapM Value.said = .ok texts →
        (v :: vs).mapM Value.said = .ok (text :: texts) := by
      intro texts htexts
      rw [List.mapM_cons, htext, htexts]
      rfl
    dsimp only at h
    split at h
    next hempty =>
      obtain ⟨⟨texts, htexts, rfl⟩, hnetworks⟩ := ih h
      refine ⟨⟨text :: texts, hsaid texts htexts, ?_⟩, hnetworks⟩
      simp [Setting.tidied, hempty]
    next hempty =>
      cases hn : Net.Network.parse? (Text.strip text) with
      | none =>
        rw [hn] at h
        cases h
      | some n =>
        rw [hn] at h
        obtain ⟨rest, hrest, h⟩ := of_bind_ok h
        cases h
        obtain ⟨⟨texts, htexts, rfl⟩, hnetworks⟩ := ih hrest
        refine ⟨⟨text :: texts, hsaid texts htexts, ?_⟩, List.forall_mem_cons.mpr ⟨?_, hnetworks⟩⟩
        · simp [Setting.tidied, hempty]
        · exact ⟨n.family, by rw [familyOf?, hn]; rfl⟩

/-! ## What is checked first -/

/-- The settings whose values are checked before all others. -/
def checkedFirst : List Setting :=
  [.incomingProxyPort, .outgoingProxyPort, .firewallBinPath, .firewallSaveBinPath]

section Agree

variable {s t : Settings}

/-- The policies differ in what is checked first, their family and their networks only, and each has
the networks of its family. -/
structure Matching (s : Settings) (p q : Policy) : Prop where
  rest : q = { p with
    inboundPort := q.inboundPort, outboundPort := q.outboundPort, ipv6 := q.ipv6
    binary := q.binary, saveBinary := q.saveBinary, subnets := q.subnets }
  subnets : ∃ vs ts, members s .subnetsToIgnore = .ok vs ∧ networks vs = .ok ts ∧
    p.subnets = ofFamily p.family ts ∧ q.subnets = ofFamily q.family ts

/-- **No further check depends on what is checked first, or on the family.** -/
theorem alike_build_of_checked {six six' : Bool} {I O : Int → Int → Prop}
    {B : String × String → String × String → Prop} (same : SameBut checkedFirst s t)
    (hin : EndsAlike I (proxyPort s .incomingProxyPort) (proxyPort t .incomingProxyPort))
    (hout : EndsAlike O (proxyPort s .outgoingProxyPort) (proxyPort t .outgoingProxyPort))
    (hbinaries : EndsAlike B (binaries s six) (binaries t six')) :
    (build s six).Alike (fun p q => (p.ipv6 = six ∧ q.ipv6 = six') ∧
      I p.inboundPort q.inboundPort ∧ O p.outboundPort q.outboundPort ∧
      B (p.binary, p.saveBinary) (q.binary, q.saveBinary) ∧ Matching s p q) (build t six') := by
  unfold build
  refine (alike_except hin).bind fun inboundPort inboundPort' hI => ?_
  refine (alike_except hout).bind fun outboundPort outboundPort' hO => ?_
  refine (alike_except hbinaries).bind fun b b' hB => ?_
  -- the steps from here on read the same settings
  refine alike_bind_of_eq ?_ fun redirectPorts => ?_
  · simp (disch := decide) only [redirectPortList, members, same.getD]
  refine alike_bind_of_eq ?_ fun uid => ?_
  · simp (disch := decide) only [owner, same.getD]
  refine alike_bind_of_eq ?_ fun gid => ?_
  · simp (disch := decide) only [owner, same.getD]
  refine alike_bind_of_eq ?_ fun inboundIgnored => ?_
  · simp (disch := decide) only [texts, members, same.getD]
  refine alike_bind_of_eq ?_ fun outboundIgnored => ?_
  · simp (disch := decide) only [texts, members, same.getD]
  refine alike_bind_of_ok ?_ fun vs hvs => ?_
  · simp (disch := decide) only [members, same.getD]
  refine ((computes_sanitizeSubnets six vs).alike (computes_sanitizeSubnets six' vs)).bind ?_
  rintro subnets subnets' ⟨ts, hts, rfl, rfl⟩
  refine alike_pure ⟨⟨rfl, rfl⟩, hI, hO, hB, ?_, vs, ts, hvs, hts, rfl, rfl⟩
  simp (disch := decide) only [same.flag, same.text]

end Agree

/-! ## Binaries -/

/-- The flavour that the settings ask for. -/
def flavour (s : Settings) : Value :=
  let mode := s.getD .iptablesMode .null
  if mode.isTruthy then mode else .text Mode.legacy.name

/-- A flavour has usual binaries for both families, or for none. -/
theorem endsAlike_usual (mode : Value) (six six' : Bool) :
    EndsAlike (fun b b' => Backend.defaultBinaries mode six = .ok b ∧
        Backend.defaultBinaries mode six' = .ok b')
      (Backend.defaultBinaries mode six) (Backend.defaultBinaries mode six') := by
  unfold Backend.defaultBinaries
  split
  · cases mode.said with
    | ok text => exact .error _
    | error f => exact .error _
  · exact .error _
  · exact .ok ⟨rfl, rfl⟩

section Binaries

variable {s t : Settings}

/-- **No check but that of the binaries depends on the paths.** -/
theorem alike_build_of_binaries {six six' : Bool} {B : String × String → String × String → Prop}
    (same : SameBut paths s t) (h : EndsAlike B (binaries s six) (binaries t six')) :
    (build s six).Alike (fun p q => (p.ipv6 = six ∧ q.ipv6 = six') ∧
      (p.inboundPort = q.inboundPort ∧ p.outboundPort = q.outboundPort) ∧
      B (p.binary, p.saveBinary) (q.binary, q.saveBinary) ∧ Matching s p q) (build t six') := by
  have hport (k : Setting) (hk : k ∉ paths) :
      EndsAlike (fun a b => a = b) (proxyPort s k) (proxyPort t k) :=
    same.proxyPort hk ▸ .refl _
  have hin := hport .incomingProxyPort (by decide)
  have hout := hport .outgoingProxyPort (by decide)
  refine (alike_build_of_checked (same.mono (by decide)) hin hout h).mono ?_
  exact fun p q ⟨hipv6, hI, hO, hB, hmatch⟩ => ⟨hipv6, ⟨hI, hO⟩, hB, hmatch⟩

/-- Paths are given for both binaries or for none. -/
def PairedPaths (s : Settings) : Prop := flag s .firewallBinPath = flag s .firewallSaveBinPath

/-- With paths for both binaries or for none, the usual ones are only looked up. -/
theorem binaries_of_paired (paired : PairedPaths s) (six : Bool) : binaries s six = (do
    let usual ← Backend.defaultBinaries (flavour s) six
    if flag s .firewallBinPath then return (text s .firewallBinPath, text s .firewallSaveBinPath)
    else return usual) := by
  unfold PairedPaths at paired
  unfold binaries
  rw [← paired, if_neg (not_not_intro rfl)]
  rfl

/-- With a path for one of the binaries only, there are none. -/
theorem binaries_of_unpaired (unpaired : ¬PairedPaths s) (six : Bool) :
    binaries s six = .error (.rejected .unpairedPaths) := by
  unfold PairedPaths at unpaired
  unfold binaries
  rw [if_pos unpaired]
  rfl

/-- The two policies have the same binaries, if these are given by their paths, or else those of one
flavour for the two families. -/
def SameFlavour (s : Settings) (b b' : String × String) : Prop :=
  if flag s .firewallBinPath then b = b'
  else Backend.defaultBinaries (flavour s) false = .ok b ∧
    Backend.defaultBinaries (flavour s) true = .ok b'

/-- The binaries for the two families fail alike. -/
theorem endsAlike_families (s : Settings) :
    EndsAlike (SameFlavour s) (binaries s false) (binaries s true) := by
  by_cases paired : PairedPaths s
  · rw [binaries_of_paired paired, binaries_of_paired paired]
    refine (endsAlike_usual (flavour s) false true).bind fun b b' h => ?_
    unfold SameFlavour
    split
    · exact .refl _
    · exact .ok h
  · rw [binaries_of_unpaired paired, binaries_of_unpaired paired]
    exact .error _

/-- With other paths the binaries fail alike. -/
theorem endsAlike_paths (same : SameBut paths s t) (hs : PairedPaths s) (ht : PairedPaths t)
    (six six' : Bool) : EndsAlike (fun _ _ => True) (binaries s six) (binaries t six') := by
  have hflavour : flavour t = flavour s := by
    simp (disch := decide) only [flavour, same.getD]
  rw [binaries_of_paired hs, binaries_of_paired ht, hflavour]
  -- once the usual binaries are found, nothing fails any more
  refine (endsAlike_usual (flavour s) six six').bind fun usual usual' _ => ?_
  split <;> split <;> exact .ok trivial

end Binaries

/-! ## The policies for the two families -/

/-- The second policy is that of the same settings for version 6, as the first one is for version 4:
they differ in the binaries, unless these are given by their paths, and in the networks only. The
networks are those of the texts that the settings list, without white space around them and without
empty ones, each for its family, in their order and as often as they are listed. -/
structure Counterpart (s : Settings) (p q : Policy) : Prop where
  ipv6 : p.ipv6 = false ∧ q.ipv6 = true
  rest : q = { p with
    ipv6 := q.ipv6, binary := q.binary, saveBinary := q.saveBinary, subnets := q.subnets }
  explicit : flag s .firewallBinPath = true → q.binary = p.binary ∧ q.saveBinary = p.saveBinary
  usual : flag s .firewallBinPath = false →
    Backend.defaultBinaries (flavour s) false = .ok (p.binary, p.saveBinary) ∧
    Backend.defaultBinaries (flavour s) true = .ok (q.binary, q.saveBinary)
  subnets : ∃ vs texts, members s .subnetsToIgnore = .ok vs ∧ vs.mapM Value.said = .ok texts ∧
    p.subnets = ofFamily .v4 (Setting.tidied texts) ∧
    q.subnets = ofFamily .v6 (Setting.tidied texts) ∧
    ∀ t ∈ Setting.tidied texts, familyOf? t = some .v4 ∨ familyOf? t = some .v6

theorem alike_counterpart (s : Settings) :
    (build s false).Alike (Counterpart s) (build s true) := by
  refine (alike_build_of_binaries (.refl _ s) (endsAlike_families s)).mono ?_
  rintro p q ⟨⟨hp, hq⟩, ⟨hin, hout⟩, hbinaries, rest, vs, ts, hvs, hts, hsubnets, hsubnets'⟩
  rw [← hin, ← hout] at rest
  obtain ⟨⟨texts, htexts, rfl⟩, hnetworks⟩ := networks_eq_ok hts
  have hpf : p.family = .v4 := by simp [family, hp]
  have hqf : q.family = .v6 := by simp [family, hq]
  refine ⟨⟨hp, hq⟩, rest, fun explicit => ?_, fun usual => ?_, vs, texts, hvs, htexts,
    hpf ▸ hsubnets, hqf ▸ hsubnets', fun t ht => ?_⟩
  · rw [SameFlavour, if_pos explicit, Prod.mk.injEq] at hbinaries
    exact ⟨hbinaries.1.symm, hbinaries.2.symm⟩
  · rwa [SameFlavour, if_neg (by simp [usual])] at hbinaries
  · obtain ⟨f, hf⟩ := hnetworks t ht
    cases f with
    | v4 => exact Or.inl hf
    | v6 => exact Or.inr hf

/-- Settings with the same values are the same for a policy. -/
theorem build_congr {s t : Settings} (h : ∀ k, s.get? k = t.get? k) (six : Bool) :
    build s six = build t six := by
  have hgetD : s.getD = t.getD := funext₂ fun k v => by rw [Settings.getD, h, Settings.getD]
  have hproxyPort : proxyPort s = proxyPort t := funext fun k => by rw [proxyPort, hgetD, proxyPort]
  have hmembers : members s = members t := funext fun k => by rw [members, hgetD, members]
  have hflag : flag s = flag t := funext fun k => by rw [flag, hgetD, flag]
  have htext : text s = text t := funext fun k => by rw [text, given, hgetD, text, given]
  have howner : owner s = owner t := funext fun k => by rw [owner, hgetD, owner]
  have hbinaries : binaries s six = binaries t six := by
    rw [binaries, hgetD, hflag, htext, binaries]
  have htexts : texts s = texts t := funext fun k => by rw [texts, hmembers, texts]
  have hredirect : redirectPortList s = redirectPortList t := by
    rw [redirectPortList, hmembers, redirectPortList]
  rw [build, hproxyPort, hbinaries, hredirect, howner, htexts, hmembers, htext, hflag, build]

section Paths

open CommandLine (policies planned withoutPaths)

variable {s t : Settings} {binary saveBinary : String}

theorem withoutPaths_eq (s : Settings) : withoutPaths s = withPaths s "" "" := rfl

theorem get?_withPaths (s : Settings) (binary saveBinary : String) (k : Setting) :
    (withPaths s binary saveBinary).get? k =
      if k = .firewallSaveBinPath then some (.text saveBinary)
      else if k = .firewallBinPath then some (.text binary) else s.get? k := by
  rw [withPaths, Settings.get?_set, Settings.get?_set]

theorem getD_withPaths_binary :
    (withPaths s binary saveBinary).getD .firewallBinPath .null = .text binary := by
  simp [withPaths, Settings.getD, Settings.get?_set]

theorem getD_withPaths_saveBinary :
    (withPaths s binary saveBinary).getD .firewallSaveBinPath .null = .text saveBinary := by
  simp [withPaths, Settings.getD, Settings.get?_set]

/-- Two paths that are both empty, or both not, count as paths for both binaries or for none. -/
theorem pairedPaths_withPaths (s : Settings) (h : binary = "" ↔ saveBinary = "") :
    PairedPaths (withPaths s binary saveBinary) := by
  have hempty : binary.isEmpty = saveBinary.isEmpty := by
    rw [Bool.eq_iff_iff, String.isEmpty_iff, String.isEmpty_iff, h]
  rw [PairedPaths, flag, flag, getD_withPaths_binary, getD_withPaths_saveBinary]
  exact congrArg (!·) hempty

/-- A policy is built alike whatever was logged. -/
theorem alike_build_self (s : Settings) (six : Bool) :
    (build s six).Alike (fun p q => p = q) (build s six) := by
  refine (alike_build_of_binaries (.refl _ s) (.refl (binaries s six))).mono ?_
  rintro p q ⟨⟨hp, hq⟩, ⟨hin, hout⟩, hbinaries, rest, vs, ts, -, -, hsubnets, hsubnets'⟩
  have hfamily : q.family = p.family := by rw [family, family, hp, hq]
  rw [Prod.mk.injEq] at hbinaries
  rw [rest, ← hin, ← hout, ← hbinaries.1, ← hbinaries.2, hsubnets', hfamily, ← hsubnets, hq, ← hp]

/-- The second policy does not depend on the paths. -/
theorem alike_planned_withPaths (s : Settings) (b c b' c' : String) (h : b = "" ↔ c = "")
    (h' : b' = "" ↔ c' = "") :
    (planned (withPaths s b c)).Alike (fun x y => x.2 = y.2) (planned (withPaths s b' c')) := by
  have same : SameBut paths (withPaths s b c) (withPaths s b' c') :=
    (sameBut_withPaths s b c).trans (sameBut_withPaths s b' c').symm
  have hsecond : build (withoutPaths (withPaths s b c)) true =
      build (withoutPaths (withPaths s b' c')) true := by
    refine build_congr (fun k => ?_) true
    simp only [withoutPaths_eq, get?_withPaths]
    split
    · rfl
    · split <;> rfl
  have hbinaries := endsAlike_paths same (pairedPaths_withPaths s h) (pairedPaths_withPaths s h')
    false false
  unfold planned
  refine (alike_build_of_binaries same hbinaries).bind fun p q _ => ?_
  rw [same.flag (by decide), hsecond]
  split
  · refine (alike_build_self _ _).bind ?_
    rintro p _ rfl
    exact alike_pure rfl
  · exact alike_pure rfl

/-- **One set of settings yields matching policies for both families.** Either both are built, and
the second one is the counterpart of the first one, or both fail with the same error. Where the host
is not asked for the binaries, the second policy of a run, or the error, is the same with paths for
both binaries and with none. -/
theorem families_match {σ : Type} (s : Settings) :
    (build s false).Alike (Counterpart s) (build s true) ∧
    ∀ b c, b ≠ "" → c ≠ "" → ∃ r r',
      (policies (withoutPaths s) false : Action σ (Policy × Option Policy)).Computes r ∧
      (policies (withPaths s b c) false : Action σ (Policy × Option Policy)).Computes r' ∧
      r.map Prod.snd = r'.map Prod.snd := by
  refine ⟨alike_counterpart s, fun b c hb hc => ?_⟩
  refine ⟨_, _, CommandLine.computes_policies _, CommandLine.computes_policies _, ?_⟩
  have hends := alike_planned_withPaths s "" "" b c Iff.rfl (iff_of_false hb hc) #[] #[]
  exact hends.map_eq Prod.snd Prod.snd

/-- Settings that list networks of both families, with white space around them and between them. -/
def bothFamilies : Settings :=
  Settings.defaults.update [(.incomingProxyPort, .int 4143), (.outgoingProxyPort, .int 4140),
    (.subnetsToIgnore, .list [.text " 10.0.0.0/8", .text "fd00::/8\t", .text " ",
      .text "192.168.0.1", .text "10.0.0.0/8"])]

/-- Each network goes to its family, without the white space. -/
theorem families_match_listed :
    ∃ p q, ((build bothFamilies false).run #[]).1 = .ok p ∧
      ((build bothFamilies true).run #[]).1 = .ok q ∧ Counterpart bothFamilies p q ∧
      p.subnets = ["10.0.0.0/8", "192.168.0.1", "10.0.0.0/8"] ∧ q.subnets = ["fd00::/8"] ∧
      ∃ r r', (policies (withoutPaths bothFamilies) false :
          Action Unit (Policy × Option Policy)).Computes r ∧
        (policies (withPaths bothFamilies "/opt/iptables" "/opt/iptables-save") false :
          Action Unit (Policy × Option Policy)).Computes r' ∧
        r.map Prod.snd = r'.map Prod.snd := by
  obtain ⟨hmatch, hpaths⟩ := families_match bothFamilies
  have hends := hmatch #[] #[]
  have hfirst : ∃ p, ((build bothFamilies false).run #[]).1 = .ok p ∧
      p.subnets = ["10.0.0.0/8", "192.168.0.1", "10.0.0.0/8"] := ⟨_, rfl, by decide +kernel⟩
  have hsecond : ∃ p, ((build bothFamilies true).run #[]).1 = .ok p ∧
      p.subnets = ["fd00::/8"] := ⟨_, rfl, by decide +kernel⟩
  obtain ⟨p, hp, hsubnets⟩ := hfirst
  obtain ⟨q, hq, hsubnets'⟩ := hsecond
  rw [hp, hq] at hends
  cases hends with
  | ok h =>
    exact ⟨p, q, hp, hq, h, hsubnets, hsubnets', hpaths _ _ (by decide) (by decide)⟩

end Paths

end PodRedirect.Policy
