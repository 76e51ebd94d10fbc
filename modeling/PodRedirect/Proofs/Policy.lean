import PodRedirect.Policy.Build
import PodRedirect.Proofs.Logged

/-!
# Policies and their settings

What a policy holds, seen from the settings that it was built from. Every field of it is determined
by the value of one setting or of a few, and a policy is only built if all of them could be read.

## Main definitions

* `Logged.Gives`: a computation that logs gives a value
* `Policy.SameBut`: settings with the same values but for a few
* `Policy.Built`: the fields of a policy and the settings that they come from

## Main results

* `Policy.built_of_gives`: a policy that is built has these fields
* `Policy.Built.exists_defaultBinaries`: its binaries, where no paths are given
* `Settings.get?_set`: a setting that is set has its new value, and the others the old ones
-/

namespace PodRedirect

/-! ## Computations that log -/

namespace Logged

variable {ε α β : Type}

/-- The computation gives a value, whatever was logged before it and in it. -/
def Gives (x : Logged ε α) (a : α) : Prop := ∃ log log', x.run log = (.ok a, log')

theorem gives_of_run {x : Logged ε α} {a : α} {log : Array Log.Entry}
    (h : (x.run log).1 = .ok a) : x.Gives a := ⟨log, (x.run log).2, Prod.ext h rfl⟩

/-- What gives a value does so in two steps, each of which gives one. -/
theorem Gives.of_bind {x : Logged ε α} {f : α → Logged ε β} {b : β} (h : (x >>= f).Gives b) :
    ∃ a, x.Gives a ∧ (f a).Gives b := by
  obtain ⟨log, log', hrun⟩ := h
  rw [run_bind] at hrun
  rcases hx : x.run log with ⟨e | a, log''⟩
  · -- after a failure the second step is not taken
    rw [hx] at hrun
    cases hrun
  · rw [hx] at hrun
    exact ⟨a, ⟨log, log'', hx⟩, log'', log', hrun⟩

theorem Gives.of_pure {a b : α} (h : Gives (pure a : Logged ε α) b) : a = b := by
  obtain ⟨log, log', hrun⟩ := h
  cases hrun
  rfl

theorem Gives.of_except {x : Except ε α} {a : α} (h : Gives (liftM x : Logged ε α) a) :
    x = .ok a := by
  obtain ⟨log, log', hrun⟩ := h
  exact congrArg Prod.fst hrun

theorem not_gives_throw {e : ε} {a : α} : ¬ Gives (throw e : Logged ε α) a := by
  rintro ⟨log, log', hrun⟩
  cases hrun

/-- If one of two computations gives a value, the other one gives a related one. -/
theorem Alike.gives {R : α → β → Prop} {x : Logged ε α} {y : Logged ε β} {b : β} (h : x.Alike R y)
    (hy : y.Gives b) : ∃ a, x.Gives a ∧ R a b := by
  obtain ⟨log, log', hrun⟩ := hy
  have hends := h log log
  rw [hrun] at hends
  generalize hx : (x.run log).1 = r at hends
  cases hends with
  | ok hR => exact ⟨_, gives_of_run hx, hR⟩

theorem Computes.gives_iff {x : Logged ε α} {r : Except ε α} (h : x.Computes r) {a : α} :
    x.Gives a ↔ r = .ok a := by
  constructor
  · rintro ⟨log, log', hrun⟩
    rw [← h log, hrun]
  · exact fun hr => gives_of_run ((h #[]).trans hr)

/-- Two steps that give values do so one after the other, if the second one does not depend on what
was logged. -/
theorem Gives.bind {x : Logged ε α} {f : α → Logged ε β} {a : α} {b : β} (hx : x.Gives a)
    (hf : (f a).Gives b) (hself : (f a).Alike (fun b c => b = c) (f a)) : (x >>= f).Gives b := by
  obtain ⟨log, log', hrun⟩ := hx
  obtain ⟨log₁, log₁', hrun₁⟩ := hf
  obtain ⟨log₂, hbind⟩ := fst_run_bind_of_ok (congrArg Prod.fst hrun) f
  have hends := hself log₂ log₁
  rw [← hbind, hrun₁] at hends
  generalize hresult : ((x >>= f).run log).1 = r at hends
  cases hends with
  | ok h => exact gives_of_run (hresult.trans (congrArg Except.ok h))

end Logged

/-! ## Settings -/

namespace Settings

/-- The first entry of a setting counts. -/
theorem get?_cons (k k' : Setting) (v : Value) (s : Settings) :
    get? ((k, v) :: s) k' = if k' = k then some v else s.get? k' := by
  rw [get?, List.lookup_cons]
  by_cases h : k' = k
  · rw [if_pos h, beq_iff_eq.mpr h]
  · rw [if_neg h, beq_eq_false_iff_ne.mpr h]
    rfl

/-- A setting that is set has its new value, and the others have the values that they had. -/
theorem get?_set (s : Settings) (k k' : Setting) (v : Value) :
    (s.set k v).get? k' = if k' = k then some v else s.get? k' := by
  induction s with
  | nil => exact get?_cons k k' v []
  | cons e s ih =>
    obtain ⟨key, old⟩ := e
    rw [set]
    by_cases hkey : key = k
    · subst hkey
      rw [if_pos rfl, get?_cons, get?_cons]
      split <;> rfl
    · rw [if_neg hkey, get?_cons, get?_cons, ih]
      -- the entry that was passed over is another setting's
      by_cases h : k' = key
      · subst h
        rw [if_pos rfl, if_pos rfl, if_neg hkey]
      · rw [if_neg h, if_neg h]

end Settings

namespace Policy

open Logged (Gives)

/-! ## Texts that are given -/

section Text

variable {s : Settings} {key : Setting} {t : String}

/-- A setting that is given as a text has this text. -/
theorem text_of_getD (h : s.getD key .null = .text t) : text s key = t := by
  rw [text, given, h]
  split
  · rfl
  next hempty =>
    have ht : t = "" := by simpa [Value.isTruthy] using hempty
    rw [ht]
    rfl

theorem flag_of_getD (h : s.getD key .null = .text t) (nonempty : t ≠ "") : flag s key = true := by
  rw [flag, h]
  simpa [Value.isTruthy] using nonempty

end Text

/-! ## Settings that differ in a few values -/

/-- The settings have the same values but for some of them. -/
def SameBut (ks : List Setting) (s t : Settings) : Prop := ∀ k ∉ ks, s.get? k = t.get? k

/-- The settings for the paths of binaries. -/
def paths : List Setting := [.firewallBinPath, .firewallSaveBinPath]

/-- The settings with paths for both binaries. -/
def withPaths (s : Settings) (binary saveBinary : String) : Settings :=
  (s.set .firewallBinPath (.text binary)).set .firewallSaveBinPath (.text saveBinary)

section SameBut

variable {s t : Settings} {ks : List Setting} {k : Setting}

theorem SameBut.refl (ks : List Setting) (s : Settings) : SameBut ks s s := fun _ _ => rfl

theorem SameBut.symm (same : SameBut ks s t) : SameBut ks t s := fun k hk => (same k hk).symm

theorem SameBut.trans {u : Settings} (same : SameBut ks s t) (same' : SameBut ks t u) :
    SameBut ks s u := fun k hk => (same k hk).trans (same' k hk)

theorem SameBut.mono {ks' : List Setting} (same : SameBut ks s t) (h : ks ⊆ ks') :
    SameBut ks' s t := fun k hk => same k fun hmem => hk (h hmem)

theorem sameBut_set (s : Settings) (k : Setting) (v : Value) : SameBut [k] (s.set k v) s :=
  fun k' hk' => by rw [Settings.get?_set, if_neg fun h => hk' (List.mem_singleton.mpr h)]

theorem SameBut.getD (same : SameBut ks s t) (hk : k ∉ ks) (v : Value) :
    s.getD k v = t.getD k v := by
  rw [Settings.getD, same k hk, Settings.getD]

theorem SameBut.flag (same : SameBut ks s t) (hk : k ∉ ks) : flag s k = flag t k := by
  rw [Policy.flag, same.getD hk, Policy.flag]

theorem SameBut.text (same : SameBut ks s t) (hk : k ∉ ks) : text s k = text t k := by
  rw [Policy.text, given, same.getD hk, Policy.text, given]

theorem SameBut.proxyPort (same : SameBut ks s t) (hk : k ∉ ks) :
    proxyPort s k = proxyPort t k := by
  rw [Policy.proxyPort, same.getD hk, Policy.proxyPort]

theorem SameBut.binaries (same : SameBut ks s t)
    (hks : ∀ k ∈ [Setting.firewallBinPath, .firewallSaveBinPath, .iptablesMode], k ∉ ks)
    (six : Bool) : binaries s six = binaries t six := by
  have hbinary := hks .firewallBinPath (by decide)
  have hsave := hks .firewallSaveBinPath (by decide)
  have hmode := hks .iptablesMode (by decide)
  rw [Policy.binaries, same.flag hbinary, same.flag hsave, same.getD hmode, same.text hbinary,
    same.text hsave, Policy.binaries]

theorem sameBut_withPaths (s : Settings) (binary saveBinary : String) :
    SameBut paths (withPaths s binary saveBinary) s :=
  ((sameBut_set _ _ _).mono (by decide)).trans ((sameBut_set _ _ _).mono (by decide))

end SameBut

/-! ## Building a policy -/

/-- The policy has its fields from the settings, for version 6 of the addresses or for version 4. -/
structure Built (s : Settings) (six : Bool) (p : Policy) : Prop where
  inboundPort : proxyPort s .incomingProxyPort = .ok p.inboundPort
  outboundPort : proxyPort s .outgoingProxyPort = .ok p.outboundPort
  ipv6 : p.ipv6 = six
  binaries : binaries s six = .ok (p.binary, p.saveBinary)
  redirectPorts : redirectPortList s = .ok p.redirectPorts
  redirect : p.redirect = if p.redirectPorts.isEmpty then .all else .listed
  uid : owner s .proxyUid = .ok p.uid
  gid : owner s .proxyGid = .ok p.gid
  inboundIgnored : texts s .inboundPortsToIgnore = .ok p.inboundIgnored
  outboundIgnored : texts s .outboundPortsToIgnore = .ok p.outboundIgnored
  subnets : ∃ vs, members s .subnetsToIgnore = .ok vs ∧ (sanitizeSubnets six vs).Gives p.subnets
  netns : p.netns = text s .netns
  simulate : p.simulate = flag s .simulate
  useWaitFlag : p.useWaitFlag = flag s .useWaitFlag
  continueOnError : p.continueOnError = flag s .continueOnError
  proxyLoopback : p.proxyLoopback = flag s .redirectProxyLoopback
  dropFin : p.dropFin = flag s .dropFinForTesting

/-- **A policy has its fields from the settings that it is built from.** -/
theorem built_of_gives {s : Settings} {six : Bool} {p : Policy} (h : (build s six).Gives p) :
    Built s six p := by
  -- every step before the last reads one field, and the last one puts them together
  obtain ⟨inboundPort, hinbound, h⟩ := h.of_bind
  obtain ⟨outboundPort, houtbound, h⟩ := h.of_bind
  obtain ⟨⟨binary, saveBinary⟩, hbinaries, h⟩ := h.of_bind
  obtain ⟨redirectPorts, hredirect, h⟩ := h.of_bind
  obtain ⟨uid, huid, h⟩ := h.of_bind
  obtain ⟨gid, hgid, h⟩ := h.of_bind
  obtain ⟨inboundIgnored, hin, h⟩ := h.of_bind
  obtain ⟨outboundIgnored, hout, h⟩ := h.of_bind
  obtain ⟨vs, hmembers, h⟩ := h.of_bind
  obtain ⟨subnets, hsubnets, h⟩ := h.of_bind
  obtain rfl := h.of_pure
  exact {
    inboundPort := hinbound.of_except
    outboundPort := houtbound.of_except
    ipv6 := rfl
    binaries := hbinaries.of_except
    redirectPorts := hredirect.of_except
    redirect := rfl
    uid := huid.of_except
    gid := hgid.of_except
    inboundIgnored := hin.of_except
    outboundIgnored := hout.of_except
    subnets := ⟨vs, hmembers.of_except, hsubnets⟩
    netns := rfl
    simulate := rfl
    useWaitFlag := rfl
    continueOnError := rfl
    proxyLoopback := rfl
    dropFin := rfl }

/-- Without paths, a policy has the usual binaries of a flavour. -/
theorem Built.exists_defaultBinaries {s : Settings} {six : Bool} {p : Policy} (h : Built s six p)
    (unset : flag s .firewallBinPath = false) (unset' : flag s .firewallSaveBinPath = false) :
    ∃ mode, Backend.defaultBinaries mode six = .ok (p.binary, p.saveBinary) := by
  have hbinaries := h.binaries
  simp only [Policy.binaries, unset, unset', ne_eq, not_true_eq_false, if_false,
    Bool.false_eq_true, bind_pure] at hbinaries
  exact ⟨_, hbinaries⟩

end Policy

end PodRedirect
