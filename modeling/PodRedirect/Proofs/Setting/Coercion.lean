import PodRedirect.Proofs.Setting.Layer
import PodRedirect.Proofs.Setting.List

/-!
# Taking the entries of a mapping

The entries of a mapping are taken one after the other. Those whose keys name no setting are passed
over, each with a warning. The others are set, and the last entry for a setting counts, in the place
of the first. The first entry whose value cannot be taken ends it all. Settings that were taken are
taken again as they are, for a value of a kind is taken as itself.

## Main definitions

* `Settings.named`, `Settings.warnings`: the entries that name settings, and the warnings about the
  others
* `Settings.Folds`: what the entries of a mapping come to, and what is warned about

## Main results

* `Setting.coerce_coerce`: a value that was taken is taken as itself
* `Settings.run_coerceOnto`: taking entries, with the warnings
* `Settings.coerce_exact`: what taking the entries of a mapping comes to
-/

namespace PodRedirect

/-! ## Values that were taken -/

/-- The value can be taken as one of the kind of the setting. -/
def Setting.Takes (k : Setting) (v : Value) : Prop := ∃ w, k.coerce v = .ok w

/-- **A value that was taken is taken as itself.** -/
theorem Setting.coerce_coerce {k : Setting} {v w : Value} (h : k.coerce v = .ok w) :
    k.coerce w = .ok w := by
  have hends := k.coerces v
  rw [h] at hends
  cases hends with
  | ok has =>
    cases hk : k.kind with
    | list =>
      unfold coerce at h
      rw [hk] at h
      dsimp only at h
      cases hentries : entries v with
      | error f =>
        rw [hentries] at h
        cases h
      | ok ss =>
        rw [hentries] at h
        cases h
        exact coerce_of_entries hk (entries_of_entries hentries)
    | flag | int | text =>
      rw [hk] at has
      cases has
      unfold coerce
      rw [hk]
      rfl

namespace Settings

variable {s t : Settings} {k : Setting} {v : Value} {es : List (Value × Value)}

/-! ## Places of settings -/

theorem set_of_not_mem (h : k ∉ keys s) : s.set k v = s ++ [(k, v)] := by
  induction s with
  | nil => rfl
  | cons e s ih =>
    obtain ⟨hne, hnot⟩ := List.ne_and_not_mem_of_not_mem_cons h
    rw [set, if_neg fun heq => hne heq.symm, ih hnot]
    rfl

/-- Settings that are laid over others without a value for any of them stand behind these. -/
theorem update_of_nodup (h : (keys (s ++ t)).Nodup) : s.update t = s ++ t := by
  induction t generalizing s with
  | nil => exact (List.append_nil s).symm
  | cons e t ih =>
    have hassoc : s ++ e :: t = (s ++ [e]) ++ t := by simp
    have hnot : e.1 ∉ keys s := by
      rw [keys, List.map_append] at h
      exact fun hmem => List.disjoint_of_nodup_append h hmem List.mem_cons_self
    show (s.set e.1 e.2).update t = _
    rw [set_of_not_mem hnot, hassoc]
    exact ih (hassoc ▸ h)

/-- Settings that are set one after the other keep their first places. -/
theorem keys_update_nil (t : Settings) : keys (update [] t) = (keys t).eraseDups := by
  induction t using List.reverseRecOn with
  | nil => rfl
  | append_singleton t e ih =>
    have hupdate : update [] (t ++ [e]) = (update [] t).set e.1 e.2 := List.foldl_concat ..
    have hkeys : keys (t ++ [e]) = keys t ++ [e.1] := List.map_append ..
    rw [hupdate, hkeys, List.eraseDups_append]
    -- the last setting has a place already, or it gets one at the end
    by_cases hmem : e.1 ∈ keys t
    · have hnone : [e.1].removeAll (keys t) = [] := by simp [List.cons_removeAll, hmem]
      rw [keys_set_of_mem (by rw [ih]; exact List.mem_eraseDups.mpr hmem), ih, hnone]
      exact (List.append_nil _).symm
    · have hall : [e.1].removeAll (keys t) = [e.1] := by simp [List.cons_removeAll, hmem]
      rw [keys_set_of_not_mem (by rw [ih]; exact fun h => hmem (List.mem_eraseDups.mp h)), ih, hall]
      rfl

/-! ## Entries that name settings -/

/-- The entries that name settings, each with the setting instead of its key. -/
def named (es : List (Value × Value)) : List (Setting × Value) :=
  es.filterMap fun e => (Setting.named? e.1).map fun k => (k, e.2)

/-- The warnings about the entries that name no setting, in order. -/
def warnings (es : List (Value × Value)) : List Log.Entry :=
  (es.filter fun e => (Setting.named? e.1).isNone).map fun e =>
    ⟨.policyFile, .warning, Setting.unknownWarning e.1⟩

section Named

variable {e : Value × Value} {es : List (Value × Value)} {k : Setting}

theorem named_cons_of_unnamed (h : Setting.named? e.1 = none) : named (e :: es) = named es :=
  List.filterMap_cons_none (by rw [h]; rfl)

theorem named_cons_of_named (h : Setting.named? e.1 = some k) :
    named (e :: es) = (k, e.2) :: named es :=
  List.filterMap_cons_some (by rw [h]; rfl)

theorem warnings_cons_of_unnamed (h : Setting.named? e.1 = none) : warnings (e :: es) =
    ⟨.policyFile, .warning, Setting.unknownWarning e.1⟩ :: warnings es := by
  rw [warnings, List.filter_cons_of_pos (by rw [h]; rfl)]
  rfl

theorem warnings_cons_of_named (h : Setting.named? e.1 = some k) :
    warnings (e :: es) = warnings es := by
  rw [warnings, List.filter_cons_of_neg (by simp [h])]
  rfl

end Named

/-- The entries up to the first that is at fault. -/
def untilFault (es : List (Value × Value)) : List (Value × Value) :=
  es.takeWhile fun e => (fault? e).isNone

theorem untilFault_cons_of_sound {e : Value × Value} (h : fault? e = none) :
    untilFault (e :: es) = e :: untilFault es :=
  List.takeWhile_cons_of_pos (by rw [h]; rfl)

theorem untilFault_cons_of_fault {e : Value × Value} {f : Failure} (h : fault? e = some f) :
    untilFault (e :: es) = [] :=
  List.takeWhile_cons_of_neg (by simp [h])

/-- **Entries are taken one after the other, with a warning about each that names no setting**, up
to the first that is at fault. -/
theorem run_coerceOnto (given : Settings) (es : List (Value × Value)) (log : Array Log.Entry) :
    (coerceOnto id given es).run log =
      (taken given es, log ++ (warnings (untilFault es)).toArray) := by
  induction es generalizing given log with
  | nil => exact congrArg (Prod.mk _) (Array.append_empty).symm
  | cons e es ih =>
    obtain ⟨key, v⟩ := e
    rw [taken_cons, coerceOnto]
    cases hnamed : Setting.named? key with
    | none =>
      have hsound : fault? (key, v) = none := by rw [fault?, entry_of_unnamed hnamed]
      rw [untilFault_cons_of_sound hsound, warnings_cons_of_unnamed hnamed, Logged.run_bind]
      -- the warning is in the log before the rest is taken
      show (coerceOnto id given es).run (log.push _) = _
      rw [ih]
      simp
    | some k =>
      have hentry := entry_of_named (e := (key, v)) hnamed
      have hrun : (liftM (k.coerce (id v)) : Logged Failure Value).run log =
          (k.coerce v, log) := rfl
      dsimp only at hentry ⊢
      rw [Logged.run_bind, hrun]
      cases hcoerce : k.coerce v with
      | error f =>
        have hfault : fault? (key, v) = some f := by rw [fault?, hentry, hcoerce]; rfl
        rw [untilFault_cons_of_fault hfault]
        exact congrArg (Prod.mk _) (Array.append_empty).symm
      | ok w =>
        have hsound : fault? (key, v) = none := by rw [fault?, hentry, hcoerce]; rfl
        rw [untilFault_cons_of_sound hsound, warnings_cons_of_named hnamed]
        exact ih (given.set k w) log

/-! ## What entries come to -/

/-- What the entries of a mapping come to, and the warnings. If all values can be taken whose keys
name a setting, then the settings stand in the order in which they are first named, and have the
values of the last entries. Otherwise the first value that cannot be taken decides, and nothing is
said about what stands behind it. -/
inductive Folds (es : List (Value × Value)) : Except Failure Settings → List Log.Entry → Prop where
  | taken {s : Settings} (takes : ∀ e ∈ named es, e.1.Takes e.2)
    (order : keys s = ((named es).map Prod.fst).eraseDups)
    (values : ∀ k, EntriesGive es k (s.get? k)) : Folds es (.ok s) (warnings es)
  | fault {pre post : List (Value × Value)} {key v : Value} {k : Setting} {f : Failure}
    (entries : es = pre ++ (key, v) :: post) (before : ∀ e ∈ named pre, e.1.Takes e.2)
    (names : Setting.named? key = some k) (fault : k.coerce v = .error f) :
    Folds es (.error f) (warnings pre)

/-- What entries come to that are not at fault. -/
theorem named_of_sound {es : List (Value × Value)} (h : ∀ e ∈ es, fault? e = none) :
    (∀ e ∈ named es, e.1.Takes e.2) ∧ keys (es.filterMap found?) = (named es).map Prod.fst := by
  induction es with
  | nil => exact ⟨nofun, rfl⟩
  | cons e es ih =>
    obtain ⟨he, hes⟩ := List.forall_mem_cons.mp h
    obtain ⟨htakes, hkeys⟩ := ih hes
    rcases entry_cases he with ⟨hfound, hother⟩ | ⟨k, w, hfound, hdenotes, hcoerced⟩
    · have hunnamed : Setting.named? e.1 = none := Option.eq_none_iff_forall_ne_some.mpr
        fun k hk => hother k (Setting.named?_eq_some_iff.mp hk)
      rw [named_cons_of_unnamed hunnamed, List.filterMap_cons_none hfound]
      exact ⟨htakes, hkeys⟩
    · have hnamed := Setting.named?_eq_some_iff.mpr hdenotes
      rw [named_cons_of_named hnamed, List.filterMap_cons_some hfound]
      exact ⟨List.forall_mem_cons.mpr ⟨⟨w, hcoerced⟩, htakes⟩, congrArg (k :: ·) hkeys⟩

theorem untilFault_of_sound {es : List (Value × Value)} (h : ∀ e ∈ es, fault? e = none) :
    untilFault es = es :=
  List.takeWhile_eq_self_iff.mpr fun e he => by simp [h e he]

/-- An entry at fault names a setting that does not take its value. -/
theorem of_fault {key v : Value} {f : Failure} (h : fault? (key, v) = some f) :
    ∃ k, Setting.named? key = some k ∧ k.coerce v = .error f := by
  cases hnamed : Setting.named? key with
  | none =>
    rw [fault?, entry_of_unnamed hnamed] at h
    cases h
  | some k =>
    rw [fault?, entry_of_named (e := (key, v)) hnamed] at h
    dsimp only at h
    cases hcoerce : k.coerce v with
    | ok w =>
      rw [hcoerce] at h
      cases h
    | error f' =>
      rw [hcoerce] at h
      cases h
      exact ⟨k, rfl, hcoerce⟩

/-- **Entries come to what `Folds` says.** -/
theorem folds (es : List (Value × Value)) : Folds es (taken [] es) (warnings (untilFault es)) := by
  cases htaken : taken [] es with
  | ok s =>
    obtain ⟨hsound, hs⟩ := of_taken htaken
    obtain ⟨htakes, hkeys⟩ := named_of_sound hsound
    rw [untilFault_of_sound hsound]
    refine .taken htakes ?_ (entriesGive_of_taken htaken).2
    rw [hs, keys_update_nil, hkeys]
  | error f =>
    have hfirst : es.findSome? fault? = some f := by
      unfold taken at htaken
      split at htaken
      next hfault => rw [hfault, Except.error.inj htaken]
      next => cases htaken
    obtain ⟨pre, ⟨key, v⟩, post, rfl, hfault, hpre⟩ := List.findSome?_eq_some_iff.mp hfirst
    obtain ⟨k, hnamed, hcoerce⟩ := of_fault hfault
    have huntil : untilFault (pre ++ (key, v) :: post) = pre := by
      rw [untilFault, List.takeWhile_append_of_pos fun e he => by simp [hpre e he],
        List.takeWhile_cons_of_neg (by simp [hfault]), List.append_nil]
    rw [huntil]
    exact .fault rfl (named_of_sound hpre).1 hnamed hcoerce

/-- Entries that name no setting do not matter. -/
theorem taken_filter_named (given : Settings) (es : List (Value × Value)) :
    taken given (es.filter fun e => (Setting.named? e.1).isSome) = taken given es := by
  induction es generalizing given with
  | nil => rfl
  | cons e es ih =>
    obtain ⟨key, v⟩ := e
    rw [taken_cons]
    cases hnamed : Setting.named? key with
    | none => rw [List.filter_cons_of_neg (by simp [hnamed]), ih]
    | some k =>
      rw [List.filter_cons_of_pos (by simp [hnamed]), taken_cons, hnamed]
      dsimp only
      cases k.coerce v with
      | error f => rfl
      | ok w => exact ih (given.set k w)

/-! ## Settings that were taken -/

/-- Settings as entries, with their names as keys. -/
def asEntries (s : Settings) : List (Value × Value) := s.map fun e => (.text e.1.name, e.2)

theorem named?_name (k : Setting) : Setting.named? (.text k.name) = some k := by
  cases k <;> decide

/-- Settings whose values are taken as themselves are taken as they are, without a warning. -/
theorem run_coerce_asEntries {s : Settings} (nodup : (keys s).Nodup)
    (fixed : s.Each fun k v => k.coerce v = .ok v) (log : Array Log.Entry) :
    (coerce id (asEntries s)).run log = (.ok s, log) := by
  have hentry : ∀ e ∈ s, entry (.text e.1.name, e.2) = .ok (some e) := by
    intro e he
    rw [entry_of_named (named?_name e.1), fixed e he]
    rfl
  have hsound : ∀ e ∈ asEntries s, fault? e = none := by
    intro e he
    obtain ⟨x, hx, rfl⟩ := List.mem_map.mp he
    rw [fault?, hentry x hx]
  have hfound : (asEntries s).filterMap found? = s := by
    rw [asEntries, List.filterMap_map]
    conv_rhs => rw [← List.filterMap_some (l := s)]
    refine List.filterMap_congr fun e he => ?_
    show found? (.text e.1.name, e.2) = some e
    rw [found?, hentry e he]
  have htaken : taken [] (asEntries s) = .ok s := by
    rw [taken, List.findSome?_eq_none_iff.mpr hsound, hfound, update_of_nodup (s := []) nodup]
    rfl
  have hwarnings : warnings (asEntries s) = [] := by
    rw [warnings, List.filter_eq_nil_iff.mpr]
    · rfl
    · intro e he
      obtain ⟨x, -, rfl⟩ := List.mem_map.mp he
      simp [named?_name]
  -- no entry is at fault and each names its setting, so that the log stays as it is
  rw [coerce, run_coerceOnto, htaken, untilFault_of_sound hsound, hwarnings]
  exact congrArg (Prod.mk _) Array.append_empty

/-- The values of settings that were taken are taken as themselves. -/
theorem fixed_of_taken {es : List (Value × Value)} {s : Settings} (h : taken [] es = .ok s) :
    s.Each fun k v => k.coerce v = .ok v := by
  obtain ⟨hsound, rfl⟩ := of_taken h
  refine Each.update (s := []) nofun fun e he => ?_
  obtain ⟨x, hx, hfound⟩ := List.mem_filterMap.mp he
  rcases entry_cases (hsound x hx) with ⟨hnone, -⟩ | ⟨k, w, hsome, -, hcoerced⟩
  · rw [hnone] at hfound
    cases hfound
  · rw [hsome] at hfound
    cases hfound
    exact Setting.coerce_coerce hcoerced

/-- **Taking the entries of a mapping**, of any values as keys: it ends as `Folds` says, with the
warnings behind what was logged before. Without the entries that name no setting the result is the
same. The settings that it gives are given again, without a warning, where they are taken as entries
themselves. -/
theorem coerce_exact (es : List (Value × Value)) (log : Array Log.Entry) :
    ∃ r said, (coerce id es).run log = (r, log ++ said.toArray) ∧ Folds es r said ∧
      (∀ log', ((coerce id (es.filter fun e => (Setting.named? e.1).isSome)).run log').1 = r) ∧
      ∀ s, r = .ok s → ∀ log', (coerce id (asEntries s)).run log' = (.ok s, log') := by
  refine ⟨taken [] es, warnings (untilFault es), run_coerceOnto [] es log, folds es, fun log' => ?_,
    fun s hs log' => ?_⟩
  · rw [coerce, run_coerceOnto, taken_filter_named]
  · exact run_coerce_asEntries (entriesGive_of_taken hs).1 (fixed_of_taken hs) log'

/-- One setting under two keys, and a key that names none between them. -/
def aliased : List (Value × Value) :=
  [(.text "proxy_uid", .text " 5"), (.int 1, .null),
    (.text "proxy-uid", .float (.finite false 7 0))]

/-- The last of the two counts, and it is taken again. -/
theorem coerce_exact_aliased :
    Folds aliased (.ok [(.proxyUid, .int 7)])
      [⟨.policyFile, .warning, "Ignoring unknown option in policy file: 1"⟩] ∧
    ∀ log, (coerce id (asEntries [(.proxyUid, .int 7)])).run log =
      (.ok [(.proxyUid, .int 7)], log) := by
  obtain ⟨r, said, hrun, hfolds, -, hagain⟩ := coerce_exact aliased #[]
  have haliased : (coerce id aliased).run #[] = (.ok [(.proxyUid, .int 7)],
      #[⟨.policyFile, .warning, "Ignoring unknown option in policy file: 1"⟩]) := rfl
  obtain ⟨hr, hsaid⟩ := Prod.mk.inj (haliased.symm.trans hrun)
  rw [← hr] at hfolds hagain
  have hlist : said = [⟨.policyFile, .warning, "Ignoring unknown option in policy file: 1"⟩] := by
    simpa using congrArg Array.toList hsaid.symm
  exact ⟨hlist ▸ hfolds, hagain _ rfl⟩

end Settings

end PodRedirect
