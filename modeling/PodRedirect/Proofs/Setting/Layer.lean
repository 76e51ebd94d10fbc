import Mathlib.Data.List.Induction
import Mathlib.Data.List.Nodup
import PodRedirect.Proofs.Policy
import PodRedirect.Proofs.Port.Bounds
import PodRedirect.Proofs.Setting.File

/-!
# Layers of settings

Settings that are laid over others count before these, and leave those alone that they do not give.
A policy file gives a setting the value of the last of its entries that denotes it: the same setting
may be denoted by several keys, since an underscore counts as a dash.

## Main definitions

* `Setting.Denotes`: a key of a policy file denotes a setting
* `Settings.EntriesGive`: the value that entries give to a setting, if they give one
* `FileContent.Holds`: the entries of a policy file

## Main results

* `Settings.get?_update`: the values of settings that are laid over others
* `Settings.entriesGive_of_taken`: the settings of a policy file that is accepted
-/

namespace PodRedirect

namespace Setting

theorem mem_all (k : Setting) : k ∈ all := by cases k <;> decide

/-- A setting is known by its name. -/
theorem ofName?_eq_some_iff {name : String} {k : Setting} : ofName? name = some k ↔ name = k.name := by
  constructor
  · intro h
    have hname := List.find?_some h
    exact (of_decide_eq_true hname).symm
  · rintro rfl
    cases k <;> decide

/-- The key of an entry denotes the setting: its text is the name of the setting, with underscores
for dashes or not. -/
def Denotes (k : Setting) (key : Value) : Prop :=
  ∃ text, key.said = .ok text ∧ Text.replace '_' '-' text = k.name

theorem ofKey?_eq_some_iff {text : String} {k : Setting} :
    ofKey? text = some k ↔ Text.replace '_' '-' text = k.name := ofName?_eq_some_iff

/-- A key names the setting that it denotes. -/
theorem named?_eq_some_iff {key : Value} {k : Setting} : named? key = some k ↔ k.Denotes key := by
  rw [named?, Denotes, Value.said]
  cases key.display with
  | error f =>
    refine iff_of_false (Option.some_ne_none k).symm fun h => ?_
    obtain ⟨text, hsaid, -⟩ := h
    cases hsaid
  | ok text =>
    refine ofKey?_eq_some_iff.trans ⟨fun h => ⟨text, rfl, h⟩, fun h => ?_⟩
    obtain ⟨text', hsaid, hname⟩ := h
    cases hsaid
    exact hname

/-- A key denotes one setting only. -/
theorem Denotes.unique {k k' : Setting} {key : Value} (h : k.Denotes key) (h' : k'.Denotes key) :
    k = k' :=
  Option.some.inj ((named?_eq_some_iff.mpr h).symm.trans (named?_eq_some_iff.mpr h'))

end Setting

namespace Settings

variable {s t : Settings} {k : Setting}

/-! ## Settings over others -/

/-- The settings that have a value. -/
def keys (s : Settings) : List Setting := s.map Prod.fst

theorem get?_eq_none_iff : s.get? k = none ↔ k ∉ keys s := by
  induction s with
  | nil => exact iff_of_true rfl List.not_mem_nil
  | cons e s ih =>
    rw [get?_cons, keys, List.map_cons, List.mem_cons, not_or]
    split
    next heq => exact iff_of_false (Option.some_ne_none _) fun h => h.1 heq
    next hne => exact ih.trans ⟨fun h => ⟨hne, h⟩, fun h => h.2⟩

/-- A setting that has a value keeps its place when it is set. -/
theorem keys_set_of_mem {v : Value} (h : k ∈ keys s) : keys (s.set k v) = keys s := by
  induction s with
  | nil => cases h
  | cons e s ih =>
    rw [set]
    split
    next heq => exact congrArg (· :: keys s) heq.symm
    next hne =>
      have hmem : k ∈ keys s := (List.mem_cons.mp h).resolve_left fun heq => hne heq.symm
      exact congrArg (e.1 :: ·) (ih hmem)

theorem keys_set_of_not_mem {v : Value} (h : k ∉ keys s) : keys (s.set k v) = keys s ++ [k] := by
  induction s with
  | nil => rfl
  | cons e s ih =>
    obtain ⟨hne, hnot⟩ := List.ne_and_not_mem_of_not_mem_cons h
    rw [set, if_neg fun heq => hne heq.symm]
    exact congrArg (e.1 :: ·) (ih hnot)

/-- No setting has two values after one is set. -/
theorem nodup_set {v : Value} (h : (keys s).Nodup) : (keys (s.set k v)).Nodup := by
  by_cases hmem : k ∈ keys s
  · rw [keys_set_of_mem hmem]
    exact h
  · rw [keys_set_of_not_mem hmem]
    exact List.nodup_append_comm.mp (List.nodup_cons.mpr ⟨hmem, h⟩)

theorem nodup_update (h : (keys s).Nodup) (t : Settings) : (keys (s.update t)).Nodup := by
  induction t generalizing s with
  | nil => exact h
  | cons e t ih => exact ih (nodup_set h)

/-- Settings that all have a value keep their places under others. -/
theorem keys_update (h : ∀ k ∈ keys t, k ∈ keys s) : keys (s.update t) = keys s := by
  induction t generalizing s with
  | nil => rfl
  | cons e t ih =>
    obtain ⟨he, ht⟩ := List.forall_mem_cons.mp h
    have hset : keys (s.set e.1 e.2) = keys s := keys_set_of_mem he
    rw [← hset]
    refine ih fun k hk => ?_
    rw [hset]
    exact ht k hk

/-- Of the values that are set one after the other, the last counts. -/
theorem get?_update_reverse (s t : Settings) (k : Setting) :
    (s.update t).get? k = (get? t.reverse k).or (s.get? k) := by
  induction t generalizing s with
  | nil => rfl
  | cons e t ih =>
    have hlookup : get? (e :: t).reverse k = (get? t.reverse k).or (get? [e] k) := by
      rw [List.reverse_cons, get?, List.lookup_append]
      rfl
    show ((s.set e.1 e.2).update t).get? k = _
    rw [ih, hlookup, Option.or_assoc, get?_set, get?_cons]
    split <;> rfl

theorem get?_reverse (h : (keys t).Nodup) : get? t.reverse k = t.get? k := by
  induction t with
  | nil => rfl
  | cons e t ih =>
    obtain ⟨hnot, hnodup⟩ := List.nodup_cons.mp h
    rw [List.reverse_cons, get?, List.lookup_append]
    show (get? t.reverse k).or (get? [e] k) = get? ((e.1, e.2) :: t) k
    rw [ih hnodup, get?_cons, get?_cons]
    split
    next heq =>
      -- the setting has no other value
      rw [get?_eq_none_iff.mpr (heq ▸ hnot)]
      rfl
    next => exact Option.or_none

/-- **Settings that are laid over others count before these.** -/
theorem get?_update (s : Settings) (h : (keys t).Nodup) (k : Setting) :
    (s.update t).get? k = (t.get? k).or (s.get? k) := by
  rw [get?_update_reverse, get?_reverse h]

/-! ## Entries of a policy file -/

/-- The value that entries give to a setting: that of the last entry whose key denotes the setting,
as a value of the kind of the setting. -/
inductive EntriesGive (es : List (Value × Value)) (k : Setting) : Option Value → Prop where
  | last {pre post : List (Value × Value)} {e : Value × Value} {v : Value}
    (entries : es = pre ++ e :: post) (denotes : k.Denotes e.1) (coerced : k.coerce e.2 = .ok v)
    (later : ∀ e ∈ post, ¬k.Denotes e.1) : EntriesGive es k (some v)
  | nothing (silent : ∀ e ∈ es, ¬k.Denotes e.1) : EntriesGive es k none

/-- An entry that denotes another setting changes nothing. -/
theorem EntriesGive.append_other {es : List (Value × Value)} {e : Value × Value} {v : Option Value}
    (h : EntriesGive es k v) (other : ¬k.Denotes e.1) : EntriesGive (es ++ [e]) k v := by
  have hsnoc {fs : List (Value × Value)} (h : ∀ f ∈ fs, ¬k.Denotes f.1) :
      ∀ f ∈ fs ++ [e], ¬k.Denotes f.1 :=
    List.forall_mem_append.mpr ⟨h, List.forall_mem_singleton.mpr other⟩
  cases h with
  | @last pre post f v entries denotes coerced later =>
    have hentries : es ++ [e] = pre ++ f :: (post ++ [e]) := by rw [entries]; simp
    exact .last hentries denotes coerced (hsnoc later)
  | nothing silent => exact .nothing (hsnoc silent)

/-- What an entry gives that is not at fault. -/
theorem entry_cases {e : Value × Value} (h : fault? e = none) :
    (found? e = none ∧ ∀ k : Setting, ¬k.Denotes e.1) ∨
      ∃ k v, found? e = some (k, v) ∧ k.Denotes e.1 ∧ k.coerce e.2 = .ok v := by
  unfold fault? at h
  unfold found?
  cases hnamed : Setting.named? e.1 with
  | none =>
    refine Or.inl ⟨by rw [entry_of_unnamed hnamed], fun k hk => ?_⟩
    rw [Setting.named?_eq_some_iff.mpr hk] at hnamed
    cases hnamed
  | some k =>
    cases hcoerce : k.coerce e.2 with
    | error f =>
      rw [entry_of_named hnamed, hcoerce] at h
      cases h
    | ok v =>
      refine Or.inr ⟨k, v, ?_, Setting.named?_eq_some_iff.mp hnamed, hcoerce⟩
      rw [entry_of_named hnamed, hcoerce]
      rfl

/-- Read from the end, the settings that entries give are those of the last entries. -/
theorem entriesGive_reverse {es : List (Value × Value)} (h : ∀ e ∈ es, fault? e = none)
    (k : Setting) : EntriesGive es k (get? (es.filterMap found?).reverse k) := by
  induction es using List.reverseRecOn with
  | nil => exact .nothing fun _ he => absurd he List.not_mem_nil
  | append_singleton es e ih =>
    obtain ⟨hes, he⟩ := List.forall_mem_append.mp h
    have hbefore := ih hes
    rw [List.filterMap_append, List.reverse_append]
    rcases entry_cases (he e List.mem_cons_self) with
      ⟨hfound, hother⟩ | ⟨k', v, hfound, hdenotes, hcoerced⟩
    · rw [List.filterMap_cons_none hfound]
      exact hbefore.append_other (hother k)
    · rw [List.filterMap_cons_some hfound]
      show EntriesGive (es ++ [e]) k (get? ((k', v) :: (es.filterMap found?).reverse) k)
      rw [get?_cons]
      split
      next heq =>
        subst heq
        exact .last rfl hdenotes hcoerced fun _ he => absurd he List.not_mem_nil
      next hne => exact hbefore.append_other fun hk => hne (hk.unique hdenotes)

/-- Entries that are taken are not at fault. -/
theorem of_taken {given s : Settings} {es : List (Value × Value)} (h : taken given es = .ok s) :
    (∀ e ∈ es, fault? e = none) ∧ s = given.update (es.filterMap found?) := by
  unfold taken at h
  split at h
  · cases h
  next hsound =>
    cases h
    exact ⟨List.findSome?_eq_none_iff.mp hsound, rfl⟩

/-- **The settings of a policy file that is accepted** have the values of the last entries that denote
them, and no setting has two values. -/
theorem entriesGive_of_taken {es : List (Value × Value)} {file : Settings}
    (h : taken [] es = .ok file) :
    file.keys.Nodup ∧ ∀ k, EntriesGive es k (file.get? k) := by
  obtain ⟨hsound, rfl⟩ := of_taken h
  refine ⟨nodup_update (s := []) List.nodup_nil _, fun k => ?_⟩
  rw [get?_update_reverse, show get? [] k = none from rfl, Option.or_none]
  exact entriesGive_reverse hsound k

end Settings

/-- The file holds the entries: its text denotes a mapping with these, or nothing. -/
inductive FileContent.Holds : FileContent → List (Value × Value) → Prop where
  | nothing {bs : List UInt8} {text : String} {d : Yaml.Document}
    (decoded : Utf8.decode bs = .ok text)
    (denotes : Yaml.read (String.ofList (Text.unifyEnds text.toList)) = .ok d)
    (null : d.isNull = true) : Holds (.bytes bs) []
  | mapping {bs : List UInt8} {text : String} {d : Yaml.Document} {es : List (Value × Value)}
    (decoded : Utf8.decode bs = .ok text)
    (denotes : Yaml.read (String.ofList (Text.unifyEnds text.toList)) = .ok d)
    (mapping : d.pairs? = some es) : Holds (.bytes bs) es

/-- A file holds one list of entries only. -/
theorem FileContent.Holds.unique {content : FileContent} {es es' : List (Value × Value)}
    (h : content.Holds es) (h' : content.Holds es') : es = es' := by
  cases h with
  | nothing decoded denotes null =>
    cases h' with
    | nothing => rfl
    | mapping decoded' denotes' mapping =>
      cases decoded.symm.trans decoded'
      cases denotes.symm.trans denotes'
      rw [Yaml.Document.isNull_of_pairs? mapping] at null
      cases null
  | mapping decoded denotes mapping =>
    cases h' with
    | nothing decoded' denotes' null =>
      cases decoded.symm.trans decoded'
      cases denotes.symm.trans denotes'
      rw [Yaml.Document.isNull_of_pairs? mapping] at null
      cases null
    | mapping decoded' denotes' mapping' =>
      cases decoded.symm.trans decoded'
      cases denotes.symm.trans denotes'
      exact Option.some.inj (mapping.symm.trans mapping')

/-- A file that is accepted holds entries, and all of them are taken. -/
theorem Settings.exists_holds_of_load {path : String} {content : FileContent} {file : Settings}
    (h : (load path content).Gives file) :
    ∃ es, content.Holds es ∧ taken [] es = .ok file := by
  obtain ⟨log, log', hrun⟩ := h
  have hcontent : ofContent Yaml.read path content = .ok file := by
    rw [← computes_load path content log, hrun]
  unfold ofContent at hcontent
  split at hcontent
  · cases hcontent
  next bs =>
    split at hcontent
    · cases hcontent
    next text hdecoded =>
      split at hcontent
      · cases hcontent
      · cases hcontent
      next d hdenotes =>
        unfold ofDocument at hcontent
        split at hcontent
        next hnull =>
          cases hcontent
          exact ⟨[], .nothing hdecoded hdenotes hnull, rfl⟩
        next =>
          split at hcontent
          · cases hcontent
          next es hes => exact ⟨es, .mapping hdecoded hdenotes hes, hcontent⟩

end PodRedirect
