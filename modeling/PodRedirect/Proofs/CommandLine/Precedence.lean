import PodRedirect.Proofs.CommandLine.Given
import PodRedirect.Proofs.Setting.Layer

/-!
# Which value counts

Values come from three layers. A switch of the command line counts before the policy file, and that
counts before the default. A switch for a list may be used more than once, and its lists are put
together; of the other uses of the switches for a setting, the last counts. Whatever was given,
removing a redirection goes on after errors.

## Main definitions

* `CommandLine.uses`: the uses of switches that arguments come to
* `CommandLine.Switched`: the value that uses of switches give to a setting, if they give one
* `CommandLine.Counts`: the value that a setting has in the end

## Main results

* `CommandLine.followed_of_parse`: what arguments say, from the uses of switches
* `CommandLine.precedence_exact`: the settings that count
-/

namespace PodRedirect

namespace CommandLine

open Settings (EntriesGive keys)

/-! ## Uses of switches -/

/-- The setting that a switch is for, if it is for one. -/
def Role.key? : Role → Option Setting
  | .int k | .list k | .text k | .choice k _ | .on k | .toggle k => some k
  | .help | .version | .cleanup | .config | .script => none

/-- The setting that a switch is used for. -/
def Use.key? (u : Use) : Option Setting := u.switch.role.key?

/-- The argument behind a switch, which may belong to it. -/
def following : List (String × Shape) → Option String
  | (value, .other) :: _ => some value
  | _ => none

/-- The uses of switches that arguments come to, in order. -/
def usesOf : List (String × Shape) → Except UsageError (List Use)
  | [] => .ok []
  | (_, .switch s name joined) :: rest => do
    let c ← cluster (following rest) s name joined
    let further :=
      if c.tookNext then
        match rest with
        | [] => usesOf []
        | _ :: rest => usesOf rest
      else usesOf rest
    further.map fun us => c.uses ++ us
  | _ :: rest => usesOf rest

/-- The uses of switches in arguments. -/
def uses (argv : List String) : Except UsageError (List Use) := do
  usesOf (← shapes argv)

/-- A switch comes to its uses, and the arguments behind it to theirs, without the one that belongs to
it. -/
theorem usesOf_switch {text name : String} {s : Switch} {joined : Option (List Char)}
    {rest : List (String × Shape)} {c : Cluster}
    (h : cluster (following rest) s name joined = .ok c) :
    usesOf ((text, .switch s name joined) :: rest) =
      (usesOf (if c.tookNext then rest.tail else rest)).map fun us => c.uses ++ us := by
  conv_lhs => unfold usesOf
  rw [h]
  cases htook : c.tookNext with
  | false => simp [htook, bind, Except.bind]
  | true => cases rest <;> simp [htook, bind, Except.bind]

/-- What arguments say comes from the uses of switches alone, one after the other. -/
theorem uses_of_follow {a b : Arguments} {shaped : List (String × Shape)} {left : List String}
    (known : ∀ e ∈ shaped, e.2.Known) (h : a.follow shaped = .ok (b, left)) :
    ∃ us, usesOf shaped = .ok us ∧ us.foldlM Arguments.use a = .ok b ∧
      ∀ u ∈ us, u.switch ∈ switches := by
  induction a, shaped using Arguments.follow.induct generalizing b left with
  | case1 a =>
    cases h
    exact ⟨[], rfl, rfl, fun u hu => absurd hu List.not_mem_nil⟩
  | case2 a text s name joined rest skipped ih =>
    obtain ⟨hs, hrest⟩ := List.forall_mem_cons.mp known
    unfold Arguments.follow at h
    obtain ⟨c, hc, h⟩ := of_bind_ok h
    obtain ⟨a', ha', h⟩ := of_bind_ok h
    have hcluster : cluster (following rest) s name joined = .ok c := of_mapError_ok hc
    have hknown := known_of_cluster hs hcluster
    have hfurther : ∃ us, usesOf (if c.tookNext then rest.tail else rest) = .ok us ∧
        us.foldlM Arguments.use a' = .ok b ∧ ∀ u ∈ us, u.switch ∈ switches := by
      -- the next argument may belong to the switch
      split at h
      next htook =>
        rw [if_pos htook]
        cases rest with
        | nil => exact skipped a' hrest h
        | cons e rest => exact skipped a' (List.forall_mem_cons.mp hrest).2 h
      next htook =>
        rw [if_neg htook]
        exact ih a' hrest h
    obtain ⟨us, hus, hfold, hswitches⟩ := hfurther
    refine ⟨c.uses ++ us, ?_, ?_, List.forall_mem_append.mpr ⟨hknown, hswitches⟩⟩
    · rw [usesOf_switch hcluster, hus]
      rfl
    · rw [List.foldlM_append, ha']
      exact hfold
  | case3 a text found rest noSwitch ih =>
    rw [Arguments.follow] at h
    · obtain ⟨⟨a', left'⟩, ha', h⟩ := of_bind_ok h
      cases h
      obtain ⟨us, hus, hfold, hswitches⟩ := ih (List.forall_mem_cons.mp known).2 ha'
      refine ⟨us, ?_, hfold, hswitches⟩
      rw [usesOf]
      · exact hus
      · rintro text s name joined heq
        exact noSwitch s name joined (Prod.mk.inj heq).2
    · exact noSwitch

/-- Arguments that are understood come to uses of switches that there are. -/
theorem uses_of_parse {argv : List String} {a : Arguments} (h : parse argv = .ok a) :
    ∃ us, uses argv = .ok us ∧ us.foldlM Arguments.use .empty = .ok a ∧
      ∀ u ∈ us, u.switch ∈ switches := by
  obtain ⟨shaped, hshaped, h⟩ := of_bind_ok h
  obtain ⟨⟨a', left⟩, hfollow, h⟩ := of_bind_ok h
  have hshapes := of_mapError_ok hshaped
  obtain ⟨us, hus, hfold, hswitches⟩ := uses_of_follow (known_of_shapes hshapes) hfollow
  dsimp only at h
  split at h
  · cases h
    refine ⟨us, ?_, hfold, hswitches⟩
    rw [uses, hshapes]
    exact hus
  · cases h

/-! ## What is given -/

/-- The use of a switch gives the setting a value by itself: every switch for a setting does, unless
it is for a list. -/
inductive Use.Gives (u : Use) : Setting → Value → Prop where
  | int {k : Setting} {v : Value} (role : u.switch.role = .int k) (read : u.int = .ok v) : Gives u k v
  | text {k : Setting} {v : Value} (role : u.switch.role = .text k) (read : u.text = .ok v) :
    Gives u k v
  | choice {k : Setting} {words : List String} {v : Value} (role : u.switch.role = .choice k words)
    (read : u.choice words = .ok v) : Gives u k v
  | on {k : Setting} (role : u.switch.role = .on k) : Gives u k (.flag true)
  | toggle {k : Setting} (role : u.switch.role = .toggle k) :
    Gives u k (.flag !("--no-".toList.isPrefixOf u.name.toList))

theorem Use.Gives.key? {u : Use} {k : Setting} {v : Value} (h : u.Gives k v) : u.key? = some k := by
  cases h with
  | int role | text role | choice role | on role | toggle role => rw [Use.key?, role]; rfl

/-- Such a setting is not one for a list. -/
theorem Use.Gives.kind_ne {u : Use} {k : Setting} {v : Value} (h : u.Gives k v)
    (hu : u.switch ∈ switches) : k.kind ≠ .list := by
  have suits := suits_of_mem_switches hu
  cases h with
  | int role | text role | choice role | on role | toggle role =>
    rw [role] at suits
    have hkind : k.kind = _ := suits
    rw [hkind]
    decide

/-- The members of a list, if it is one. -/
def listed : Option Value → List Value
  | some (.list vs) => vs
  | _ => []

/-- What the use of a switch makes of what is given. -/
inductive Use.Sets (u : Use) (given : Settings) : Settings → Prop where
  | nothing (other : u.key? = none) : Sets u given given
  | value {k : Setting} {v : Value} (gives : u.Gives k v) : Sets u given (given.set k v)
  | members {k : Setting} (role : u.switch.role = .list k) :
    Sets u given (given.set k (.list (listed (given.get? k) ++ u.members)))

/-- **What the use of a switch does**: it sets a setting, or it says what the run is for. -/
theorem sets_of_use {a b : Arguments} {u : Use} (h : a.use u = .ok b) :
    u.Sets a.given b.given ∧
      (b.cleanup = true ↔ a.cleanup = true ∨ u.switch.role = .cleanup) := by
  unfold Arguments.use at h
  cases hrole : u.switch.role <;> rw [hrole] at h
  case help | version => cases h
  case int k =>
    obtain ⟨v, hv, rfl⟩ := of_map_ok h
    exact ⟨.value (.int hrole hv), by simp⟩
  case text k =>
    obtain ⟨v, hv, rfl⟩ := of_map_ok h
    exact ⟨.value (.text hrole hv), by simp⟩
  case choice k words =>
    obtain ⟨v, hv, rfl⟩ := of_map_ok h
    exact ⟨.value (.choice hrole hv), by simp⟩
  case list k =>
    cases h
    exact ⟨.members hrole, by simp⟩
  case on k =>
    cases h
    exact ⟨.value (.on hrole), by simp⟩
  case toggle k =>
    cases h
    exact ⟨.value (.toggle hrole), by simp⟩
  case cleanup =>
    cases h
    exact ⟨.nothing (by rw [Use.key?, hrole]; rfl), by simp⟩
  case config | script =>
    obtain ⟨v, hv, rfl⟩ := of_map_ok h
    exact ⟨.nothing (by rw [Use.key?, hrole]; rfl), by simp⟩

/-- The members that uses of switches give to a setting for a list, in order. -/
def membersOf (us : List Use) (k : Setting) : List Value :=
  (us.filter fun u => u.key? = some k).flatMap Use.members

/-- The value that uses of switches give to a setting: that of the last one, or, for a list, the
members of all of them. -/
inductive Switched (us : List Use) (k : Setting) : Option Value → Prop where
  | unused (h : ∀ u ∈ us, u.key? ≠ some k) : Switched us k none
  | list (kind : k.kind = .list) (used : ∃ u ∈ us, u.key? = some k) :
    Switched us k (some (.list (membersOf us k)))
  | last {pre post : List Use} {u : Use} {v : Value} (kind : k.kind ≠ .list)
    (uses : us = pre ++ u :: post) (gives : u.Gives k v) (later : ∀ u ∈ post, u.key? ≠ some k) :
    Switched us k (some v)

section Append

variable {us : List Use} {u : Use} {k : Setting} {v : Option Value}

theorem membersOf_append : membersOf (us ++ [u]) k =
    membersOf us k ++ if u.key? = some k then u.members else [] := by
  rw [membersOf, List.filter_append, List.flatMap_append, ← membersOf]
  by_cases h : u.key? = some k
  · simp [h]
  · simp [h]

theorem membersOf_of_unused (h : ∀ u ∈ us, u.key? ≠ some k) : membersOf us k = [] := by
  have hnone : us.filter (fun u => u.key? = some k) = [] :=
    List.filter_eq_nil_iff.mpr fun u hu => by simpa using h u hu
  rw [membersOf, hnone]
  rfl

/-- A switch for something else changes nothing. -/
theorem Switched.append_other (h : Switched us k v) (other : u.key? ≠ some k) :
    Switched (us ++ [u]) k v := by
  have hsnoc {ws : List Use} (h : ∀ w ∈ ws, w.key? ≠ some k) : ∀ w ∈ ws ++ [u], w.key? ≠ some k :=
    List.forall_mem_append.mpr ⟨h, List.forall_mem_singleton.mpr other⟩
  cases h with
  | unused h => exact .unused (hsnoc h)
  | list kind used =>
    obtain ⟨w, hw, hkey⟩ := used
    have hmembers : membersOf us k = membersOf (us ++ [u]) k := by
      rw [membersOf_append, if_neg other, List.append_nil]
    rw [hmembers]
    exact .list kind ⟨w, List.mem_append_left _ hw, hkey⟩
  | @last pre post w v kind uses gives later =>
    have hsplit : us ++ [u] = pre ++ w :: (post ++ [u]) := by rw [uses]; simp
    exact .last kind hsplit gives (hsnoc later)

/-- A switch for a list adds its members. -/
theorem Switched.append_members (h : Switched us k v) (kind : k.kind = .list)
    (key : u.key? = some k) : Switched (us ++ [u]) k (some (.list (listed v ++ u.members))) := by
  have hlisted : listed v = membersOf us k := by
    cases h with
    | unused h => exact (membersOf_of_unused h).symm
    | list => rfl
    | last other => exact absurd kind other
  have hmembers : listed v ++ u.members = membersOf (us ++ [u]) k := by
    rw [membersOf_append, if_pos key, hlisted]
  rw [hmembers]
  exact .list kind ⟨u, by simp, key⟩

end Append

/-- What arguments say, from the uses of switches in them. -/
structure Followed (us : List Use) (a : Arguments) : Prop where
  nodup : (keys a.given).Nodup
  switched (k : Setting) : Switched us k (a.given.get? k)
  cleanup : a.cleanup = true ↔ ∃ u ∈ us, u.switch.role = .cleanup

/-- One more use of a switch. -/
theorem Followed.append {us : List Use} {u : Use} {a b : Arguments} (h : Followed us a)
    (hu : u.switch ∈ switches) (use : a.use u = .ok b) : Followed (us ++ [u]) b := by
  obtain ⟨hsets, hcleanup⟩ := sets_of_use use
  refine ⟨?_, fun k => ?_, ?_⟩
  · generalize b.given = given at hsets
    cases hsets with
    | nothing => exact h.nodup
    | value | members => exact Settings.nodup_set h.nodup
  · have hbefore := h.switched k
    generalize b.given = given at hsets
    cases hsets with
    | nothing other => exact hbefore.append_other (other ▸ Option.some_ne_none k |>.symm)
    | @value k' v gives =>
      rw [Settings.get?_set]
      split
      next heq =>
        subst heq
        exact .last (gives.kind_ne hu) rfl gives nofun
      next hne =>
        refine hbefore.append_other fun hkey => hne ?_
        exact Option.some.inj (hkey.symm.trans gives.key?)
    | @members k' role =>
      have hkey : u.key? = some k' := by rw [Use.key?, role]; rfl
      have hkind : k'.kind = .list := by
        have suits := suits_of_mem_switches hu
        rw [role] at suits
        exact suits
      rw [Settings.get?_set]
      split
      next heq =>
        subst heq
        exact hbefore.append_members hkind hkey
      next hne => exact hbefore.append_other fun h => hne (Option.some.inj (h.symm.trans hkey))
  · rw [hcleanup, h.cleanup]
    simp [or_and_right, exists_or]

/-- **What arguments say comes from the uses of switches as `Followed` says.** -/
theorem followed_of_uses {us : List Use} {a : Arguments} (hus : ∀ u ∈ us, u.switch ∈ switches)
    (h : us.foldlM Arguments.use .empty = .ok a) : Followed us a := by
  induction us using List.reverseRecOn generalizing a with
  | nil =>
    cases h
    exact ⟨List.nodup_nil, fun k => .unused nofun, by simp [Arguments.empty]⟩
  | append_singleton us u ih =>
    obtain ⟨hus, hu⟩ := List.forall_mem_append.mp hus
    rw [List.foldlM_append] at h
    obtain ⟨a', hbefore, h⟩ := of_bind_ok h
    obtain ⟨b, huse, h⟩ := of_bind_ok h
    cases h
    exact (ih hus hbefore).append (hu u List.mem_cons_self) huse

/-! ## What counts in the end -/

/-- The entries of the policy file that arguments name. There are none if they name no file. -/
inductive Filed (a : Arguments) (read : String → FileContent) : List (Value × Value) → Prop where
  | unnamed (h : a.config.isTruthy = false) : Filed a read []
  | named {path : String} {es : List (Value × Value)} (h : a.config.isTruthy = true)
    (said : a.config.said = .ok path) (holds : (read (FilePath.tidy path)).Holds es) :
    Filed a read es

/-- The policy file that arguments name is accepted, if they name one. -/
def Accepted (a : Arguments) (read : String → FileContent) : Prop :=
  a.config.isTruthy = true → ∃ path file, a.config.said = .ok path ∧
    ((Settings.load (FilePath.tidy path) (read (FilePath.tidy path))).run #[]).1 = .ok file

/-- Going on after errors is asked for by what the run is for. -/
def Forced (us : List Use) (k : Setting) : Prop :=
  k = .continueOnError ∧ ∃ u ∈ us, u.switch.role = .cleanup

/-- The value that a setting has in the end, from the uses of switches and the entries of the policy
file. -/
inductive Counts (us : List Use) (es : List (Value × Value)) (k : Setting) : Value → Prop where
  | forced (h : Forced us k) : Counts us es k (.flag true)
  | given {v : Value} (free : ¬Forced us k) (switched : Switched us k (some v)) : Counts us es k v
  | entry {v : Value} (free : ¬Forced us k) (unused : Switched us k none)
    (gives : EntriesGive es k (some v)) : Counts us es k v
  | usual (free : ¬Forced us k) (unused : Switched us k none) (nothing : EntriesGive es k none) :
    Counts us es k k.default

theorem keys_defaults : keys Settings.defaults = Setting.all := rfl

/-- The settings that count are all settings, in the order in which they are listed. -/
theorem keys_mergedWith (a : Arguments) (file : Settings) :
    keys (mergedWith a file) = Setting.all := by
  have hall {s : Settings} (h : keys s = Setting.all) (k : Setting) : k ∈ keys s :=
    h ▸ Setting.mem_all k
  have hfile : keys (Settings.defaults.update file) = Setting.all :=
    Settings.keys_update fun k _ => hall keys_defaults k
  have hgiven : keys ((Settings.defaults.update file).update a.given) = Setting.all :=
    (Settings.keys_update fun k _ => hall hfile k).trans hfile
  unfold mergedWith
  dsimp only
  split
  · exact (Settings.keys_set_of_mem (hall hgiven _)).trans hgiven
  · exact hgiven

/-- The layers of the settings that count. -/
theorem get?_mergedWith {a : Arguments} {file : Settings} (given : (keys a.given).Nodup)
    (nodup : (keys file).Nodup) (k : Setting) :
    (mergedWith a file).get? k = if k = .continueOnError ∧ a.cleanup = true then some (.flag true)
      else (a.given.get? k).or ((file.get? k).or (some k.default)) := by
  have hlayers : ((Settings.defaults.update file).update a.given).get? k =
      (a.given.get? k).or ((file.get? k).or (some k.default)) := by
    rw [Settings.get?_update _ given, Settings.get?_update _ nodup, get?_defaults]
  unfold mergedWith
  dsimp only
  cases a.cleanup with
  | true => simp only [if_true, Settings.get?_set, hlayers, and_true]
  | false => simp [hlayers]

/-- Every setting has the value that counts. -/
theorem counts_of_followed {us : List Use} {es : List (Value × Value)} {a : Arguments}
    {file : Settings} (followed : Followed us a) (taken : Settings.taken [] es = .ok file)
    (k : Setting) : ∃ v, (mergedWith a file).get? k = some v ∧ Counts us es k v := by
  obtain ⟨hnodup, hgive⟩ := Settings.entriesGive_of_taken taken
  have hforced : (k = .continueOnError ∧ a.cleanup = true) ↔ Forced us k := by
    rw [followed.cleanup, Forced]
  have hswitched := followed.switched k
  have hentry := hgive k
  rw [get?_mergedWith followed.nodup hnodup]
  by_cases hfree : Forced us k
  · rw [if_pos (hforced.mpr hfree)]
    exact ⟨_, rfl, .forced hfree⟩
  · rw [if_neg (hforced.not.mpr hfree)]
    -- the first layer that has a value decides
    cases hgiven : a.given.get? k with
    | some v =>
      rw [hgiven] at hswitched
      exact ⟨v, rfl, .given hfree hswitched⟩
    | none =>
      rw [hgiven] at hswitched
      cases hfile : file.get? k with
      | some v =>
        rw [hfile] at hentry
        exact ⟨v, rfl, .entry hfree hswitched hentry⟩
      | none =>
        rw [hfile] at hentry
        exact ⟨k.default, rfl, .usual hfree hswitched hentry⟩

/-- With a file that is accepted there are settings that count. -/
theorem exists_filed {a : Arguments} {read : String → FileContent} (accepted : Accepted a read) :
    ∃ es file, Filed a read es ∧ Settings.taken [] es = .ok file ∧
      (settings a read).Computes (.ok (mergedWith a file)) := by
  unfold settings
  cases hconfig : a.config.isTruthy with
  | false => exact ⟨[], [], .unnamed hconfig, rfl, Logged.computes_pure (mergedWith a [])⟩
  | true =>
    obtain ⟨path, file, hpath, hload⟩ := accepted hconfig
    obtain ⟨es, hholds, htaken⟩ := Settings.exists_holds_of_load (Logged.gives_of_run hload)
    have hcontent := (Settings.computes_load _ _ #[]).symm.trans hload
    refine ⟨es, file, .named hconfig hpath hholds, htaken, ?_⟩
    have hfile : (Settings.load (FilePath.tidy path) (read (FilePath.tidy path))).Computes
        (.ok file) := hcontent ▸ Settings.computes_load _ _
    rw [hpath]
    exact hfile.bind fun file => Logged.computes_pure (mergedWith a file)

/-- **Which value counts.** If arguments are understood and the policy file that they name is
accepted, or they name none, then all settings have a value, and no others. It is that of the
switches that are used for the setting, even if that is an empty list or stands for no; or that of
the last entry of the file that denotes the setting; or else the default. Going on after errors
counts as asked for if the run removes a redirection. The entries of a file are those of the mapping
that it denotes: a key stands there once, where the text has it first, with the value that the text
gives it last. -/
theorem precedence_exact {argv : List String} {a : Arguments} {read : String → FileContent}
    (parsed : parse argv = .ok a) (accepted : Accepted a read) :
    ∃ (us : List Use) (es : List (Value × Value)) (s : Settings),
      uses argv = .ok us ∧ Filed a read es ∧ ((settings a read).run #[]).1 = .ok s ∧
      keys s = Setting.all ∧ ∀ k, ∃ v, s.get? k = some v ∧ Counts us es k v := by
  obtain ⟨us, hus, hfold, hswitches⟩ := uses_of_parse parsed
  obtain ⟨es, file, hfiled, htaken, hcomputes⟩ := exists_filed accepted
  refine ⟨us, es, mergedWith a file, hus, hfiled, hcomputes #[], keys_mergedWith a file, fun k => ?_⟩
  exact counts_of_followed (followed_of_uses hswitches hfold) htaken k

/-- Arguments with a list in two parts and a policy file. -/
def layered : Arguments where
  given := [(.portsToRedirect, .list [.text "80", .text "90", .text "91"]), (.ipv6, .flag false)]
  cleanup := true
  config := .text "policy.yml"
  script := .text ""

/-- A policy file that denotes one setting by two keys, and another that is given as well. -/
def layeredFile : FileContent :=
  Settings.ascii "proxy-uid: 5\nproxy_uid: 7\nports-to-redirect: 1\n"

/-- The settings of this file. -/
def layeredEntries : Settings := [(.proxyUid, .int 7), (.portsToRedirect, .list [.text "1"])]

/-- The settings are those of the file. -/
def isLayered : Except Failure Settings → Bool
  | .ok [(.proxyUid, .int 7), (.portsToRedirect, .list [.text t])] => t = "1"
  | _ => false

theorem load_layeredFile :
    ((Settings.load "policy.yml" layeredFile).run #[]).1 = .ok layeredEntries := by
  have hload : isLayered ((Settings.load "policy.yml" layeredFile).run #[]).1 = true := by
    decide +kernel
  unfold isLayered at hload
  split at hload
  next t heq =>
    rw [heq, of_decide_eq_true hload]
    rfl
  next => cases hload

/-- A list of the command line has all its parts and nothing of the file, a switch counts before the
default, of two keys for a setting the last counts, and going on after errors is asked for by what
the run is for. -/
theorem precedence_exact_layered :
    ∃ (us : List Use) (es : List (Value × Value)),
      uses ["-r", "80", "-r", "90,91", "--no-ipv6", "--cleanup", "--config", "policy.yml"] = .ok us ∧
      layeredFile.Holds es ∧
      Counts us es .portsToRedirect (.list [.text "80", .text "90", .text "91"]) ∧
      Counts us es .ipv6 (.flag false) ∧ Counts us es .proxyUid (.int 7) ∧
      Counts us es .continueOnError (.flag true) ∧ Counts us es .netns (.text "") := by
  have accepted : Accepted layered fun _ => layeredFile := fun _ =>
    ⟨"policy.yml", layeredEntries, rfl, load_layeredFile⟩
  have parsed : parse ["-r", "80", "-r", "90,91", "--no-ipv6", "--cleanup", "--config",
      "policy.yml"] = .ok layered := rfl
  obtain ⟨us, es, s, hus, hfiled, hs, -, hcounts⟩ := precedence_exact parsed accepted
  -- the settings that count can be computed from those of the file
  have hmerged : s = mergedWith layered layeredEntries := by
    have hsettings : (settings layered fun _ => layeredFile) =
        Settings.load "policy.yml" layeredFile >>= fun file => pure (mergedWith layered file) := rfl
    obtain ⟨log, hrun⟩ := Logged.fst_run_bind_of_ok load_layeredFile fun file =>
      pure (mergedWith layered file)
    rw [hsettings, hrun] at hs
    exact (Except.ok.inj hs).symm
  have hvalue {k : Setting} {v : Value} (h : (mergedWith layered layeredEntries).get? k = some v) :
      Counts us es k v := by
    obtain ⟨v', hv', hcount⟩ := hcounts k
    rw [hmerged, h] at hv'
    exact Option.some.inj hv' ▸ hcount
  have hholds : layeredFile.Holds es := by
    cases hfiled with
    | unnamed h => cases h
    | named _ _ holds => exact holds
  exact ⟨us, es, hus, hholds, hvalue rfl, hvalue rfl, hvalue rfl, hvalue rfl, hvalue rfl⟩

end CommandLine

end PodRedirect
