import PodRedirect.CommandLine.Program
import PodRedirect.Proofs.Policy
import PodRedirect.Proofs.Port.Bounds
import PodRedirect.Proofs.Setting.File

/-!
# The settings that count

In the end every setting has a value: that of the command line, that of the policy file or the usual
one. It is of the kind of the setting, but for one thing: a switch with the separator in the place of
its argument gives an empty list, whatever the kind. This is carried along the arguments, one switch
after the other, and through the file and the defaults.

## Main definitions

* `Setting.Accepts`: the values that a setting may have in the end
* `CommandLine.Role.Suits`: a switch that gives a setting values of its kind

## Main results

* `CommandLine.accepts_of_parse`: what is given on the command line
* `CommandLine.exists_get?_of_merged`: every setting has a value that it may have
-/

namespace PodRedirect

/-- The value is of the kind of the setting, or it is the empty list that stands for nothing. -/
def Setting.Accepts (k : Setting) (v : Value) : Prop := k.kind.Has v ∨ v = .list []

namespace CommandLine


/-! ## Switches -/

/-- The switch gives a setting values of its kind. -/
def Role.Suits : Role → Prop
  | .int k => k.kind = .int
  | .list k => k.kind = .list
  | .text k | .choice k _ => k.kind = .text
  | .on k | .toggle k => k.kind = .flag
  | .help | .version | .cleanup | .config | .script => True

theorem suits_of_mem_switches {s : Switch} (h : s ∈ switches) : s.role.Suits := by
  have hall : ∀ s ∈ switches, s.role.Suits := by simp [switches, Role.Suits, Setting.kind]
  exact hall s h

theorem mem_switches_of_named {e : String × Switch} (h : e ∈ namedSwitches) : e.2 ∈ switches := by
  obtain ⟨s, hs, he⟩ := List.mem_flatMap.mp h
  obtain ⟨n, -, rfl⟩ := List.mem_map.mp he
  exact hs

theorem mem_switches_of_switch? {name : String} {s : Switch} (h : switch? name = some s) :
    s ∈ switches := by
  obtain ⟨l₁, l₂, hnamed, -⟩ := List.lookup_eq_some_iff.mp h
  exact mem_switches_of_named (e := (name, s)) (hnamed ▸ by simp)

/-! ## What arguments are -/

/-- An argument that is a switch is one of those there are. -/
def Shape.Known : Shape → Prop
  | .switch s _ _ => s ∈ switches
  | .unknown | .separator | .other => True

theorem known_of_mem_readings {cs : List Char} {e : String × Shape} (h : e ∈ readings cs) :
    e.2.Known := by
  unfold readings at h
  split at h
  · generalize cutEquals _ = cut at h
    obtain ⟨⟨n, s⟩, hnamed, he⟩ := List.mem_filterMap.mp h
    dsimp only at he
    split at he
    · cases he
      exact mem_switches_of_named hnamed
    · cases he
  · obtain ⟨⟨n, s⟩, hnamed, he⟩ := List.mem_filterMap.mp h
    dsimp only at he
    split at he
    · cases he
      exact mem_switches_of_named hnamed
    · split at he
      · cases he
        exact mem_switches_of_named hnamed
      · cases he

theorem known_of_shape {a : String} {found : Shape} (h : shape a = .ok found) : found.Known := by
  unfold shape at h
  dsimp only at h
  split at h
  · cases h
    trivial
  split at h
  next s hs =>
    cases h
    exact mem_switches_of_switch? hs
  split at h
  · cases h
    trivial
  split at h
  split at h
  next s hs =>
    cases h
    exact mem_switches_of_switch? hs
  -- a switch that is not written out is one of the readings, with a joined value or without
  all_goals
    split at h
    next hreadings =>
      cases h
      exact known_of_mem_readings (hreadings ▸ List.mem_cons_self)
    · cases h
      split <;> trivial
    · cases h

theorem known_of_shapes {as : List String} {shaped : List (String × Shape)}
    (h : shapes as = .ok shaped) : ∀ e ∈ shaped, e.2.Known := by
  induction as generalizing shaped with
  | nil =>
    cases h
    exact fun e he => absurd he List.not_mem_nil
  | cons a as ih =>
    rw [shapes] at h
    split at h
    · -- nothing behind the separator is a switch
      cases h
      refine List.forall_mem_cons.mpr ⟨trivial, fun e he => ?_⟩
      obtain ⟨a', -, rfl⟩ := List.mem_map.mp he
      trivial
    · obtain ⟨found, hfound, h⟩ := of_bind_ok h
      obtain ⟨rest, hrest, h⟩ := of_bind_ok h
      cases h
      exact List.forall_mem_cons.mpr ⟨known_of_shape hfound, ih hrest⟩

/-! ## The uses of switches -/

/-- The switches that are used are among those there are. -/
def Cluster.Known (c : Cluster) : Prop := ∀ u ∈ c.uses, u.switch ∈ switches

theorem known_of_single {next : Option String} {s : Switch} {name : String} {c : Cluster}
    (hs : s ∈ switches) (h : single next s name = .ok c) : c.Known := by
  unfold single at h
  split at h
  · split at h
    · cases h
      exact List.forall_mem_singleton.mpr hs
    · cases h
  · cases h
    exact List.forall_mem_singleton.mpr hs

/-- One more use of a switch. -/
theorem Cluster.Known.cons {c : Cluster} {u : Use} {x : Except UsageError Cluster}
    (hu : u.switch ∈ switches) (hr : ∀ r, x = .ok r → r.Known)
    (h : x.map (fun r => { r with uses := u :: r.uses }) = .ok c) : c.Known := by
  cases x with
  | error e => cases h
  | ok r =>
    cases h
    exact List.forall_mem_cons.mpr ⟨hu, hr r rfl⟩

theorem known_of_joinedCluster {next : Option String} {s : Switch} {name : String}
    {value : List Char} {c : Cluster} (hs : s ∈ switches)
    (h : joinedCluster next s name value = .ok c) : c.Known := by
  induction value generalizing s name c with
  | nil =>
    rw [joinedCluster] at h
    split at h
    · cases h
      exact List.forall_mem_singleton.mpr hs
    · cases h
  | cons d rest ih =>
    rw [joinedCluster] at h
    dsimp only at h
    split at h
    · cases h
      exact List.forall_mem_singleton.mpr hs
    split at h
    · cases h
    split at h
    · cases h
    next s' hs' =>
      -- the short names behind the first one are read in the same way
      have hs' := mem_switches_of_switch? hs'
      refine Cluster.Known.cons (u := ⟨s, name, ""⟩) hs (fun r hr => ?_) h
      cases rest with
      | nil => exact known_of_single hs' hr
      | cons d' more => exact ih hs' hr

theorem known_of_cluster {next : Option String} {s : Switch} {name : String}
    {joined : Option (List Char)} {c : Cluster} (hs : s ∈ switches)
    (h : cluster next s name joined = .ok c) : c.Known := by
  cases joined with
  | none => exact known_of_single hs h
  | some value => exact known_of_joinedCluster hs h

/-! ## What is given -/

/-- What a switch reads is its argument, or nothing. -/
theorem Use.of_value {u : Use} {read : String → Except UsageError Value} {v : Value}
    (h : u.value read = .ok v) : v = .list [] ∨ read u.argument = .ok v := by
  unfold Use.value at h
  split at h
  · cases h
    exact Or.inl rfl
  · exact Or.inr (of_mapError_ok h)

theorem Use.has_int {u : Use} {v : Value} {k : Setting} (hk : k.kind = .int)
    (h : u.int = .ok v) : k.Accepts v := by
  refine (Use.of_value h).symm.imp_left fun h => ?_
  split at h
  · cases h
    exact hk ▸ .int _
  · cases h

theorem Use.has_choice {u : Use} {words : List String} {v : Value} {k : Setting}
    (hk : k.kind = .text) (h : u.choice words = .ok v) : k.Accepts v := by
  refine (Use.of_value h).symm.imp_left fun h => ?_
  split at h
  · cases h
    exact hk ▸ .text _
  · cases h

theorem Use.has_text {u : Use} {v : Value} {k : Setting} (hk : k.kind = .text)
    (h : u.text = .ok v) : k.Accepts v := by
  refine (Use.of_value h).symm.imp_left fun h => ?_
  cases h
  exact hk ▸ .text _

/-- A list that grows by the members of another one is a list of texts again. -/
theorem Use.has_members (u : Use) {given : Settings} {k : Setting} (hk : k.kind = .list)
    (h : given.Each Setting.Accepts) :
    k.Accepts (.list ((match given.get? k with
      | some (.list vs) => vs
      | _ => []) ++ u.members)) := by
  obtain ⟨ss, hss⟩ : ∃ ss : List String, u.members = ss.map .text := by
    unfold Use.members
    split
    · exact ⟨[], rfl⟩
    · exact ⟨_, rfl⟩
  refine Or.inl ?_
  rw [hk, hss]
  -- the list may have grown before, or it is the one that the separator left
  split
  next vs hvs =>
    rcases h.of_get? hvs with has | hnil
    · rw [hk] at has
      cases has with
      | list ss' => exact List.map_append ▸ .list (ss' ++ ss)
    · cases hnil
      exact .list ss
  next => exact .list ss

/-- What a switch says keeps what is given among the values that settings may have. -/
theorem accepts_of_use {a b : Arguments} {u : Use} (given : a.given.Each Setting.Accepts)
    (hu : u.switch ∈ switches) (h : a.use u = .ok b) : b.given.Each Setting.Accepts := by
  have suits := suits_of_mem_switches hu
  unfold Arguments.use at h
  generalize u.switch.role = role at suits h
  cases role with
  | help | version => cases h
  | int k =>
    obtain ⟨v, hv, rfl⟩ := of_map_ok h
    exact given.set (Use.has_int suits hv)
  | text k =>
    obtain ⟨v, hv, rfl⟩ := of_map_ok h
    exact given.set (Use.has_text suits hv)
  | choice k words =>
    obtain ⟨v, hv, rfl⟩ := of_map_ok h
    exact given.set (Use.has_choice suits hv)
  | list k =>
    cases h
    exact given.set (u.has_members suits given)
  | on k =>
    cases h
    exact given.set (Or.inl (suits ▸ .flag true))
  | toggle k =>
    cases h
    exact given.set (Or.inl (suits ▸ .flag _))
  | cleanup =>
    cases h
    exact given
  | config | script =>
    obtain ⟨v, -, rfl⟩ := of_map_ok h
    exact given

/-- So do all the switches of an argument. -/
theorem accepts_of_uses {a b : Arguments} {us : List Use} (given : a.given.Each Setting.Accepts)
    (hus : ∀ u ∈ us, u.switch ∈ switches) (h : us.foldlM Arguments.use a = .ok b) :
    b.given.Each Setting.Accepts := by
  induction us generalizing a with
  | nil =>
    cases h
    exact given
  | cons u us ih =>
    rw [List.foldlM_cons] at h
    obtain ⟨a', ha', h⟩ := of_bind_ok h
    obtain ⟨hu, hus⟩ := List.forall_mem_cons.mp hus
    exact ih (accepts_of_use given hu ha') hus h

/-- And so do all arguments. -/
theorem accepts_of_follow {a b : Arguments} {shaped : List (String × Shape)} {left : List String}
    (given : a.given.Each Setting.Accepts) (known : ∀ e ∈ shaped, e.2.Known)
    (h : a.follow shaped = .ok (b, left)) : b.given.Each Setting.Accepts := by
  induction a, shaped using Arguments.follow.induct generalizing b left with
  | case1 a =>
    cases h
    exact given
  | case2 a text s name joined rest skipped ih =>
    obtain ⟨hs, hrest⟩ := List.forall_mem_cons.mp known
    unfold Arguments.follow at h
    obtain ⟨c, hc, h⟩ := of_bind_ok h
    obtain ⟨a', ha', h⟩ := of_bind_ok h
    have given' := accepts_of_uses given (known_of_cluster hs (of_mapError_ok hc)) ha'
    -- the next argument may belong to the switch
    split at h
    · cases rest with
      | nil => exact skipped a' given' hrest h
      | cons e rest => exact skipped a' given' (List.forall_mem_cons.mp hrest).2 h
    · exact ih a' given' hrest h
  | case3 a text found rest noSwitch ih =>
    rw [Arguments.follow] at h
    · obtain ⟨⟨a', left'⟩, ha', h⟩ := of_bind_ok h
      cases h
      exact ih given (List.forall_mem_cons.mp known).2 ha'
    · exact noSwitch

/-- **What is given on the command line are values that settings may have.** -/
theorem accepts_of_parse {argv : List String} {a : Arguments} (h : parse argv = .ok a) :
    a.given.Each Setting.Accepts := by
  obtain ⟨shaped, hshaped, h⟩ := of_bind_ok h
  obtain ⟨⟨a', left⟩, ha', h⟩ := of_bind_ok h
  dsimp only at h
  split at h
  · cases h
    exact accepts_of_follow (fun e he => absurd he List.not_mem_nil)
      (known_of_shapes (of_mapError_ok hshaped)) ha'
  · cases h

/-! ## What counts in the end -/

/-- The settings of a policy file are of their kinds. -/
theorem typed_of_gives_load {path : String} {content : FileContent} {s : Settings}
    (h : (Settings.load path content).Gives s) : s.Typed := by
  obtain ⟨log, log', hrun⟩ := h
  have hends := Settings.loads Yaml.read path content
  rw [← Settings.computes_load path content log, hrun] at hends
  cases hends with
  | typed typed => exact typed

/-- The settings that count, with those of the policy file. -/
def mergedWith (a : Arguments) (file : Settings) : Settings :=
  let s := (Settings.defaults.update file).update a.given
  if a.cleanup then s.set .continueOnError (.flag true) else s

/-- The settings that count come from the defaults, a policy file and the command line. -/
theorem exists_file_of_merged {a : Arguments} {read : String → FileContent} {s : Settings}
    (merged : (settings a read).Gives s) : ∃ file : Settings, file.Typed ∧ s = mergedWith a file := by
  unfold settings at merged
  by_cases hconfig : a.config.isTruthy = true
  · rw [hconfig] at merged
    obtain ⟨path, -, h⟩ := merged.of_bind
    obtain ⟨file, hload, h⟩ := h.of_bind
    exact ⟨file, typed_of_gives_load hload, h.of_pure.symm⟩
  · rw [if_neg hconfig] at merged
    exact ⟨[], fun e he => absurd he List.not_mem_nil, merged.of_pure.symm⟩

/-- Settings that are set are not lost. -/
theorem exists_get?_update {s t : Settings} {k : Setting} (h : ∃ v, s.get? k = some v) :
    ∃ v, (s.update t).get? k = some v := by
  induction t generalizing s with
  | nil => exact h
  | cons e t ih =>
    refine ih ?_
    rw [Settings.get?_set]
    split
    · exact ⟨_, rfl⟩
    · exact h

theorem get?_defaults (k : Setting) : Settings.defaults.get? k = some k.default := by
  cases k <;> rfl

/-- **Every setting has a value in the end, and it is one that the setting may have.** -/
theorem exists_get?_of_merged {argv : List String} {a : Arguments} {read : String → FileContent}
    {s : Settings} (parsed : parse argv = .ok a) (merged : (settings a read).Gives s)
    (k : Setting) : ∃ v, s.get? k = some v ∧ k.Accepts v := by
  obtain ⟨file, typed, rfl⟩ := exists_file_of_merged merged
  obtain ⟨v, hget⟩ : ∃ v, ((Settings.defaults.update file).update a.given).get? k = some v :=
    exists_get?_update (exists_get?_update ⟨k.default, get?_defaults k⟩)
  have accepts : ((Settings.defaults.update file).update a.given).Each Setting.Accepts :=
    ((Settings.typed_defaults.update typed).mono fun _ _ => Or.inl).update (accepts_of_parse parsed)
  unfold mergedWith
  dsimp only
  -- with settings to remove a redirection, one more is set, whatever it was before
  split
  · rw [Settings.get?_set]
    split
    next h => exact ⟨_, rfl, Or.inl (h ▸ .flag true)⟩
    · exact ⟨v, hget, accepts.of_get? hget⟩
  · exact ⟨v, hget, accepts.of_get? hget⟩

/-- A setting for a text has a text, or the empty list. -/
theorem getD_text_of_merged {argv : List String} {a : Arguments} {read : String → FileContent}
    {s : Settings} (parsed : parse argv = .ok a) (merged : (settings a read).Gives s)
    {k : Setting} (hk : k.kind = .text) :
    (∃ t, s.getD k .null = .text t) ∨ s.getD k .null = .list [] := by
  obtain ⟨v, hv, haccepts⟩ := exists_get?_of_merged parsed merged k
  rw [Settings.getD, hv, Option.getD_some]
  refine haccepts.imp_left fun has => ?_
  rw [hk] at has
  cases has with
  | text t => exact ⟨t, rfl⟩

/-- The text of a setting is not empty if the setting is given. -/
theorem isEmpty_text_of_merged {argv : List String} {a : Arguments} {read : String → FileContent}
    {s : Settings} (parsed : parse argv = .ok a) (merged : (settings a read).Gives s)
    {k : Setting} (hk : k.kind = .text) (given : Policy.flag s k = true) :
    (Policy.text s k).isEmpty = false := by
  rcases getD_text_of_merged parsed merged hk with ⟨t, ht⟩ | hnil
  · rw [Policy.text_of_getD ht]
    rw [Policy.flag, ht] at given
    simpa [Value.isTruthy] using given
  · rw [Policy.flag, hnil] at given
    simp [Value.isTruthy] at given

end CommandLine

end PodRedirect
