import PodRedirect.Proofs.CommandLine.Precedence
import PodRedirect.Proofs.Setting.List

/-!
# Three ways to write a list

A setting for a list is given by switches that are used one after the other, by a list in the policy
file, or by one text there with commas between the entries. The same entries give the setting the
same value in all three ways. An argument that is the separator carries no entry, so this one text
is not among the entries that switches can carry.

## Main definitions

* `CommandLine.argumentsFor`: the arguments of the switches for a setting
* `CommandLine.Carried`: entries that are given in one of the three ways

## Main results

* `CommandLine.Counts.of_carried`: the value that counts, from the entries
* `CommandLine.parse_joinedSwitch`: switches can carry any entries
* `CommandLine.lists_agree`: the value of a setting for a list
-/

namespace PodRedirect

open Setting (pieces tidied)

namespace Settings

/-- Of the members of a list with a property, only one is the last. -/
theorem eq_of_last {α : Type} {p : α → Prop} {pre post pre' post' : List α} {a b : α}
    (h : pre ++ a :: post = pre' ++ b :: post') (ha : p a) (hb : p b) (hpost : ∀ x ∈ post, ¬ p x)
    (hpost' : ∀ x ∈ post', ¬ p x) : a = b := by
  -- one of the two would stand behind the other
  rcases List.append_eq_append_iff.mp h with ⟨mid, -, hmid⟩ | ⟨mid, -, hmid⟩
  · cases mid with
    | nil => exact (List.cons.inj hmid).1
    | cons x mid =>
      rw [(List.cons.inj hmid).2] at hpost
      exact absurd hb (hpost b (by simp))
  · cases mid with
    | nil => exact (List.cons.inj hmid).1.symm
    | cons x mid =>
      rw [(List.cons.inj hmid).2] at hpost'
      exact absurd ha (hpost' a (by simp))

variable {es pre post : List (Value × Value)} {e : Value × Value} {k : Setting} {v : Option Value}

/-- The last entry that denotes the setting is the one that gives it a value. -/
theorem EntriesGive.of_last (h : EntriesGive es k v) (entries : es = pre ++ e :: post)
    (denotes : k.Denotes e.1) (later : ∀ e ∈ post, ¬ k.Denotes e.1) :
    ∃ w, v = some w ∧ k.coerce e.2 = .ok w := by
  cases h with
  | nothing silent => exact absurd denotes (silent e (entries ▸ by simp))
  | last entries' denotes' coerced later' =>
    have hsame := eq_of_last (p := fun e => k.Denotes e.1) (entries ▸ entries') denotes denotes'
      later later'
    exact ⟨_, rfl, hsame ▸ coerced⟩

end Settings

namespace CommandLine

open Settings (EntriesGive)

/-! ## Entries of a list in three ways -/

/-- The arguments of the switches for a setting, in order, without those that are the separator. -/
def argumentsFor (us : List Use) (k : Setting) : List String :=
  ((us.filter fun u => u.key? = some k).map Use.argument).filter (· ≠ "--")

/-- The entries `ts` are given for the setting in one of three ways: by switches, each with one entry
or with some that commas join, by a list in the policy file, or by a text there that joins all of
them with commas. Where no switch is used, there are no entries, and the file gives none either. -/
inductive Carried (us : List Use) (es : List (Value × Value)) (k : Setting) (ts : List String) :
    Prop where
  | switches (arguments : (argumentsFor us k).flatMap (Text.fields ',') = ts)
    (given : (∃ u ∈ us, u.key? = some k) ∨ ∀ e ∈ es, ¬ k.Denotes e.1)
  | list {pre post : List (Value × Value)} {e : Value × Value} {xs : List Value}
    (unused : ∀ u ∈ us, u.key? ≠ some k) (entries : es = pre ++ e :: post)
    (denotes : k.Denotes e.1) (later : ∀ e ∈ post, ¬ k.Denotes e.1)
    (members : e.2.content = .list xs) (texts : xs.mapM Value.display = .ok ts)
  | text {pre post : List (Value × Value)} {e : Value × Value}
    (unused : ∀ u ∈ us, u.key? ≠ some k) (entries : es = pre ++ e :: post)
    (denotes : k.Denotes e.1) (later : ∀ e ∈ post, ¬ k.Denotes e.1)
    (joined : e.2 = .text (",".intercalate ts))

section Carried

variable {us : List Use} {es : List (Value × Value)} {k : Setting} {ts : List String} {v : Value}

/-- The members that switches give are the pieces of their arguments. -/
theorem membersOf_eq (us : List Use) (k : Setting) :
    membersOf us k = ((argumentsFor us k).flatMap pieces).map .text := by
  rw [membersOf, argumentsFor]
  induction us.filter fun u => u.key? = some k with
  | nil => rfl
  | cons u us ih =>
    rw [List.flatMap_cons, ih, List.map_cons, Use.members]
    by_cases hseparator : u.argument = "--"
    · rw [if_pos hseparator, List.filter_cons_of_neg (by simpa using hseparator), List.nil_append]
    · rw [if_neg hseparator, List.filter_cons_of_pos (by simpa using hseparator), List.flatMap_cons,
        List.map_append]

/-- The value of an entry that carries a list has its tidied texts as entries, in both forms. -/
theorem Carried.filed (h : Carried us es k ts) (plain : ∀ t ∈ ts, ',' ∉ t.toList)
    (unused : ∀ u ∈ us, u.key? ≠ some k) (denoted : ∃ e ∈ es, k.Denotes e.1) :
    ∃ pre e post, es = pre ++ e :: post ∧ k.Denotes e.1 ∧ (∀ e ∈ post, ¬ k.Denotes e.1) ∧
      Setting.entries e.2 = .ok (tidied ts) := by
  cases h with
  | switches _ given =>
    obtain ⟨e, he, hdenotes⟩ := denoted
    rcases given with ⟨u, hu, hkey⟩ | silent
    · exact absurd hkey (unused u hu)
    · exact absurd hdenotes (silent e he)
  | list _ entries denotes later members texts =>
    refine ⟨_, _, _, entries, denotes, later, ?_⟩
    rw [Setting.entries_of_content members, texts]
    rfl
  | text _ entries denotes later joined =>
    refine ⟨_, _, _, entries, denotes, later, ?_⟩
    rw [joined, Setting.entries_text, Setting.pieces_intercalate plain]

/-- Where nothing is given, no entry is carried. -/
theorem Carried.eq_nil (h : Carried us es k ts) (unused : ∀ u ∈ us, u.key? ≠ some k)
    (silent : ∀ e ∈ es, ¬ k.Denotes e.1) : ts = [] := by
  cases h with
  | switches arguments =>
    have hnone : us.filter (fun u => u.key? = some k) = [] :=
      List.filter_eq_nil_iff.mpr fun u hu => by simpa using unused u hu
    rw [← arguments, argumentsFor, hnone]
    rfl
  | list _ entries denotes | text _ entries denotes =>
    exact absurd denotes (silent _ (entries ▸ by simp))

/-- Where a switch is used, the entries stand between the commas of its arguments. -/
theorem Carried.fields_argumentsFor (h : Carried us es k ts) (used : ∃ u ∈ us, u.key? = some k) :
    (argumentsFor us k).flatMap (Text.fields ',') = ts := by
  obtain ⟨u, hu, hkey⟩ := used
  cases h with
  | switches arguments => exact arguments
  | list unused | text unused => exact absurd hkey (unused u hu)

/-- **The value that counts holds the entries that are carried**, tidied. -/
theorem Counts.of_carried (h : Counts us es k v) (kind : k.kind = .list)
    (carried : Carried us es k ts) (plain : ∀ t ∈ ts, ',' ∉ t.toList) :
    v = .list ((tidied ts).map .text) := by
  cases h with
  | forced hforced =>
    rw [hforced.1] at kind
    cases kind
  | given _ switched =>
    cases switched with
    | list _ used =>
      rw [membersOf_eq, Setting.flatMap_pieces, carried.fields_argumentsFor used]
    | last other => exact absurd kind other
  | entry _ unused gives =>
    cases unused with
    | unused hunused =>
      have hdenoted : ∃ e ∈ es, k.Denotes e.1 := by
        cases gives with
        | last entries denotes => exact ⟨_, entries ▸ by simp, denotes⟩
      obtain ⟨pre, e, post, hes, hdenotes, hlater, hentries⟩ := carried.filed plain hunused hdenoted
      obtain ⟨w, hw, hcoerced⟩ := gives.of_last hes hdenotes hlater
      rw [Setting.coerce_of_entries kind hentries] at hcoerced
      cases hw
      exact (Except.ok.inj hcoerced).symm
  | usual _ unused nothing =>
    cases unused with
    | unused hunused =>
      cases nothing with
      | nothing silent =>
        rw [carried.eq_nil hunused silent, Setting.default_of_list kind]
        rfl

end Carried

/-! ## Switches for any entries -/

/-- A switch for a list with an argument joined to it. -/
def joinedSwitch (k : Setting) (t : String) : String := "--" ++ k.name ++ "=" ++ t

/-- The switch is written out, and its name is one that a value can be joined to. -/
structure Long (s : Switch) (name : String) : Prop where
  known : switch? name = some s
  dash : name.toList.head? = some '-'
  plain : '=' ∉ name.toList

/-- There is a long switch for every setting for a list. -/
theorem exists_long {k : Setting} (kind : k.kind = .list) :
    ∃ s, Long s ("--" ++ k.name) ∧ s.role = .list k := by
  cases k <;> first | exact absurd kind (by decide) | exact ⟨_, ⟨rfl, rfl, by decide⟩, rfl⟩

/-- No switch has an equals sign in its name. -/
theorem switch?_of_mem {text : String} (h : '=' ∈ text.toList) : switch? text = none := by
  have hnames : ∀ e ∈ namedSwitches, '=' ∉ e.1.toList := by decide
  have hne : ∀ e ∈ namedSwitches, text ≠ e.1 := fun e he heq => hnames e he (heq ▸ h)
  rw [switch?, List.lookup_eq_none_iff]
  simpa using hne

theorem cutEquals_append {name value : List Char} (h : '=' ∉ name) :
    cutEquals (name ++ '=' :: value) = (name, some value) := by
  have hname : ∀ c ∈ name, (decide (c ≠ '=')) = true := by
    intro c hc
    exact decide_eq_true fun heq => h (heq ▸ hc)
  have htake : (name ++ '=' :: value).takeWhile (· ≠ '=') = name := by
    rw [List.takeWhile_append_of_pos hname, List.takeWhile_cons_of_neg (by simp), List.append_nil]
  have hdrop : (name ++ '=' :: value).dropWhile (· ≠ '=') = '=' :: value := by
    rw [List.dropWhile_append_of_pos hname, List.dropWhile_cons_of_neg (by simp)]
  rw [cutEquals, htake, hdrop]

/-- A value is joined to a long switch by an equals sign. -/
theorem shape_joined {s : Switch} {name : String} (h : Long s name) (t : String) :
    shape (name ++ "=" ++ t) = .ok (.switch s name (some t.toList)) := by
  have hchars : (name ++ "=" ++ t).toList = name.toList ++ '=' :: t.toList := by simp
  have hdash : (name.toList ++ '=' :: t.toList).head? = some '-' := by
    rw [List.head?_append, h.dash]
    rfl
  have hlength : (name.toList ++ '=' :: t.toList).length ≠ 1 := by
    have hpos : name.toList ≠ [] := fun hnil => by simpa [hnil] using h.dash
    have := List.length_pos_of_ne_nil hpos
    simp only [List.length_append, List.length_cons]
    omega
  have hunknown : switch? (name ++ "=" ++ t) = none := switch?_of_mem (by rw [hchars]; simp)
  unfold shape
  rw [hchars, hunknown]
  simp only [hdash, hlength, cutEquals_append h.plain, String.ofList_toList, h.known]
  rfl

/-- A joined value is the argument of its switch, and the next argument does not belong to it. -/
theorem cluster_joined {s : Switch} (h : s.role.takesArgument = true) (next : Option String)
    (name t : String) : cluster next s name (some t.toList) = .ok ⟨[⟨s, name, t⟩], false⟩ := by
  show joinedCluster next s name t.toList = _
  have ht : String.ofList t.toList = t := String.ofList_toList
  cases hchars : t.toList with
  | nil =>
    rw [hchars] at ht
    rw [joinedCluster, if_pos h, ← ht]
  | cons c rest =>
    rw [hchars] at ht
    rw [joinedCluster]
    dsimp only
    rw [if_pos h, ht]

/-! ## Following such switches -/

section Switches

variable {s : Switch} {name : String} {k : Setting}

theorem joined_ne_separator (name t : String) : name ++ "=" ++ t ≠ "--" := by
  intro h
  have hmem : '=' ∈ (name ++ "=" ++ t).toList := by simp
  rw [h] at hmem
  exact absurd hmem (by decide)

theorem shapes_joined (h : Long s name) (ts : List String) :
    shapes (ts.map fun t => name ++ "=" ++ t) =
      .ok (ts.map fun t => (name ++ "=" ++ t, .switch s name (some t.toList))) := by
  induction ts with
  | nil => rfl
  | cons t ts ih =>
    rw [List.map_cons, shapes, if_neg (joined_ne_separator name t), shape_joined h, ih]
    rfl

theorem usesOf_joined (h : s.role.takesArgument = true) (ts : List String) :
    usesOf (ts.map fun t => (name ++ "=" ++ t, .switch s name (some t.toList))) =
      .ok (ts.map fun t => ⟨s, name, t⟩) := by
  induction ts with
  | nil => rfl
  | cons t ts ih =>
    rw [List.map_cons, usesOf_switch (cluster_joined h _ name t)]
    dsimp only
    rw [if_neg (by decide), ih]
    rfl

/-- Switches for lists are followed, and nothing is left over. The policy file that is named stays
the same. -/
theorem follow_joined (name : String) (h : s.role = .list k) (ts : List String) (a : Arguments) :
    ∃ b, a.follow (ts.map fun t => (name ++ "=" ++ t, .switch s name (some t.toList))) =
      .ok (b, []) ∧ b.config = a.config := by
  induction ts generalizing a with
  | nil => exact ⟨a, rfl, rfl⟩
  | cons t ts ih =>
    have htakes : s.role.takesArgument = true := by rw [h]; rfl
    have huse : ∃ b, a.use ⟨s, name, t⟩ = .ok b ∧ b.config = a.config := by
      rw [Arguments.use, h]
      exact ⟨_, rfl, rfl⟩
    obtain ⟨b, hb, hconfig⟩ := huse
    obtain ⟨c, hc, hconfig'⟩ := ih b
    refine ⟨c, ?_, hconfig'.trans hconfig⟩
    rw [List.map_cons]
    unfold Arguments.follow
    dsimp only
    rw [cluster_joined htakes]
    show (([⟨s, name, t⟩] : List Use).foldlM Arguments.use a >>= _) = _
    rw [List.foldlM_cons, hb]
    exact hc

end Switches

/-- **Switches can carry any entries.** No policy file is named by them. -/
theorem parse_joinedSwitch {k : Setting} (kind : k.kind = .list) (ts : List String) :
    ∃ a us, parse (ts.map (joinedSwitch k)) = .ok a ∧ uses (ts.map (joinedSwitch k)) = .ok us ∧
      a.config.isTruthy = false ∧ argumentsFor us k = ts.filter (· ≠ "--") := by
  obtain ⟨s, hlong, hrole⟩ := exists_long kind
  obtain ⟨a, hfollow, hconfig⟩ := follow_joined ("--" ++ k.name) hrole ts .empty
  have htakes : s.role.takesArgument = true := by rw [hrole]; rfl
  have hshapes : shapes (ts.map (joinedSwitch k)) = .ok _ := shapes_joined hlong ts
  refine ⟨a, ts.map fun t => ⟨s, "--" ++ k.name, t⟩, ?_, ?_, ?_, ?_⟩
  · rw [parse, hshapes]
    show (Arguments.follow _ _ >>= _) = _
    rw [hfollow]
    rfl
  · rw [uses, hshapes]
    exact usesOf_joined htakes ts
  · rw [hconfig]
    rfl
  · -- all of these switches are for the setting
    have hkey : ∀ u ∈ ts.map (fun t => (⟨s, "--" ++ k.name, t⟩ : Use)),
        decide (u.key? = some k) = true := by
      intro u hu
      obtain ⟨t, -, rfl⟩ := List.mem_map.mp hu
      rw [Use.key?, hrole]
      exact decide_eq_true rfl
    rw [argumentsFor, List.filter_eq_self.mpr hkey, List.map_map]
    exact congrArg _ (List.map_id ts)

/-! ## The value of a setting for a list -/

theorem Filed.unique {a : Arguments} {read : String → FileContent} {es es' : List (Value × Value)}
    (h : Filed a read es) (h' : Filed a read es') : es = es' := by
  cases h with
  | unnamed h =>
    cases h' with
    | unnamed => rfl
    | named h' => exact absurd (h.symm.trans h') Bool.false_ne_true
  | named h said holds =>
    cases h' with
    | unnamed h' => exact absurd (h'.symm.trans h) Bool.false_ne_true
    | named _ said' holds' =>
      cases said.symm.trans said'
      exact holds.unique holds'

/-- The settings hold the entries that are carried. -/
theorem exists_settings_of_carried {argv : List String} {a : Arguments}
    {read : String → FileContent} {us : List Use} {es : List (Value × Value)}
    (parsed : parse argv = .ok a) (used : uses argv = .ok us) (filed : Filed a read es)
    (accepted : Accepted a read) :
    ∃ s, ((settings a read).run #[]).1 = .ok s ∧ ∀ (k : Setting) (ts : List String),
      k.kind = .list → (∀ t ∈ ts, ',' ∉ t.toList) → Carried us es k ts →
      s.get? k = some (.list ((tidied ts).map .text)) := by
  obtain ⟨us', hus, hfold, hswitches⟩ := uses_of_parse parsed
  cases used.symm.trans hus
  obtain ⟨es', file, hfiled, htaken, hcomputes⟩ := exists_filed accepted
  cases filed.unique hfiled
  refine ⟨mergedWith a file, hcomputes #[], fun k ts kind plain carried => ?_⟩
  obtain ⟨v, hv, hcounts⟩ := counts_of_followed (followed_of_uses hswitches hfold) htaken k
  rw [hv, hcounts.of_carried kind carried plain]

/-- **The three ways to write a list agree.** A comma between two texts puts their entries together;
a list of values whose texts hold no comma has the same entries as the one text that joins these
with commas; and entries are not empty, have no white space around them, and are the entries of the
list of them. So the same entries without commas give a setting for a list the same value, be it
that switches carry them, a list in the policy file or a single text there. Switches can carry any
entries but the separator: as an argument it stands for nothing. -/
theorem lists_agree :
    (∀ s t, ∃ ss ts, Setting.entries (.text s) = .ok ss ∧ Setting.entries (.text t) = .ok ts ∧
      Setting.entries (.text (s ++ "," ++ t)) = .ok (ss ++ ts)) ∧
    (∀ xs : List Value, (∀ x ∈ xs, x.NoComma) → Setting.entries (.list xs) =
      xs.mapM Value.display >>= fun ts => Setting.entries (.text (",".intercalate ts))) ∧
    (∀ v ss, Setting.entries v = .ok ss →
      (∀ s ∈ ss, s ≠ "" ∧ Text.strip s = s) ∧ Setting.entries (.list (ss.map .text)) = .ok ss) ∧
    (∀ (k : Setting) (ts : List String), k.kind = .list → (∀ t ∈ ts, ',' ∉ t.toList) →
      ∃ a, parse (ts.map (joinedSwitch k)) = .ok a ∧ ∀ read, ∃ s,
        ((settings a read).run #[]).1 = .ok s ∧
        s.get? k = some (.list ((tidied (ts.filter (· ≠ "--"))).map .text))) ∧
    ∀ argv a read us es, parse argv = .ok a → uses argv = .ok us → Filed a read es →
      Accepted a read → ∃ s, ((settings a read).run #[]).1 = .ok s ∧
        ∀ (k : Setting) (ts : List String), k.kind = .list → (∀ t ∈ ts, ',' ∉ t.toList) →
          Carried us es k ts → s.get? k = some (.list ((tidied ts).map .text)) := by
  refine ⟨fun s t => ?_, fun xs => Setting.entries_list_eq, fun v ss h => ?_, ?_,
    fun argv a read us es => exists_settings_of_carried⟩
  · refine ⟨pieces s, pieces t, rfl, rfl, ?_⟩
    rw [Setting.entries_text, Setting.pieces_append]
  · exact ⟨Setting.tidy_of_mem_entries h, Setting.entries_of_entries h⟩
  · intro k ts kind plain
    obtain ⟨a, us, hparse, huses, hconfig, harguments⟩ := parse_joinedSwitch kind ts
    refine ⟨a, hparse, fun read => ?_⟩
    have haccepted : Accepted a read := fun htruthy =>
      absurd (hconfig.symm.trans htruthy) Bool.false_ne_true
    obtain ⟨s, hs, hvalue⟩ :=
      exists_settings_of_carried hparse huses (.unnamed hconfig : Filed a read []) haccepted
    have hplain : ∀ t ∈ ts.filter (· ≠ "--"), ',' ∉ t.toList :=
      fun t ht => plain t (List.mem_of_mem_filter ht)
    have hcarried : Carried us [] k (ts.filter (· ≠ "--")) :=
      .switches (by rw [harguments, Setting.flatMap_fields hplain]) (Or.inr nofun)
    exact ⟨s, hs, hvalue k _ kind hplain hcarried⟩

/-- Two switches for a list, without a policy file. -/
def switchedPorts : Arguments where
  given := [(.portsToRedirect, .list [.text "80", .text "90", .text "91"])]
  cleanup := false
  config := .text ""
  script := .text ""

/-- The uses of these switches. -/
def portSwitches : List Use :=
  ["80", " 90 ,91"].map fun t => ⟨⟨["-r", "--ports-to-redirect"], .list .portsToRedirect⟩, "-r", t⟩

/-- Switches give a list their entries, without the white space around these. -/
theorem lists_agree_ports : ∃ s,
    ((settings switchedPorts fun _ => Settings.ascii "").run #[]).1 = .ok s ∧
    s.get? .portsToRedirect = some (.list [.text "80", .text "90", .text "91"]) := by
  have hparse : parse ["-r", "80", "-r", " 90 ,91"] = .ok switchedPorts := rfl
  have huses : uses ["-r", "80", "-r", " 90 ,91"] = .ok portSwitches := by decide +kernel
  have hcarried : Carried portSwitches [] .portsToRedirect ["80", " 90 ", "91"] :=
    .switches (by decide) (Or.inr nofun)
  have htidied : tidied ["80", " 90 ", "91"] = ["80", "90", "91"] := by decide
  obtain ⟨s, hs, hvalue⟩ := lists_agree.2.2.2.2 _ _ (fun _ => Settings.ascii "") _ [] hparse huses
    (.unnamed rfl) nofun
  refine ⟨s, hs, ?_⟩
  rw [hvalue .portsToRedirect _ rfl (by decide) hcarried, htidied]
  rfl

/-- The subnets that settings ignore, if these are texts. -/
def ignored? : Except Failure Settings → Option (List String)
  | .ok s =>
    match s.get? .subnetsToIgnore with
    | some (.list vs) => vs.mapM fun
      | .text t => some t
      | _ => none
    | _ => none
  | .error _ => none

/-- The subnets that are ignored for the arguments, where files have the given text. -/
def ignoredFor (argv : List String) (file : String) : Option (List String) :=
  match parse argv with
  | .ok a => ignored? ((settings a fun _ => Settings.ascii file).run #[]).1
  | .error _ => none

/-- **The separator is an entry in a policy file, but not as the argument of a switch.** -/
theorem lists_part_at_separator :
    ignoredFor ["--config", "policy.yml"] "subnets-to-ignore: ['--']" = some ["--"] ∧
    ignoredFor ["--config", "policy.yml"] "subnets-to-ignore: '--'" = some ["--"] ∧
    ignoredFor ["--subnets-to-ignore=--"] "" = some [] := by
  refine ⟨?_, ?_, ?_⟩
  · decide +kernel
  · decide +kernel
  · decide +kernel

end CommandLine

end PodRedirect
