import PodRedirect.Proofs.Logged
import PodRedirect.Setting.Coerce

/-!
# Settings of their kinds

A value that was taken as one of the kind of a setting is of that kind, whatever it was before. What
is no value of the kind is rejected, but for two sorts of values that no rule covers: an infinite
number where an integer is expected, and a value whose text cannot be written because an integer in
it is too long. The entries of a policy file are taken one after the other, up to the first that
cannot be.

## Main definitions

* `Setting.Kind.Has`: the values of a kind
* `Settings.Each`, `Settings.Typed`: settings whose values satisfy a condition, and settings whose
  values are of their kinds
* `Setting.Breaks`: the values that no rule covers
* `Settings.entry`, `Settings.fault?`: what an entry gives, and why it gives nothing

## Main results

* `Setting.coerces`, `Setting.coerce_of_breaks`: what taking a value comes to
* `Settings.computes_coerceOnto`: what taking the entries of a policy file comes to
* `Settings.enters`: the ends of taking an entry
-/

namespace PodRedirect

/-! ## Values and kinds -/

namespace Setting

/-- The value is of the kind: the members of a list are texts. -/
inductive Kind.Has : Kind → Value → Prop where
  | list (ss : List String) : Has .list (.list (ss.map .text))
  | flag (b : Bool) : Has .flag (.flag b)
  | int (n : Int) : Has .int (.int n)
  | text (s : String) : Has .text (.text s)

/-- The default of every setting is of its kind. -/
theorem has_default (k : Setting) : k.kind.Has k.default := by
  cases k <;> first | exact .int _ | exact .list [] | exact .flag _ | exact .text _

end Setting

namespace Settings

/-- All settings have values that satisfy `P`. -/
def Each (P : Setting → Value → Prop) (s : Settings) : Prop := ∀ e ∈ s, P e.1 e.2

/-- All settings have values of their kinds. -/
abbrev Typed (s : Settings) : Prop := s.Each fun k v => k.kind.Has v

section Each

variable {P Q : Setting → Value → Prop} {s t : Settings} {k : Setting} {v : Value}

theorem Each.mono (h : s.Each P) (weaker : ∀ k v, P k v → Q k v) : s.Each Q :=
  fun e he => weaker _ _ (h e he)

theorem Each.set (h : s.Each P) (hv : P k v) : (s.set k v).Each P := by
  induction s with
  | nil => exact List.forall_mem_singleton.mpr hv
  | cons e s ih =>
    obtain ⟨he, hs⟩ := List.forall_mem_cons.mp h
    rw [Settings.set]
    split
    · exact List.forall_mem_cons.mpr ⟨hv, hs⟩
    · exact List.forall_mem_cons.mpr ⟨he, ih hs⟩

theorem Each.update (h : s.Each P) (h' : t.Each P) : (s.update t).Each P := by
  induction t generalizing s with
  | nil => exact h
  | cons e t ih =>
    obtain ⟨he, ht⟩ := List.forall_mem_cons.mp h'
    exact ih (h.set he) ht

theorem Each.of_get? (h : s.Each P) (given : s.get? k = some v) : P k v := by
  obtain ⟨l₁, l₂, rfl, -⟩ := List.lookup_eq_some_iff.mp given
  exact h (k, v) (by simp)

theorem typed_defaults : Settings.defaults.Typed := by
  intro e he
  obtain ⟨k, -, rfl⟩ := List.mem_map.mp he
  exact k.has_default

end Each

end Settings

/-! ## Taking a value as one of a kind -/

/-- A value has a text, unless the text cannot be written. -/
theorem Value.said_cases (v : Value) :
    (∃ text, v.display = .ok text ∧ v.said = .ok text) ∨
      ∃ f, v.display = .error f ∧ v.said = .error (.mishap (.numeral f)) := by
  rw [said]
  cases v.display with
  | ok text => exact Or.inl ⟨text, rfl, rfl⟩
  | error f => exact Or.inr ⟨f, rfl, rfl⟩

theorem Value.said_of_error {v : Value} {f : Numeral.Fault} (h : v.display = .error f) :
    v.said = .error (.mishap (.numeral f)) := by
  rw [said, h]
  rfl

namespace Setting

/-- The value is one that no rule covers where the setting is expected: the number is infinite, or
the text of the value, or of one of its members, cannot be written. -/
inductive Breaks (k : Setting) : Value → Mishap → Prop where
  | infinite {negative : Bool} (int : k.kind = .int) :
    Breaks k (.float (.infinite negative)) .infinite
  | members {v : Value} {f : Numeral.Fault} (list : k.kind = .list) (h : entries v = .error f) :
    Breaks k v (.numeral f)
  | text {v : Value} {f : Numeral.Fault} (single : k.kind ≠ .list)
    (noInt : k.kind = .int → ∀ n, v.toInt ≠ .ok n) (h : v.display = .error f) :
    Breaks k v (.numeral f)

/-- Of all values only an infinite number is too large for an integer. -/
theorem eq_infinite_of_toInt {v : Value} (h : v.toInt = .error .infinite) :
    ∃ negative, v = .float (.infinite negative) := by
  unfold Value.toInt at h
  split at h
  case h_4 => exact ⟨_, rfl⟩
  case h_6 s =>
    cases hread : Numeral.read 10 s <;> rw [hread] at h <;> cases h
  case h_7 bs =>
    cases hread : Numeral.readBytes bs <;> rw [hread] at h <;> cases h
  all_goals cases h

/-- A value that is no truth value is taken as an integer if it stands for one. -/
theorem int_eq (k : Setting) {v : Value} (hflag : ∀ b, v ≠ .flag b) :
    int k v = match v.toInt with
      | .ok n => .ok n
      | .error .infinite => .error (.mishap .infinite)
      | .error _ => v.said >>= fun text => .error (.rejected (.noInteger k text)) := by
  unfold int
  split
  · exact absurd rfl (hflag _)
  · cases v.toInt with
    | ok n => rfl
    | error fault => cases fault <;> rfl

/-- The ends of taking a value: it is one of the kind, or it is rejected, or no rule covers it. -/
inductive Coerces (k : Setting) (v : Value) : Except Failure Value → Prop where
  | ok {w : Value} (has : k.kind.Has w) : Coerces k v (.ok w)
  | rejected (r : Rejection) : Coerces k v (.error (.rejected r))
  | mishap {m : Mishap} (breaks : k.Breaks v m) : Coerces k v (.error (.mishap m))

/-- Where the text of a value is asked for, that decides, unless it cannot be written. -/
theorem Coerces.of_said {α : Type} {k : Setting} {v : Value} {g : String → Except Failure α}
    {w : α → Value} (single : k.kind ≠ .list) (noInt : k.kind = .int → ∀ n, v.toInt ≠ .ok n)
    (h : ∀ text, k.Coerces v ((g text).map w)) : k.Coerces v ((v.said >>= g).map w) := by
  rcases v.said_cases with ⟨text, -, hsaid⟩ | ⟨f, hdisplay, hsaid⟩
  · rw [hsaid]
    exact h text
  · rw [hsaid]
    exact .mishap (.text single noInt hdisplay)

/-- **Taking a value as one of the kind of a setting ends as `Coerces` says.** -/
theorem coerces (k : Setting) (v : Value) : k.Coerces v (k.coerce v) := by
  unfold coerce
  cases hk : k.kind with
  | list =>
    dsimp only
    cases h : entries v with
    | ok ss => exact .ok (hk ▸ .list ss)
    | error f => exact .mishap (.members hk h)
  | flag =>
    dsimp only
    unfold flag
    split
    · exact .ok (hk ▸ .flag _)
    · refine .of_said (by simp [hk]) (by simp [hk]) fun text => ?_
      split
      · exact .ok (hk ▸ .flag _)
      · exact .rejected _
  | int =>
    by_cases hflag : ∃ b, v = .flag b
    · obtain ⟨b, rfl⟩ := hflag
      exact .rejected (.noInteger k (Value.flagText b))
    · dsimp only
      rw [int_eq k fun b hb => hflag ⟨b, hb⟩]
      cases hint : v.toInt with
      | ok n => exact .ok (hk ▸ .int n)
      | error fault =>
        -- what stands for no integer is rejected with its text, if it has one
        have hrejected : k.Coerces v
            ((v.said >>= fun text => .error (.rejected (.noInteger k text))).map Value.int) :=
          .of_said (by simp [hk]) (by simp [hint]) fun text => .rejected _
        cases fault with
        | infinite =>
          obtain ⟨negative, rfl⟩ := eq_infinite_of_toInt hint
          exact .mishap (.infinite hk)
        | wrongKind | notANumber | numeral _ => exact hrejected
  | text =>
    dsimp only
    split
    · exact .ok (hk ▸ .text "")
    · rw [← bind_pure v.said]
      exact .of_said (by simp [hk]) (by simp [hk]) fun text => .ok (hk ▸ .text text)

/-- A value that no rule covers ends as a mishap. -/
theorem coerce_of_breaks {k : Setting} {v : Value} {m : Mishap} (h : k.Breaks v m) :
    k.coerce v = .error (.mishap m) := by
  unfold coerce
  cases h with
  | infinite hk =>
    rw [hk]
    rfl
  | members hk h =>
    rw [hk, h]
    rfl
  | text single noInt h =>
    have hsaid := Value.said_of_error h
    -- the text of a truth value, and that of nothing, can be written
    have hflag : ∀ b, v ≠ .flag b := by
      rintro b rfl
      cases h
    cases hk : k.kind with
    | list => exact absurd hk single
    | flag =>
      dsimp only
      unfold flag
      split
      · exact absurd rfl (hflag _)
      · rw [hsaid]
        rfl
    | int =>
      dsimp only
      rw [int_eq k hflag]
      cases hint : v.toInt with
      | ok n => exact absurd hint (noInt hk n)
      | error fault =>
        cases fault with
        | infinite =>
          obtain ⟨negative, rfl⟩ := eq_infinite_of_toInt hint
          cases h
        | wrongKind | notANumber | numeral _ =>
          rw [hsaid]
          rfl
    | text =>
      dsimp only
      split
      · cases h
      · rw [hsaid]
        rfl

end Setting

/-! ## Entries of a policy file -/

namespace Settings

/-- What an entry gives: a setting and its value, or nothing if it names no setting. -/
def entry (e : Value × Value) : Except Failure (Option (Setting × Value)) :=
  match Setting.named? e.1 with
  | none => .ok none
  | some k => (k.coerce e.2).map fun v => some (k, v)

theorem entry_of_unnamed {e : Value × Value} (h : Setting.named? e.1 = none) :
    entry e = .ok none := by
  rw [entry, h]

theorem entry_of_named {e : Value × Value} {k : Setting} (h : Setting.named? e.1 = some k) :
    entry e = (k.coerce e.2).map fun v => some (k, v) := by
  rw [entry, h]

/-- Why an entry gives nothing, if it is at fault. -/
def fault? (e : Value × Value) : Option Failure :=
  match entry e with
  | .ok _ => none
  | .error f => some f

/-- The setting and the value that an entry gives, if it gives any. -/
def found? (e : Value × Value) : Option (Setting × Value) :=
  match entry e with
  | .ok found => found
  | .error _ => none

/-- The settings that entries give, after those given before: they are set in order, unless one of
the entries is at fault. -/
def taken (given : Settings) (es : List (Value × Value)) : Except Failure Settings :=
  match es.findSome? fault? with
  | some f => .error f
  | none => .ok (given.update (es.filterMap found?))

/-- The entries are taken one after the other. -/
theorem taken_cons (given : Settings) (key v : Value) (es : List (Value × Value)) :
    taken given ((key, v) :: es) =
      match Setting.named? key with
      | none => taken given es
      | some k => k.coerce v >>= fun w => taken (given.set k w) es := by
  rw [taken, List.findSome?_cons, fault?, List.filterMap_cons, found?, entry]
  -- the entry is skipped, at fault or set, and in each case the rest goes on from there
  cases Setting.named? key with
  | none => rfl
  | some k =>
    dsimp only
    cases k.coerce v <;> rfl

/-- **The entries of a policy file are taken in order**, up to the first that is at fault. -/
theorem computes_coerceOnto {α : Type} (value : α → Value) (given : Settings)
    (data : List (Value × α)) : (coerceOnto value given data).Computes
      (taken given (data.map fun e => (e.1, value e.2))) := by
  induction data generalizing given with
  | nil => exact Logged.computes_pure given
  | cons e data ih =>
    rw [List.map_cons, taken_cons, coerceOnto]
    cases Setting.named? e.1 with
    | none => exact (Logged.computes_note _ _ _).bind fun _ => ih given
    | some k => exact (Logged.computes_except _).bind fun w => ih (given.set k w)

/-- The entry is one that no rule covers: its value is one that no rule covers where the setting
that it names is expected. -/
inductive EntryBreaks : Value × Value → Mishap → Prop where
  | value {key v : Value} {k : Setting} {m : Mishap} (named : Setting.named? key = some k)
    (h : k.Breaks v m) : EntryBreaks (key, v) m

/-- The ends of taking an entry: it names no setting, or gives one a value of its kind, or it is
rejected, or no rule covers it. -/
inductive Enters (e : Value × Value) : Except Failure (Option (Setting × Value)) → Prop where
  | unknown : Enters e (.ok none)
  | given {k : Setting} {v : Value} (has : k.kind.Has v) : Enters e (.ok (some (k, v)))
  | rejected (r : Rejection) : Enters e (.error (.rejected r))
  | mishap {m : Mishap} (breaks : EntryBreaks e m) : Enters e (.error (.mishap m))

/-- **Taking an entry ends as `Enters` says.** -/
theorem enters (e : Value × Value) : Enters e (entry e) := by
  obtain ⟨key, v⟩ := e
  cases hkey : Setting.named? key with
  | none =>
    rw [entry_of_unnamed hkey]
    exact .unknown
  | some k =>
    rw [entry_of_named hkey]
    have hends := k.coerces v
    generalize k.coerce v = r at hends
    cases hends with
    | ok has => exact .given has
    | rejected r => exact .rejected r
    | mishap breaks => exact .mishap (.value hkey breaks)

theorem entry_of_breaks {e : Value × Value} {m : Mishap} (h : EntryBreaks e m) :
    entry e = .error (.mishap m) := by
  obtain ⟨named, breaks⟩ := h
  rw [entry_of_named named, Setting.coerce_of_breaks breaks]
  rfl

/-- The entry is at fault for what no rule covers exactly if no rule covers it. -/
theorem fault?_eq_mishap_iff {e : Value × Value} {m : Mishap} :
    fault? e = some (.mishap m) ↔ EntryBreaks e m := by
  constructor
  · intro h
    have hends := enters e
    rw [fault?] at h
    generalize entry e = r at h hends
    cases hends with
    | unknown | given | rejected => cases h
    | mishap breaks => cases h; exact breaks
  · intro h
    rw [fault?, entry_of_breaks h]

/-- The settings that entries give are of their kinds. -/
theorem typed_of_taken {given s : Settings} {es : List (Value × Value)} (typed : given.Typed)
    (h : taken given es = .ok s) : s.Typed := by
  unfold taken at h
  split at h
  · cases h
  · cases h
    -- what is set comes from an entry, and that gives values of the kind of the setting only
    refine typed.update fun e he => ?_
    obtain ⟨x, -, hx⟩ := List.mem_filterMap.mp he
    have hends := enters x
    rw [found?] at hx
    generalize entry x = r at hx hends
    cases hends with
    | unknown | rejected | mishap => cases hx
    | given has => cases hx; exact has

end Settings

end PodRedirect
