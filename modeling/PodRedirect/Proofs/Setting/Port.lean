import PodRedirect.Proofs.Policy.Families
import PodRedirect.Proofs.Port.Notation
import PodRedirect.Proofs.Setting.Layer

/-!
# Two routes to a port

A port of the proxy comes from a policy file, where it is read as an integer first, or it is given
as it is. A policy checks it in either case. The first reading has a language of its own: it cuts
off fractions and takes signs, underscores and digits of any script, so that it makes a port of
values that are none when they are given as they are.

## Main definitions

* `Port.Taken`: the port that a value stands for in a policy file
* `Port.Plain`: the port that a value stands for as it is given
* `Port.Apart`: the value is a port on one of the two routes only
* `Direction.portSetting`, `Direction.port`: the port of the proxy for a direction

## Main results

* `Port.taken_iff_plain`: the two routes part for the values of `Port.Apart`
* `Policy.routes_agree_iff`: which ports a policy gets on the two routes
-/

namespace PodRedirect

open Text

/-! ## Values that are ports -/

namespace Port

open Numeral (Digits Reads Writes)

/-- The port that the value stands for in a policy file: an integer, a number whose fraction is cut
off, or the integer that a text writes, be it given as such or as its bytes in ASCII. -/
inductive Taken : Value → Int → Prop where
  | int {n : Int} (port : 0 ≤ n ∧ n ≤ 65535) : Taken (.int n) n
  | float {x : Binary64} {n : Int} (cut : x.truncate? = some n) (port : 0 ≤ n ∧ n ≤ 65535) :
    Taken (.float x) n
  | text {s : String} {n : Int} (h : Writes s.toList n) (port : 0 ≤ n ∧ n ≤ 65535) :
    Taken (.text s) n
  | bytes {bs : List UInt8} {n : Int} (ascii : ∀ b ∈ bs, b < 128)
    (h : Writes (ofBytes bs).toList n) (port : 0 ≤ n ∧ n ≤ 65535) : Taken (.bytes bs) n

/-- The port that the value stands for as it is given: an integer, or a text that is its decimal,
white space around it apart. -/
inductive Plain : Value → Int → Prop where
  | int {n : Int} (port : 0 ≤ n ∧ n ≤ 65535) : Plain (.int n) n
  | text {s : String} {n : Nat} (h : Digits (stripped s) n)
    (short : (stripped s).length ≤ Numeral.digitLimit) (port : n ≤ 65535) : Plain (.text s) n

/-- The value is a port on one route only: a number that has to be cut off, a text that writes a
port otherwise than as a decimal, a decimal with an information separator around it, or the bytes of
a text that writes a port in any way. -/
inductive Apart : Value → Prop where
  | cut {x : Binary64} {n : Int} (h : x.truncate? = some n) (port : 0 ≤ n ∧ n ≤ 65535) :
    Apart (.float x)
  | spelled {s : String} {n : Int} (h : Writes s.toList n) (port : 0 ≤ n ∧ n ≤ 65535)
    (undigit : ∃ c ∈ stripped s, c.isDigit = false) : Apart (.text s)
  | separated {s : String} {n : Nat} (h : Digits (stripped s) n)
    (short : (stripped s).length ≤ Numeral.digitLimit) (port : n ≤ 65535)
    (separator : ∃ c ∈ s.toList, Numeral.IsSeparator c) : Apart (.text s)
  | bytes {bs : List UInt8} {n : Int} (ascii : ∀ b ∈ bs, b < 128)
    (h : Writes (ofBytes bs).toList n) (port : 0 ≤ n ∧ n ≤ 65535) : Apart (.bytes bs)

/-- The decimal of a number with no information separator around it writes it. -/
theorem writes_of_digits {s : String} {n : Nat} (h : Digits (stripped s) n)
    (short : (stripped s).length ≤ Numeral.digitLimit)
    (clear : ∀ c ∈ s.toList, ¬ Numeral.IsSeparator c) : Writes s.toList n :=
  h.value ▸ Numeral.writes_of_isDigit h.ne_nil h.isDigit short clear

/-- **The two routes part for the values of `Apart`, and for no others.** -/
theorem taken_iff_plain (v : Value) : (∀ n, Taken v n ↔ Plain v n) ↔ ¬ Apart v := by
  constructor
  · intro h hapart
    cases hapart with
    | cut hx port => cases (h _).mp (.float hx port)
    | spelled hs port undigit =>
      obtain ⟨c, hc, hdigit⟩ := undigit
      cases (h _).mp (.text hs port) with
      | text hdigits =>
        rw [hdigits.isDigit c hc] at hdigit
        cases hdigit
    | separated hs short port separator =>
      obtain ⟨c, hc, hseparator⟩ := separator
      cases (h _).mpr (.text hs short port) with
      | text hwrites => exact hwrites.not_isSeparator hc hseparator
    | bytes ascii hwrites port => cases (h _).mp (.bytes ascii hwrites port)
  · intro h n
    constructor
    · intro htaken
      cases htaken with
      | int port => exact .int port
      | float cut port => exact absurd (.cut cut port) h
      | bytes ascii hwrites port => exact absurd (.bytes ascii hwrites port) h
      | @text s n hs port =>
        -- the text is spelled otherwise, unless it is digits only
        have digits : ∀ c ∈ stripped s, c.isDigit = true := by
          intro c hc
          by_contra hdigit
          exact h (.spelled hs port ⟨c, hc, by simpa using hdigit⟩)
        obtain ⟨ne_nil, short, rfl⟩ := hs.of_isDigit digits
        exact .text ⟨ne_nil, digits, rfl⟩ short (Int.ofNat_le.mp port.2)
    · intro hplain
      cases hplain with
      | int port => exact .int port
      | @text s n hs short port =>
        refine .text (writes_of_digits hs short fun c hc hsep => ?_) (by omega)
        exact h (.separated hs short port ⟨c, hc, hsep⟩)

/-! ## Values as they are given -/

/-- Of a text without the white space around it, no line feed is read. -/
theorem reads_stripped_iff {text : String} {n : Nat} : Reads (stripped text) n ↔
    Digits (stripped text) n ∧ (stripped text).length ≤ Numeral.digitLimit := by
  constructor
  · rintro ⟨ds, hds | hds, h⟩
    · exact hds ▸ h
    · exact absurd hds (stripped_ne_append_newline text ds)
  · exact fun h => ⟨_, Or.inl rfl, h⟩

/-- A value is a port if its text is the decimal of one, white space around it apart. -/
theorem parse_eq_port_iff {v : Value} {n : Int} : parse v = .ok n ↔
    ∃ text, v.display = .ok text ∧ ∃ k : Nat, Digits (stripped text) k ∧
      (stripped text).length ≤ Numeral.digitLimit ∧ k ≤ 65535 ∧ n = k := by
  cases hdisplay : v.display with
  | error f =>
    rw [parse_eq_of_unwritable hdisplay]
    simp
  | ok text =>
    have hnumber : number? (stripped text) = .ok (some n) ↔ ∃ k : Nat,
        Digits (stripped text) k ∧ (stripped text).length ≤ Numeral.digitLimit ∧ k ≤ 65535 ∧
          n = k := by
      simp only [number?_eq_some_iff, reads_stripped_iff, and_assoc]
    rw [parse_eq_of_display hdisplay]
    simp only [Except.ok.injEq, exists_eq_left', ← hnumber]
    rcases number? (stripped text) with f | _ | m <;> simp

/-- A text with a character that is neither a digit nor white space is no decimal. -/
theorem parse_ne_ok {v : Value} {text : String} (h : v.display = .ok text)
    (hmem : ∃ c ∈ text.toList, c.isDigit = false ∧ isBlank c = false) (n : Int) :
    parse v ≠ .ok n := by
  intro hparse
  obtain ⟨c, hc, hdigit, hblank⟩ := hmem
  obtain ⟨text', htext', k, hk, -⟩ := parse_eq_port_iff.mp hparse
  cases h.symm.trans htext'
  rw [hk.isDigit c (mem_trim hc hblank)] at hdigit
  cases hdigit

/-- The text of an integer is its decimal. -/
theorem display_int {n : Int} {text : String} (h : (Value.int n).display = .ok text) :
    text = toString n :=
  Numeral.of_write_ok ((Value.display_int n).symm.trans h)

/-- An integer is a port if it is within the bounds. -/
theorem parse_int_iff {n m : Int} : parse (.int n) = .ok m ↔ m = n ∧ 0 ≤ n ∧ n ≤ 65535 := by
  constructor
  · intro h
    obtain ⟨text, htext, k, hk, -, hle, rfl⟩ := parse_eq_port_iff.mp h
    obtain rfl := display_int htext
    cases n with
    | ofNat j =>
      rw [Int.ofNat_eq_natCast, stripped_toString] at hk
      have hvalue : k = j := hk.value.symm.trans (digits_toDigits j).value
      rw [Int.ofNat_eq_natCast]
      omega
    | negSucc j =>
      -- the sign is no digit
      refine absurd h (parse_ne_ok htext ⟨'-', ?_, by decide, by decide⟩ _)
      rw [toList_toString_negSucc]
      exact List.mem_cons_self
  · rintro ⟨rfl, hlower, hupper⟩
    obtain ⟨k, rfl⟩ := Int.eq_ofNat_of_zero_le hlower
    have hlength : (Nat.toDigits 10 k).length ≤ Numeral.digitLimit :=
      (length_toDigits_le (by omega)).trans (by decide)
    have hdisplay : (Value.int k).display = .ok (toString (k : Int)) :=
      (Value.display_int k).trans (if_neg (Nat.not_lt.mpr hlength))
    refine parse_eq_port_iff.mpr ⟨toString (k : Int), hdisplay, k, ?_⟩
    rw [stripped_toString]
    exact ⟨digits_toDigits k, hlength, by omega, rfl⟩

/-! ## The two readings of values -/

/-- Digits are laid out with a point or with an exponent. -/
theorem mem_layOut (ds : List Char) (d : Int) :
    '.' ∈ Binary64.layOut ds d ∨ 'e' ∈ Binary64.layOut ds d := by
  unfold Binary64.layOut
  split
  · left
    split
    · simp
    · split <;> simp
  · right
    simp

/-- The text of a number that may have a fraction is no decimal. -/
theorem exists_mem_text (x : Binary64) :
    ∃ c ∈ x.text.toList, c.isDigit = false ∧ isBlank c = false := by
  cases x with
  | nan => exact ⟨'n', by decide, by decide, by decide⟩
  | infinite negative => cases negative <;> exact ⟨'n', by decide, by decide, by decide⟩
  | finite negative m e =>
    have hbody : ∀ body : List Char, '.' ∈ body ∨ 'e' ∈ body →
        ∃ c ∈ (String.ofList (if negative then '-' :: body else body)).toList,
          c.isDigit = false ∧ isBlank c = false := by
      intro body h
      rw [String.toList_ofList]
      rcases h with h | h
      · exact ⟨'.', by split <;> simp [h], by decide, by decide⟩
      · exact ⟨'e', by split <;> simp [h], by decide, by decide⟩
    refine hbody _ ?_
    split
    · exact Or.inl (by decide)
    · exact mem_layOut _ _

/-- What is neither an integer nor a text has a text that is no decimal. -/
theorem exists_mem_display {v : Value} (scalar : v.isKey = true) (hint : ∀ n, v ≠ .int n)
    (htext : ∀ s, v ≠ .text s) : ∃ text, v.display = .ok text ∧
      ∃ c ∈ text.toList, c.isDigit = false ∧ isBlank c = false := by
  cases v with
  | null => exact ⟨_, rfl, 'N', by decide, by decide, by decide⟩
  | flag b => cases b <;> exact ⟨_, rfl, 'e', by decide, by decide, by decide⟩
  | int n => exact absurd rfl (hint n)
  | float x => exact ⟨_, rfl, exists_mem_text x⟩
  | text s => exact absurd rfl (htext s)
  | bytes bs =>
    have hmem : 'b' ∈ (Value.spelled (.bytes bs)).toList := by
      simp [Value.spelled, Value.spelledIn, quotedBytes]
    exact ⟨_, rfl, 'b', hmem, by decide, by decide⟩
  | date d => exact ⟨_, rfl, '-', by simp [Value.spelled, Date.text], by decide, by decide⟩
  | moment m =>
    have hmem : '-' ∈ (Value.spelled (.moment m)).toList := by
      simp [Value.spelled, Moment.text, Date.text]
    exact ⟨_, rfl, '-', hmem, by decide, by decide⟩
  | list _ | pair _ _ | set _ | mapping _ | shared _ _ => cases scalar

/-- **As it is given, a scalar value is the port that it plainly stands for.** -/
theorem parse_eq_ok_iff_plain {v : Value} (scalar : v.isKey = true) {n : Int} :
    parse v = .ok n ↔ Plain v n := by
  constructor
  · intro h
    by_cases hint : ∃ m, v = .int m
    · obtain ⟨m, rfl⟩ := hint
      obtain ⟨rfl, port⟩ := parse_int_iff.mp h
      exact .int port
    · by_cases htext : ∃ s, v = .text s
      · obtain ⟨s, rfl⟩ := htext
        obtain ⟨_, ⟨⟩, k, hk, short, port, rfl⟩ := parse_eq_port_iff.mp h
        exact .text hk short port
      · -- all other values have a letter, a point or a dash in their text
        obtain ⟨text, hdisplay, hmem⟩ := exists_mem_display scalar
          (fun m hm => hint ⟨m, hm⟩) (fun s hs => htext ⟨s, hs⟩)
        exact absurd h (parse_ne_ok hdisplay hmem n)
  · intro h
    cases h with
    | int port => exact parse_int_iff.mpr ⟨rfl, port⟩
    | text hk short port => exact parse_eq_port_iff.mpr ⟨_, rfl, _, hk, short, port, rfl⟩

/-- A value is taken as an integer if it stands for one and is no truth value. -/
theorem int_eq_ok_iff (k : Setting) {v : Value} {m : Int} :
    k.int v = .ok m ↔ (∀ b, v ≠ .flag b) ∧ v.toInt = .ok m := by
  by_cases hflag : ∃ b, v = .flag b
  · obtain ⟨b, rfl⟩ := hflag
    exact ⟨nofun, fun h => absurd rfl (h.1 b)⟩
  · have hflag' : ∀ b, v ≠ .flag b := fun b hb => hflag ⟨b, hb⟩
    rw [Setting.int_eq k hflag', and_iff_right hflag']
    cases v.toInt with
    | ok n => simp
    | error fault =>
      -- a fault is shown with the text of the value, if it has one
      cases fault <;> cases v.said <;> simp [bind, Except.bind]

/-- **In a policy file, a scalar value is the port that it is taken for.** -/
theorem taken_iff (k : Setting) {v : Value} (scalar : v.isKey = true) {n : Int} :
    (∃ m, k.int v = .ok m ∧ parse (.int m) = .ok n) ↔ Taken v n := by
  constructor
  · rintro ⟨m, hint, hparse⟩
    obtain ⟨rfl, port⟩ := parse_int_iff.mp hparse
    obtain ⟨hflag, hint⟩ := (int_eq_ok_iff k).mp hint
    cases v with
    | flag b => exact absurd rfl (hflag b)
    | int j =>
      cases hint
      exact .int port
    | float x =>
      cases x with
      | finite negative m e =>
        cases hint
        exact .float rfl port
      | infinite _ | nan => cases hint
    | text s => exact .text (Numeral.read_eq_ok_iff.mp (of_mapError_ok hint)) port
    | bytes bs =>
      obtain ⟨ascii, hwrites⟩ := Numeral.readBytes_eq_ok_iff.mp (of_mapError_ok hint)
      exact .bytes ascii hwrites port
    | null | date _ | moment _ => cases hint
    | list _ | pair _ _ | set _ | mapping _ | shared _ _ => cases scalar
  · intro h
    refine ⟨n, (int_eq_ok_iff k).mpr ?_, ?_⟩
    · cases h with
      | int port => exact ⟨nofun, rfl⟩
      | @float x n cut port =>
        refine ⟨nofun, ?_⟩
        cases x with
        | finite negative m e => exact congrArg Except.ok (Option.some.inj cut)
        | infinite _ | nan => cases cut
      | text hs port =>
        refine ⟨nofun, ?_⟩
        rw [Value.toInt, Numeral.read_eq_ok_iff.mpr hs]
        rfl
      | bytes ascii hs port =>
        refine ⟨nofun, ?_⟩
        rw [Value.toInt, Numeral.readBytes_eq_ok_iff.mpr ⟨ascii, hs⟩]
        rfl
    · cases h with
      | int port => exact parse_int_iff.mpr ⟨rfl, port⟩
      | float _ port => exact parse_int_iff.mpr ⟨rfl, port⟩
      | text _ port => exact parse_int_iff.mpr ⟨rfl, port⟩
      | bytes _ _ port => exact parse_int_iff.mpr ⟨rfl, port⟩

end Port

/-! ## An entry among others -/

namespace Settings

theorem get?_append (s t : Settings) (k : Setting) :
    (s ++ t).get? k = (s.get? k).or (t.get? k) := List.lookup_append

/-- Entries that do not denote the setting give it no value. -/
theorem get?_found_reverse {es : List (Value × Value)} {k : Setting}
    (sound : ∀ e ∈ es, fault? e = none) (silent : ∀ e ∈ es, ¬ k.Denotes e.1) :
    get? (es.filterMap found?).reverse k = none := by
  have hgive := entriesGive_reverse sound k
  generalize get? (es.filterMap found?).reverse k = found at hgive
  cases hgive with
  | nothing => rfl
  | last entries denotes => exact absurd denotes (silent _ (entries ▸ by simp))

variable {pre post : List (Value × Value)} {key v : Value} {k : Setting} {s : Settings}

/-- What an entry gives that denotes a setting. -/
theorem entry_of_denotes (denotes : k.Denotes key) :
    entry (key, v) = k.coerce v >>= fun w => .ok (some (k, w)) := by
  rw [entry_of_named (Setting.named?_eq_some_iff.mpr denotes)]
  rfl

/-- **One more entry is taken as the value of its setting**, if it is the last that denotes this. -/
theorem taken_insert (denotes : k.Denotes key) (last : ∀ e ∈ post, ¬ k.Denotes e.1)
    (others : taken [] (pre ++ post) = .ok s) {w : Value} (coerced : k.coerce v = .ok w) :
    ∃ t, taken [] (pre ++ (key, v) :: post) = .ok t ∧ ∀ k', t.get? k' = (s.set k w).get? k' := by
  obtain ⟨hsound, rfl⟩ := of_taken others
  obtain ⟨hpre, hpost⟩ := List.forall_mem_append.mp hsound
  have hentry : entry (key, v) = .ok (some (k, w)) := by
    rw [entry_of_denotes denotes, coerced]
    rfl
  have hfault : fault? (key, v) = none := by rw [fault?, hentry]
  have hfound : found? (key, v) = some (k, w) := by rw [found?, hentry]
  have hsound' : ∀ e ∈ pre ++ (key, v) :: post, fault? e = none :=
    List.forall_mem_append.mpr ⟨hpre, List.forall_mem_cons.mpr ⟨hfault, hpost⟩⟩
  refine ⟨_, by rw [taken, List.findSome?_eq_none_iff.mpr hsound'], fun k' => ?_⟩
  -- read from the end, the settings are those of the later entries, of this one and of the others
  rw [get?_set, get?_update_reverse, get?_update_reverse, List.filterMap_append,
    List.filterMap_append, List.filterMap_cons_some hfound, List.reverse_append,
    List.reverse_append, List.reverse_cons, get?_append, get?_append, get?_append, get?_cons]
  split
  next h =>
    rw [h, get?_found_reverse hpost last]
    rfl
  next =>
    rw [show get? [] k' = none from rfl]
    simp only [Option.or_none]

/-- If its value is at fault, nothing is taken. -/
theorem taken_insert_error (denotes : k.Denotes key) {f : Failure}
    (coerced : k.coerce v = .error f) (t : Settings) :
    taken [] (pre ++ (key, v) :: post) ≠ .ok t := by
  intro htaken
  have hsound := (of_taken htaken).1 (key, v) (by simp)
  rw [fault?, entry_of_denotes denotes, coerced] at hsound
  cases hsound

end Settings

/-! ## Policies on both routes -/

/-- The setting for the port of the proxy. -/
def Direction.portSetting : Direction → Setting
  | inbound => .incomingProxyPort
  | outbound => .outgoingProxyPort

/-- The port of the proxy for the direction. -/
def Direction.port (p : Policy) : Direction → Int
  | inbound => p.inboundPort
  | outbound => p.outboundPort

namespace Policy

open Port (Taken Plain Apart)

/-- Settings give a policy whose port for the direction is the given one. -/
def Yields (s : Logged Failure Settings) (six : Bool) (d : Direction) (n : Int) : Prop :=
  ∃ p, (s >>= fun s => build s six).Gives p ∧ d.port p = n

section Yields

variable {s : Settings} {six : Bool} {d : Direction} {n : Int}

theorem proxyPort_set_iff {k : Setting} {w : Value} :
    proxyPort (s.set k w) k = .ok n ↔ Port.parse w = .ok n := by
  rw [proxyPort, Settings.getD, Settings.get?_set, if_pos rfl, Option.getD_some]
  rcases Port.parse w with (r | f) | m <;> simp

/-- The port of a policy for a direction comes from its setting. -/
theorem Built.port {p : Policy} (h : Built s six p) (d : Direction) :
    proxyPort s d.portSetting = .ok (d.port p) := by
  cases d with
  | inbound => exact h.inboundPort
  | outbound => exact h.outboundPort

/-- With everything else valid, a policy gets the port that the value is as it is given. -/
theorem yields_set_iff (valid : ∃ p, (build (s.set d.portSetting (.int 0)) six).Gives p)
    (w : Value) : Yields (pure (s.set d.portSetting w)) six d n ↔ Port.parse w = .ok n := by
  rw [Yields, pure_bind]
  constructor
  · rintro ⟨p, hp, rfl⟩
    exact proxyPort_set_iff.mp ((built_of_gives hp).port d)
  · intro hparse
    obtain ⟨p₀, hp₀⟩ := valid
    have same : SameBut [d.portSetting] (s.set d.portSetting w) (s.set d.portSetting (.int 0)) :=
      (sameBut_set s _ w).trans (sameBut_set s _ (.int 0)).symm
    -- both ports are valid, that of the direction and the other one
    have hport (k : Setting) : Logged.EndsAlike (fun _ _ => True)
        (proxyPort (s.set d.portSetting w) k) (proxyPort (s.set d.portSetting (.int 0)) k) := by
      by_cases hk : k = d.portSetting
      · rw [hk, proxyPort_set_iff.mpr hparse, (built_of_gives hp₀).port d]
        exact .ok trivial
      · rw [same.proxyPort fun h => hk (List.mem_singleton.mp h)]
        exact (Logged.EndsAlike.refl _).mono fun _ _ _ => trivial
    have hbinaries : Logged.EndsAlike (fun a b => a = b) (binaries (s.set d.portSetting w) six)
        (binaries (s.set d.portSetting (.int 0)) six) := by
      rw [same.binaries (by cases d <;> decide)]
      exact .refl _
    have halike := alike_build_of_checked (same.mono (by cases d <;> decide)) (hport _) (hport _)
      hbinaries
    obtain ⟨p, hp, -⟩ := halike.gives hp₀
    have hset := (built_of_gives hp).port d
    rw [proxyPort_set_iff.mpr hparse] at hset
    exact ⟨p, hp, (Except.ok.inj hset).symm⟩

end Yields

variable {d : Direction} {key v : Value} {pre post : List (Value × Value)} {s : Settings}
  {six : Bool}

theorem computes_coerce (es : List (Value × Value)) :
    (Settings.coerce id es).Computes (Settings.taken [] es) := by
  have h := Settings.computes_coerceOnto id [] es
  rwa [show es.map (fun e => (e.1, id e.2)) = es from List.map_id es] at h

/-- A policy file gives a policy the port that its value is taken for. -/
theorem yields_coerce_iff (denotes : d.portSetting.Denotes key)
    (last : ∀ e ∈ post, ¬ d.portSetting.Denotes e.1)
    (others : (Settings.coerce id (pre ++ post)).Gives s) (scalar : v.isKey = true)
    (valid : ∃ p, (build (s.set d.portSetting (.int 0)) six).Gives p) (n : Int) :
    Yields (Settings.coerce id (pre ++ (key, v) :: post)) six d n ↔ Taken v n := by
  have hothers := (computes_coerce _).gives_iff.mp others
  have hcoerce : d.portSetting.coerce v = (d.portSetting.int v).map .int := by cases d <;> rfl
  rw [← Port.taken_iff d.portSetting scalar]
  constructor
  · rintro ⟨p, hp, rfl⟩
    obtain ⟨t, ht, hp⟩ := hp.of_bind
    have htaken := (computes_coerce _).gives_iff.mp ht
    cases hv : d.portSetting.int v with
    | error f =>
      -- the whole file is rejected with its entry
      have hfault : d.portSetting.coerce v = .error f := by rw [hcoerce, hv]; rfl
      exact absurd htaken (Settings.taken_insert_error denotes hfault t)
    | ok m =>
      have hvalue : d.portSetting.coerce v = .ok (.int m) := by rw [hcoerce, hv]; rfl
      obtain ⟨t', ht', hget⟩ := Settings.taken_insert denotes last hothers hvalue
      cases htaken.symm.trans ht'
      rw [build_congr hget six] at hp
      refine ⟨m, rfl, (yields_set_iff valid (.int m)).mp ⟨p, ?_, rfl⟩⟩
      rwa [pure_bind]
  · rintro ⟨m, hv, hparse⟩
    have hvalue : d.portSetting.coerce v = .ok (.int m) := by rw [hcoerce, hv]; rfl
    obtain ⟨t, ht, hget⟩ := Settings.taken_insert denotes last hothers hvalue
    obtain ⟨p, hp, hport⟩ := (yields_set_iff valid (.int m)).mpr hparse
    rw [pure_bind, ← build_congr hget six] at hp
    exact ⟨p, ((computes_coerce _).gives_iff.mpr ht).bind hp (alike_build_self t six), hport⟩

/-- **A port means the same in a policy file and as it is given, unless the value is one of those
for which the two routes part.** With everything else equal and valid, a policy file gives a policy
the port that its value is taken for, and the value as it is gives a policy the port that it plainly
is. The two are the same for every value but one that has to be cut off, one that is a port in
another spelling than its decimal, a decimal with an information separator around it, and the bytes
of a text that writes a port. -/
theorem routes_agree_iff (denotes : d.portSetting.Denotes key)
    (last : ∀ e ∈ post, ¬ d.portSetting.Denotes e.1)
    (others : (Settings.coerce id (pre ++ post)).Gives s) (scalar : v.isKey = true)
    (valid : ∃ p, (build (s.set d.portSetting (.int 0)) six).Gives p) :
    (∀ n, Yields (Settings.coerce id (pre ++ (key, v) :: post)) six d n ↔ Taken v n) ∧
    (∀ n, Yields (pure (s.set d.portSetting v)) six d n ↔ Plain v n) ∧
    ((∀ n, Yields (Settings.coerce id (pre ++ (key, v) :: post)) six d n ↔
        Yields (pure (s.set d.portSetting v)) six d n) ↔ ¬ Apart v) := by
  have hfile := yields_coerce_iff denotes last others scalar valid
  have hgiven (n : Int) : Yields (pure (s.set d.portSetting v)) six d n ↔ Plain v n :=
    (yields_set_iff valid v).trans (Port.parse_eq_ok_iff_plain scalar)
  refine ⟨hfile, hgiven, ?_⟩
  rw [← Port.taken_iff_plain]
  simp only [hfile, hgiven]

/-- The port of the proxy for outbound connections, and nothing else. -/
def outboundOnly : Settings := [(.outgoingProxyPort, .int 4140)]

/-- A policy file with the port for inbound connections that is given, and with `outboundOnly`. -/
def withInbound (v : Value) : List (Value × Value) :=
  [(.text "incoming_proxy_port", v), (.text "outgoing-proxy-port", .int 4140)]

theorem routes_agree_iff_signed :
    Setting.incomingProxyPort.Denotes (.text "incoming_proxy_port") ∧
    (∀ n, Yields (Settings.coerce id (withInbound (.text "+4143"))) false .inbound n ↔ n = 4143) ∧
    ∀ n, ¬ Yields (pure (outboundOnly.set .incomingProxyPort (.text "+4143"))) false
      .inbound n := by
  have denotes : Setting.incomingProxyPort.Denotes (.text "incoming_proxy_port") :=
    ⟨_, rfl, by decide⟩
  have hother : Setting.outgoingProxyPort.Denotes (.text "outgoing-proxy-port") :=
    ⟨_, rfl, by decide⟩
  have last : ∀ e ∈ [((.text "outgoing-proxy-port", .int 4140) : Value × Value)],
      ¬ Setting.incomingProxyPort.Denotes e.1 := by
    intro e he hdenotes
    cases List.mem_singleton.mp he
    cases hdenotes.unique hother
  have others : (Settings.coerce id ([] ++ [(.text "outgoing-proxy-port", .int 4140)])).Gives
      outboundOnly := ⟨#[], _, rfl⟩
  have valid : ∃ p, (build (outboundOnly.set .incomingProxyPort (.int 0)) false).Gives p :=
    ⟨_, #[], _, rfl⟩
  obtain ⟨hfile, hgiven, -⟩ := routes_agree_iff (d := .inbound) (v := .text "+4143") denotes last
    others rfl valid
  have hread : Numeral.read 10 "+4143" = .ok 4143 := by decide
  refine ⟨denotes, fun n => (hfile n).trans ⟨fun h => ?_, ?_⟩, fun n h => ?_⟩
  · cases h with
    | text hwrites => exact Except.ok.inj ((Numeral.read_eq_ok_iff.mpr hwrites).symm.trans hread)
  · rintro rfl
    exact .text (Numeral.read_eq_ok_iff.mp hread) (by decide)
  · cases (hgiven n).mp h with
    | text hdigits => exact absurd (hdigits.isDigit '+' (by decide)) (by decide)

/-- The number 4143.5. -/
def fractional : Value := .float (.finite false (8287 * 2 ^ 39) (-40))

/-- A number with a fraction is cut off to a port in a policy file. As it is given it is none. -/
theorem routes_part :
    fractional.display = .ok "4143.5" ∧
    Yields (Settings.coerce id (withInbound fractional)) false .inbound 4143 ∧
    ∀ n, ¬ Yields (pure (outboundOnly.set .incomingProxyPort fractional)) false .inbound n := by
  refine ⟨by decide +kernel, ⟨_, ⟨#[], _, rfl⟩, rfl⟩, ?_⟩
  rintro n ⟨p, hp, -⟩
  rw [pure_bind] at hp
  have hport := proxyPort_set_iff.mp ((built_of_gives hp).port .inbound)
  cases (Port.parse_eq_ok_iff_plain rfl).mp hport

end Policy

end PodRedirect
