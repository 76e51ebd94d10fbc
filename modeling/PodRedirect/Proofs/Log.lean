import Mathlib.Data.List.Basic
import PodRedirect.Log.Message
import PodRedirect.Log.Setup
import PodRedirect.Proofs.Decimal
import PodRedirect.Proofs.Instant
import PodRedirect.Proofs.Json

/-!
# Lines of a log

An entry that is written as an object is a line of printable ASCII, and the line is read back to
what was logged, whatever the message, its arguments and the text of an error hold. So each line of
a log is one entry.

## Main results

* `Log.fill_said`: texts are put into a message as they are
* `Log.jsonLine_readBack`: a line is read back to its entry
* `Log.Config.lines_readBack`: a log is read back to its entries
-/

namespace PodRedirect.Log

open Text

/-! ## Messages -/

section Messages

variable {total fuel : Nat} {piece cs filled : List Char} {args : List String}

/-- Characters that start no place stay as they are. -/
theorem fillFrom_append (hpiece : '%' ∉ piece) (h : fillFrom total fuel cs args = .ok filled) :
    fillFrom total (fuel + piece.length) (piece ++ cs) args = .ok (piece ++ filled) := by
  induction piece with
  | nil => exact h
  | cons c piece ih =>
    obtain ⟨hc, hpiece⟩ := List.ne_and_not_mem_of_not_mem_cons hpiece
    have hplace : c ≠ '%' := hc.symm
    rw [List.length_cons, ← Nat.add_assoc, List.cons_append, fillFrom, ih hpiece]
    · rfl
    · exact fun _ h _ => hplace h
    · exact hplace

/-- A place for a text takes it as it is. -/
theorem fillFrom_said (arg : String) (h : fillFrom total fuel cs args = .ok filled) :
    fillFrom total (fuel + 1) ('%' :: 's' :: cs) (arg :: args) = .ok (arg.toList ++ filled) := by
  have hplace : place ('s' :: cs) = .ok (⟨false, none, none, 's'⟩, cs) := rfl
  have harg : ∀ index, Place.argument ⟨false, none, none, 's'⟩ index arg = .ok arg.toList :=
    fun _ => by simp [Place.argument, Place.lay, List.leftpad]
  rw [fillFrom, hplace]
  · simp only [bind, Except.bind, harg, h]
    rfl
  · simp

/-- The rest of a message from a place on. -/
theorem fillFrom_parts {parts : List (String × String)} (h : ∀ p ∈ parts, '%' ∉ p.2.toList)
    (hfuel : (parts.flatMap fun p => "%s".toList ++ p.2.toList).length < fuel) :
    fillFrom total fuel (parts.flatMap fun p => "%s".toList ++ p.2.toList) (parts.map Prod.fst) =
      .ok (parts.flatMap fun p => p.1.toList ++ p.2.toList) := by
  induction parts generalizing fuel with
  | nil =>
    obtain ⟨fuel, rfl⟩ := Nat.exists_eq_add_of_lt hfuel
    rfl
  | cons p parts ih =>
    have hlength : "%s".toList.length = 2 := rfl
    rw [List.flatMap_cons, List.length_append, List.length_append, hlength] at hfuel
    -- the place takes one round, and each of the characters behind it another
    obtain ⟨fuel, rfl⟩ : ∃ n, fuel = n + p.2.toList.length + 1 :=
      ⟨fuel - p.2.toList.length - 1, by omega⟩
    have hrest := ih (fun q hq => h q (List.mem_cons_of_mem p hq)) (by omega : _ < fuel)
    have hpiece := fillFrom_append (h p List.mem_cons_self) hrest
    rw [List.flatMap_cons, List.flatMap_cons, List.append_assoc, List.append_assoc]
    exact fillFrom_said p.1 hpiece

theorem fill_eq_ok {message text : String} (hargs : args ≠ []) (h : fillFrom message.toList.length
    (message.toList.length + 1) message.toList args = .ok text.toList) :
    fill message args = .ok text := by
  have hempty : ¬ args.isEmpty = true := by simpa using hargs
  simp only [fill, formatted, fillAll, if_neg hempty, h, Except.map, String.ofList_toList]

/-- **Texts are put into a message as they are**, also those that look like places. -/
theorem fill_said {first : String} {parts : List (String × String)} (hfirst : '%' ∉ first.toList)
    (hparts : ∀ p ∈ parts, '%' ∉ p.2.toList) :
    fill (first ++ String.join (parts.map fun p => "%s" ++ p.2)) (parts.map Prod.fst) =
      .ok (first ++ String.join (parts.map fun p => p.1 ++ p.2)) := by
  have hchars : ∀ f : String × String → String, (first ++ String.join (parts.map f)).toList =
      first.toList ++ parts.flatMap fun p => (f p).toList := fun f => by
    rw [String.toList_append, String.toList_join, List.flatMap_map]
  rcases eq_or_ne parts [] with rfl | hne
  · rfl
  refine fill_eq_ok (by simpa using hne) ?_
  rw [hchars, hchars, List.length_append, Nat.add_comm, Nat.add_right_comm]
  simp only [String.toList_append]
  exact fillFrom_append hfirst (fillFrom_parts hparts (Nat.lt_succ_self _))

end Messages

/-! ## Lines -/

section Lines

variable {time : Instant} {level source message stamp line : String} {error : Option String}

/-- An entry is written if and only if its time is. -/
theorem jsonLine_eq_ok_iff : jsonLine time level source message error = .ok line ↔
    ∃ stamp, time.isoText = .ok stamp ∧
      line = Json.object ([("time", stamp), ("level", Text.lowercase level), ("logger", source),
        ("msg", message)] ++ (error.map fun e => ("error", e)).toList) := by
  rw [jsonLine]
  cases time.isoText with
  | error f => exact ⟨nofun, fun ⟨_, h, _⟩ => nomatch h⟩
  | ok stamp =>
    constructor
    · exact fun h => ⟨stamp, rfl, (Except.ok.inj h).symm⟩
    · rintro ⟨_, ⟨⟩, rfl⟩
      rfl

/-- The line feed after a line ends it. -/
theorem fields_line_append (hline : '\n' ∉ line.toList) (after : String) :
    fields '\n' (line ++ "\n" ++ after) = line :: fields '\n' after := by
  have hfeed : "\n" = String.singleton '\n' := rfl
  rw [hfeed, fields_append, fields_of_not_mem hline, List.singleton_append]

/-- A line without a line feed is one of the lines of any text that it stands in. -/
theorem fields_line (hline : '\n' ∉ line.toList) (before after : String) :
    fields '\n' (before ++ "\n" ++ line ++ "\n" ++ after) =
      fields '\n' before ++ line :: fields '\n' after := by
  have hafter : before ++ "\n" ++ line ++ "\n" ++ after =
      before ++ String.singleton '\n' ++ (line ++ "\n" ++ after) := by
    simp only [String.append_assoc]
    rfl
  rw [hafter, fields_append, fields_line_append hline]

theorem not_mem_object (members : List (String × String)) :
    '\n' ∉ (Json.object members).toList :=
  fun h => absurd (Json.isPlain_of_mem_object h) (by decide)

end Lines

/-- **A line of the log is read back to what was logged.** The line of an entry is printable ASCII,
it stands for itself among other lines, and it is an object that has the time, the level in small
letters, the source, the message with its arguments and, if there is one, the text of the error, and
nothing else. It exists exactly if the time lies in the years 1 to 9999. The arguments may be of any
kind that is put into messages, and the text of an error is any text. -/
theorem jsonLine_readBack {α ε : Type} {format : String → List α → Except ε String}
    {message text : String} {args : List α} (htext : formatted format message args = .ok text)
    (time : Instant) (level source : String) (error : Option String) :
    ((∃ line, jsonLine time level source text error = .ok line) ↔ time.IsDated) ∧
    (args = [] → text = message) ∧ (args ≠ [] → format message args = .ok text) ∧
    ∀ line, jsonLine time level source text error = .ok line →
      (∀ c ∈ line.toList, Json.isPlain c = true) ∧
      (∃ stamp, time.isoText = .ok stamp ∧
        Json.decode line = some ([("time", stamp), ("level", Text.lowercase level),
          ("logger", source), ("msg", text)] ++
            (error.map fun e => ("error", e)).toList)) ∧
      ∀ before after, fields '\n' (before ++ "\n" ++ line ++ "\n" ++ after) =
        fields '\n' before ++ line :: fields '\n' after := by
  refine ⟨?_, ?_, fun hargs => ?_, fun line hline => ?_⟩
  · simp only [jsonLine_eq_ok_iff, ← Instant.exists_isoText_iff]
    exact ⟨fun ⟨_, stamp, h, _⟩ => ⟨stamp, h⟩, fun ⟨stamp, h⟩ => ⟨_, stamp, h, rfl⟩⟩
  · rintro rfl
    exact (Except.ok.inj htext).symm
  · rwa [formatted, if_neg (by simpa using hargs)] at htext
  · obtain ⟨stamp, hstamp, rfl⟩ := jsonLine_eq_ok_iff.mp hline
    exact ⟨fun _ => Json.isPlain_of_mem_object, ⟨stamp, hstamp, Json.decode_object _⟩,
      fields_line (not_mem_object _)⟩

/-- An argument with a line feed, a quote, a backslash, a control character, a character of two
units, and what looks like a place and like the next member. -/
theorem jsonLine_readBack_forged :
    fill "wrote %s at 100%%" ["%s\n\u0001\\😀\", \"msg\": \""] =
      .ok "wrote %s\n\u0001\\😀\", \"msg\": \" at 100%" ∧
    ∃ line, jsonLine (.finite 1700000000 (Binary64.ofRatio false 1 2)) "WARNING" "proxyinit"
        "wrote %s\n\u0001\\😀\", \"msg\": \" at 100%" (some "ValueError: a\nb") = .ok line ∧
      Json.decode line = some [("time", "2023-11-14T22:13:20.500000+00:00"), ("level", "warning"),
        ("logger", "proxyinit"), ("msg", "wrote %s\n\u0001\\😀\", \"msg\": \" at 100%"),
        ("error", "ValueError: a\nb")] := by
  have hfill : fill "wrote %s at 100%%" ["%s\n\u0001\\😀\", \"msg\": \""] =
      .ok "wrote %s\n\u0001\\😀\", \"msg\": \" at 100%" := by decide +kernel
  obtain ⟨hexists, -, -, hread⟩ := jsonLine_readBack hfill
    (.finite 1700000000 (Binary64.ofRatio false 1 2)) "WARNING" "proxyinit"
    (some "ValueError: a\nb")
  obtain ⟨line, hline⟩ := hexists.mpr (by decide +kernel)
  obtain ⟨-, ⟨stamp, hstamp, hdecode⟩, -⟩ := hread line hline
  have htime : Instant.isoText (.finite 1700000000 (Binary64.ofRatio false 1 2)) =
      .ok "2023-11-14T22:13:20.500000+00:00" := by decide +kernel
  have hlevel : Text.lowercase "WARNING" = "warning" := by decide +kernel
  obtain rfl := Except.ok.inj (hstamp.symm.trans htime)
  rw [hlevel] at hdecode
  exact ⟨hfill, line, hline, hdecode⟩

/-! ## Logs -/

namespace Config

variable {c : Config} {time : Instant} {stamp : String}

/-- What the line for an entry with the given message is read back to. -/
def fieldsOf (stamp : String) (e : Entry) (message : String) : List (String × String) :=
  [("time", stamp), ("level", Text.lowercase e.level.name), ("logger", e.source.name),
    ("msg", message)]

/-- The message of an entry that is written: its level is high enough, and it has a message. -/
def message? (c : Config) (e : Entry) : Option String :=
  if c.level.number ≤ e.level.number then e.message else none

/-- An entry is written if `message?` says so. -/
theorem entryLine_of_json (hformat : c.format = .json) (htime : time.isoText = .ok stamp)
    (e : Entry) : c.entryLine time e =
      (c.message? e).map fun message => Json.object (fieldsOf stamp e message) := by
  rw [entryLine, message?]
  cases e.message with
  | none => split <;> rfl
  | some message =>
    rw [Option.bind_some, line, hformat]
    by_cases hlevel : c.level.number ≤ e.level.number
    · rw [if_neg (Nat.not_lt.mpr hlevel), if_pos hlevel]
      simp only [jsonLine, htime]
      rfl
    · rw [if_pos (Nat.lt_of_not_le hlevel), if_neg hlevel]
      rfl

theorem lines_cons_of_some {e : Entry} {es : List Entry} {text : String}
    (h : c.entryLine time e = some text) :
    c.lines time (e :: es) = text ++ "\n" ++ c.lines time es := by
  rw [lines, List.filterMap_cons_some (by rw [h]; rfl), String.join_cons]
  rfl

theorem lines_cons_of_none {e : Entry} {es : List Entry} (h : c.entryLine time e = none) :
    c.lines time (e :: es) = c.lines time es := by
  rw [lines, List.filterMap_cons_none (by rw [h]; rfl)]
  rfl

/-- **A log is read back to its entries**, line by line. -/
theorem lines_readBack (hformat : c.format = .json) (htime : time.isoText = .ok stamp)
    (entries : List Entry) : ∃ lines, fields '\n' (c.lines time entries) = lines ++ [""] ∧
      lines.map Json.decode = entries.filterMap fun e =>
        (c.message? e).map fun message => some (fieldsOf stamp e message) := by
  induction entries with
  | nil => exact ⟨[], rfl, rfl⟩
  | cons e es ih =>
    obtain ⟨lines, hlines, hdecode⟩ := ih
    have hline := entryLine_of_json (c := c) hformat htime e
    cases hmessage : c.message? e with
    | none =>
      -- nothing is written for the entry
      rw [hmessage] at hline
      rw [List.filterMap_cons_none (by rw [hmessage]; rfl), lines_cons_of_none hline]
      exact ⟨lines, hlines, hdecode⟩
    | some message =>
      rw [hmessage] at hline
      rw [List.filterMap_cons_some (by rw [hmessage]; rfl), ← hdecode, lines_cons_of_some hline,
        fields_line_append (not_mem_object _), hlines]
      exact ⟨_ :: lines, rfl, by rw [List.map_cons, Json.decode_object]⟩

end Config

end PodRedirect.Log
