import PodRedirect.Failure
import PodRedirect.Log

/-!
# Settings from untyped values

The entries of a policy file become settings of their kinds. In the name of a setting an underscore
counts as a dash. Entries that name no setting are passed over with a warning, and so are those whose
key has no text; these warnings have no message then.

## Main definitions

* `Setting.pieces`, `Setting.entries`: a text with commas, or a list, as a list of texts
* `Setting.coerce`: a value as one of the kind of a setting
* `Setting.named?`: the setting that a key names
* `Settings.coerce`: the settings that entries give
-/

namespace PodRedirect

open Text

namespace Setting

/-- The parts without white space around them, and without those that are empty then. -/
def tidied (parts : List String) : List String :=
  (parts.map strip).filter fun s => !s.isEmpty

/-- The parts of a text between commas. -/
def pieces (s : String) : List String := tidied (fields ',' s)

/-- The parts of a list setting: members of a list or of a pair, or pieces of a text. -/
def entries (v : Value) : Except Numeral.Fault (List String) :=
  match v.content with
  | .null => .ok []
  | .list items => tidied <$> items.mapM Value.display
  | .pair first second => tidied <$> [first, second].mapM Value.display
  | _ => pieces <$> v.display

/-- The words for truth values, with the empty one among those for false. -/
def flagWords : List (String × Bool) :=
  [("1", true), ("true", true), ("yes", true), ("on", true), ("0", false), ("false", false),
    ("no", false), ("off", false), ("", false)]

/-- A truth value, or a word for one. -/
def flag (key : Setting) (v : Value) : Except Failure Bool :=
  match v with
  | .flag b => .ok b
  | v => do
    let text ← v.said
    match flagWords.lookup (lower (strip text)) with
    | some b => return b
    | none => throw (.rejected (.noFlag key text))

/-- A number or the text of one, but no truth value. -/
def int (key : Setting) (v : Value) : Except Failure Int := do
  let found : Except Value.IntFault Int := match v with
    | .flag _ => .error .wrongKind
    | v => v.toInt
  match found with
  | .ok n => return n
  | .error .infinite => throw (.mishap .infinite)
  | .error _ => throw (.rejected (.noInteger key (← v.said)))

/-- A value as one of the kind of the setting. -/
def coerce (key : Setting) (v : Value) : Except Failure Value :=
  match key.kind with
  | .list => (entries v |>.mapError Failure.ofNumeral).map fun ss => .list (ss.map .text)
  | .flag => (flag key v).map .flag
  | .int => (int key v).map .int
  | .text =>
    match v with
    | .null => .ok (.text "")
    | v => v.said.map .text

/-- The setting that the text of a key names. -/
def ofKey? (key : String) : Option Setting := ofName? (replace '_' '-' key)

/-- The setting that a key names. One that cannot be written names none. -/
def named? (key : Value) : Option Setting :=
  match key.display with
  | .ok text => ofKey? text
  | .error _ => none

/-- The message of the warning about a key that names no setting. It cannot be made for a key that
cannot be written. -/
def unknownWarning (key : Value) : Option String :=
  key.display.toOption.map fun text => "Ignoring unknown option in policy file: " ++ text

end Setting

namespace Settings

/-- Adds the settings that entries give to those given before. Of an entry that names no setting the
value is not looked at. -/
def coerceOnto {α : Type} (value : α → Value) (given : Settings) :
    List (Value × α) → Logged Failure Settings
  | [] => return given
  | (key, v) :: rest =>
    match Setting.named? key with
    | none => do
      Logged.note .policyFile .warning (Setting.unknownWarning key)
      coerceOnto value given rest
    | some k => do coerceOnto value (given.set k (← k.coerce (value v))) rest

/-- The settings that entries give, where `value` tells the value of an entry. -/
def coerce {α : Type} (value : α → Value) (data : List (Value × α)) : Logged Failure Settings :=
  coerceOnto value [] data

end Settings

end PodRedirect
