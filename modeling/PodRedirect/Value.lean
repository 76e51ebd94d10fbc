import PodRedirect.Binary64.Text
import PodRedirect.Calendar

/-!
# Untyped values

What a policy file or a caller may give for an option before its kind is checked. A value has a
text of its own, and a quoted form for when it stands inside a list or a mapping. An integer that is
too long to be written has neither, and no list or mapping with it inside has one.

A list or mapping may stand in several places, even inside itself. It then carries a label, and its
text leaves out the places where it comes up again inside itself. Where lists and mappings are nested
too deep, there is no text either.

## Main definitions

* `Value`: absent, truth value, number, text, bytes, date, list, pair, set or mapping
* `Value.spelled`, `Value.fault?`: the text of a value in full, and why it cannot be written
* `Value.display`: the text of a value, if it can be written
* `Value.isTruthy`: neither absent nor false, zero or empty
* `Value.items?`: the members of a value that has any
* `Value.sameKey`: equality as keys of a mapping
* `Value.toInt`: the integer nearest to zero that a value stands for
-/

namespace PodRedirect

/-- A value whose kind is not known beforehand. A mapping keeps the order in which its keys came, and
a set that of its members. What has a label, which may be a list, a set or a mapping, is the same in
all places that have this label. -/
inductive Value where
  | null
  | flag (b : Bool)
  | int (n : Int)
  | float (x : Binary64)
  | text (s : String)
  | bytes (bs : List UInt8)
  | date (d : Date)
  | moment (m : Moment)
  | list (items : List Value)
  | pair (first second : Value)
  | set (items : List Value)
  | mapping (entries : List (Value × Value))
  | shared (label : Nat) (v : Value)
  deriving Inhabited, Repr

namespace Value

/-- The text of a truth value. -/
def flagText (b : Bool) : String := if b then "True" else "False"

/-- What stands for a list, a set or a mapping inside itself. -/
def ellipsis : Value → String
  | list _ => "[...]"
  | set _ => "set(...)"
  | mapping _ => "\x7b...\x7d"
  | shared _ v => v.ellipsis
  | _ => "..."

/-- The members of a list between brackets. -/
def listText (items : List String) : String := "[" ++ ", ".intercalate items ++ "]"

/-- The members of a set, or the entries of a mapping, between braces. -/
def bracedText (members : List String) : String := "\x7b" ++ ", ".intercalate members ++ "\x7d"

/-- The members of a set. Without any it is not written as a mapping would be. -/
def setText (items : List String) : String :=
  if items.isEmpty then "set()" else bracedText items

mutual

/-- A value as it is written inside the lists and mappings with the given labels. -/
def spelledIn (outer : List Nat) : Value → String
  | null => "None"
  | flag b => flagText b
  | int n => toString n
  | float x => x.text
  | text s => Text.quoted s
  | bytes bs => Text.quotedBytes bs
  | date d => d.quoted
  | moment m => m.quoted
  | list items => listText (spelledItems outer items)
  | pair first second => "(" ++ spelledIn outer first ++ ", " ++ spelledIn outer second ++ ")"
  | set items => setText (spelledItems outer items)
  | mapping entries => bracedText (spelledEntries outer entries)
  | shared label v =>
    if outer.contains label then v.ellipsis else spelledIn (label :: outer) v

/-- The members of a list or a set, each as it is written inside it. -/
def spelledItems (outer : List Nat) : List Value → List String
  | [] => []
  | v :: vs => spelledIn outer v :: spelledItems outer vs

/-- The entries of a mapping, each as it is written inside it. -/
def spelledEntries (outer : List Nat) : List (Value × Value) → List String
  | [] => []
  | (k, v) :: rest =>
    (spelledIn outer k ++ ": " ++ spelledIn outer v) :: spelledEntries outer rest

end

/-- The text of a value in full: a text stands for itself, dates are in figures, and all else is
written as inside a list. -/
def spelled : Value → String
  | text s => s
  | date d => d.text
  | moment m => m.text " "
  | v => v.spelledIn []

mutual

/-- Why a value cannot be written inside the lists and mappings with the given labels, where so many
calls are nested inside each other: the first reason in it, if there is any. -/
def faultIn (outer : List Nat) (depth : Nat) (v : Value) : Option Numeral.Fault :=
  if Numeral.callLimit ≤ depth then some .tooDeep
  else
    match v with
    | null => none
    | flag _ => none
    | int n =>
      match Numeral.write n with
      | .error f => some f
      | .ok _ => none
    | float _ => none
    | text _ => none
    | bytes _ => none
    | date _ => none
    | moment _ => none
    | list items => faultInItems outer (depth + 1) items
    | pair first second => (faultIn outer (depth + 1) first).or (faultIn outer (depth + 1) second)
    | set items => faultInItems outer (depth + 1) items
    | mapping entries => faultInEntries outer (depth + 1) entries
    | shared label v => if outer.contains label then none else faultIn (label :: outer) depth v

/-- Why one of the members cannot be written. -/
def faultInItems (outer : List Nat) (depth : Nat) : List Value → Option Numeral.Fault
  | [] => none
  | v :: vs => (faultIn outer depth v).or (faultInItems outer depth vs)

/-- Why a key or the value of one cannot be written. -/
def faultInEntries (outer : List Nat) (depth : Nat) :
    List (Value × Value) → Option Numeral.Fault
  | [] => none
  | (k, v) :: rest =>
    ((faultIn outer depth k).or (faultIn outer depth v)).or (faultInEntries outer depth rest)

end

/-- Why a value cannot be written, if it cannot. -/
def fault? (v : Value) : Option Numeral.Fault := v.faultIn [] 0

/-- A text that shows a value, if the value can be written. -/
def written (v : Value) (text : String) : Except Numeral.Fault String :=
  match v.fault? with
  | some f => .error f
  | none => .ok text

/-- A value as it is written inside a list or a mapping without a label, if it can be. -/
def quoted (v : Value) : Except Numeral.Fault String := v.written (v.spelledIn [])

/-- The text of a value, if it can be written. -/
def display (v : Value) : Except Numeral.Fault String := v.written v.spelled

/-- The value without its labels. -/
def content : Value → Value
  | shared _ v => v.content
  | v => v

/-- The name of a value's kind. -/
def kind : Value → String
  | null => "NoneType"
  | flag _ => "bool"
  | int _ => "int"
  | float _ => "float"
  | text _ => "str"
  | bytes _ => "bytes"
  | date _ => "date"
  | moment _ => "datetime"
  | list _ => "list"
  | pair _ _ => "tuple"
  | set _ => "set"
  | mapping _ => "dict"
  | shared _ v => v.kind

/-- A value that counts as given: neither absent nor false, zero or empty. -/
def isTruthy : Value → Bool
  | null => false
  | flag b => b
  | int n => n ≠ 0
  | float x => !x.isZero
  | text s => !s.isEmpty
  | bytes bs => !bs.isEmpty
  | date _ => true
  | moment _ => true
  | list items => !items.isEmpty
  | pair _ _ => true
  | set items => !items.isEmpty
  | mapping entries => !entries.isEmpty
  | shared _ v => v.isTruthy

/-- The members of a value that has any: of a list, a pair or a set its members, of a text its
characters, of bytes their numbers, of a mapping its keys. -/
def items? : Value → Option (List Value)
  | list items => some items
  | pair first second => some [first, second]
  | set items => some items
  | text s => some (s.toList.map fun c => text (String.ofList [c]))
  | bytes bs => some (bs.map fun b => int b.toNat)
  | mapping entries => some (entries.map Prod.fst)
  | shared _ v => v.items?
  | _ => none

/-- A single value. In a document only these are keys of a mapping. -/
def isKey : Value → Bool
  | list _ => false
  | pair _ _ => false
  | set _ => false
  | mapping _ => false
  | shared _ _ => false
  | _ => true

/-- The finite number that a truth value or a number stands for, as a quotient. -/
def ratio? : Value → Option (Int × Nat)
  | flag b => some (if b then 1 else 0, 1)
  | int n => some (n, 1)
  | float x => x.ratio?
  | _ => none

/-- The two values are the same key of a mapping. Numbers and truth values are compared by their
size, moments by their instant. -/
def sameKey : Value → Value → Bool
  | null, null => true
  | text a, text b => a == b
  | bytes a, bytes b => a == b
  | date a, date b => a == b
  | moment a, moment b => a.same b
  | float (.infinite a), float (.infinite b) => a == b
  | float .nan, float .nan => true
  | a, b =>
    match a.ratio?, b.ratio? with
    | some (n, d), some (m, e) => n * e == m * d
    | _, _ => false

/-- The entries with the value of key `k` set to `v`: in the place and with the spelling of the
equal key if there is one, at the end otherwise. -/
def upsert (k v : Value) : List (Value × Value) → List (Value × Value)
  | [] => [(k, v)]
  | (k', v') :: rest => if sameKey k' k then (k', v) :: rest else (k', v') :: upsert k v rest

/-- Why a value stands for no integer. -/
inductive IntFault where
  | wrongKind
  | notANumber
  | infinite
  | numeral (fault : Numeral.Fault)
  deriving DecidableEq, Repr

/-- The integer that a value stands for: a number is cut off at the point, a text and bytes are read
as a decimal. -/
def toInt : Value → Except IntFault Int
  | flag b => .ok (if b then 1 else 0)
  | int n => .ok n
  | float .nan => .error .notANumber
  | float (.infinite _) => .error .infinite
  | float x => .ok (x.truncate?.getD 0)
  | text s => (Numeral.read 10 s).mapError .numeral
  | bytes bs => (Numeral.readBytes bs).mapError .numeral
  | _ => .error .wrongKind

end Value

end PodRedirect
