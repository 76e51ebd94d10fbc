import PodRedirect.Text.Utf8
import PodRedirect.Yaml.Cursor
import PodRedirect.Yaml.Token

/-!
# Names in a document

Anchors, tags and directives: what names a node, a kind of value, or the document itself.

## Main definitions

* `Yaml.anchorName`: the name after `&` or `*`
* `Yaml.tagName`: the handle and the suffix of a tag
* `Yaml.directive`: a line that starts with a percent sign
-/

namespace PodRedirect.Yaml

open Text

/-- The failure at a place where something else was expected. -/
def unexpected (expected : String) (at_ : Cursor) : Failure :=
  .refused ("expected " ++ expected ++ ", but found " ++ at_.shown)

/-- What a name consists of, in a problem. -/
def nameChars : String := "alphabetic or numeric character"

/-- The name of an anchor or of an alias, after its mark. -/
def anchorName (at_ : Cursor) : Except Failure (String × Cursor) :=
  let (name, after) := at_.next.span isNameChar
  if !name.isEmpty && (isGap after.peek || after.peek.any ("?:,]\x7d%@\x60".toList.contains ·)) then
    .ok (String.ofList name, after)
  else .error (unexpected nameChars after)

/-- The handle of a tag: an exclamation mark, or a name between two of them. -/
def tagHandle (at_ : Cursor) : Except Failure (String × Cursor) :=
  if at_.peek ≠ some '!' then .error (unexpected "'!'" at_)
  else if at_.peekAt 1 = some ' ' then .ok ("!", at_.next)
  else
    let (name, after) := at_.next.span isNameChar
    if after.peek = some '!' then .ok (String.ofList ('!' :: name ++ ['!']), after.next)
    else .error (unexpected "'!'" after)

/-- A character of the suffix of a tag. -/
def isUriChar (c : Char) : Bool :=
  c.isAlphanum || "-;/?:@&=+$,_.!~*'()[]%".toList.contains c

/-- The bytes that numbers behind percent signs at the start of the list stand for. -/
def percentBytes : List Char → Option (List UInt8)
  | '%' :: a :: b :: rest =>
    match hexDigitValue? a, hexDigitValue? b with
    | some m, some n => (percentBytes rest).map (UInt8.ofNat (16 * m + n) :: ·)
    | _, _ => none
  | '%' :: _ => none
  | _ => some []

/-- The characters of a suffix, with the bytes behind percent signs put together. A round takes a
character or a run of such bytes. -/
def uriChars : (fuel : Nat) → List Char → Except Failure (List Char)
  | 0, _ => .ok []
  | _ + 1, [] => .ok []
  | fuel + 1, c :: cs => do
    if c = '%' then
      match percentBytes (c :: cs) with
      | none =>
        throw (.refused "expected URI escape sequence of 2 hexadecimal numbers")
      | some bytes =>
        match Utf8.decode bytes with
        | .error f => throw (.refused f.message)
        | .ok s => return s.toList ++ (← uriChars fuel ((c :: cs).drop (3 * bytes.length)))
    else return c :: (← uriChars fuel cs)

/-- The suffix of a tag, or the meaning of a handle. -/
def uri (at_ : Cursor) : Except Failure (String × Cursor) := do
  let (cs, after) := at_.span isUriChar
  if cs.isEmpty then throw (unexpected "URI" after)
  return (String.ofList (← uriChars (cs.length + 1) cs), after)

/-- A tag: a handle, if it has one, and a suffix. -/
def tagName (at_ : Cursor) : Except Failure (Option String × String × Cursor) := do
  let (handle, suffix, after) ←
    if at_.peekAt 1 = some '<' then do
      let (suffix, after) ← uri (at_.skip 2)
      if after.peek ≠ some '>' then throw (unexpected "'>'" after)
      pure (none, suffix, after.next)
    else if isGap (at_.peekAt 1) then pure (none, "!", at_.next)
    else do
      let (handle, after) ←
        if ((at_.rest.drop 1).takeWhile fun c => !isEndOrBlank (some c)).contains '!' then
          tagHandle at_
        else pure ("!", at_.next)
      let (suffix, after) ← uri after
      pure (some handle, suffix, after)
  if isEndOrBlank after.peek then return (handle, suffix, after) else throw (unexpected "' '" after)

/-- The number in a version. -/
def versionNumber (at_ : Cursor) : Except Failure (Nat × Cursor) :=
  let (ds, after) := at_.span Char.isDigit
  match Numeral.readAscii? ds with
  | none => .error (unexpected "a digit" at_)
  | some (.error f) => .error (.fault (.numeral f))
  | some (.ok n) => .ok (n, after)

/-- The version of the language. -/
def version (at_ : Cursor) : Except Failure (Directive × Cursor) := do
  let (major, after) ← versionNumber at_.skipBlanks
  if after.peek ≠ some '.' then throw (unexpected "a digit or '.'" after)
  let (_, after) ← versionNumber after.next
  if isEndOrBlank after.peek then return (.version major, after)
  else throw (unexpected "a digit or ' '" after)

/-- The meaning of a handle. -/
def handleMeaning (at_ : Cursor) : Except Failure (Directive × Cursor) := do
  let (name, after) ← tagHandle at_.skipBlanks
  if after.peek ≠ some ' ' then throw (unexpected "' '" after)
  let (meaning, after) ← uri after.skipBlanks
  if isEndOrBlank after.peek then return (.handle name meaning, after)
  else throw (unexpected "' '" after)

/-- A directive, and the place after its line. -/
def directive (at_ : Cursor) : Except Failure (Directive × Cursor) := do
  let (name, after) := at_.next.span isNameChar
  if name.isEmpty || !isEndOrBlank after.peek then throw (unexpected nameChars after)
  let (d, after) ←
    if name = "YAML".toList then version after
    else if name = "TAG".toList then handleMeaning after
    else pure (Directive.other, after.skipWhile (!isBreak ·))
  return (d, ← after.restOfLine)

end PodRedirect.Yaml
