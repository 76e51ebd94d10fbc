import PodRedirect.Setting.Coerce
import PodRedirect.Text.Line
import PodRedirect.Yaml.Document

/-!
# The policy file

A file that holds a mapping from names of settings to values, in UTF-8. Every kind of line end is
read as a line feed.

## Main definitions

* `FilePath.tidy`: a path without its needless parts
* `FileContent`: what reading a file gives
* `Settings.loadWith`, `Settings.load`: the settings that a policy file gives, with any reader of
  documents and with `Yaml.read`
-/

namespace PodRedirect

open Text

/-- The path without empty parts and parts that name the directory they are in. Exactly two slashes
at the start are kept apart from a single one. -/
def FilePath.tidy (path : String) : String :=
  let cs := path.toList
  let slashes := (cs.takeWhile (· = '/')).length
  let root := if slashes = 0 then "" else if slashes = 2 then "//" else "/"
  let parts := (fields '/' path).filter fun s => !s.isEmpty && s ≠ "."
  if root.isEmpty && parts.isEmpty then "." else root ++ "/".intercalate parts

/-- What reading a file gives: its bytes, or an error. -/
inductive FileContent where
  | bytes (bs : List UInt8)
  | error (e : FileError)
  deriving Repr

/-- The settings that the policy file with the given path and content gives, where `read` reads the
document in it. -/
def Settings.loadWith (read : String → Except Yaml.Failure Yaml.Document) (path : String)
    (content : FileContent) : Logged Failure Settings := do
  match content with
  | .error e => throw (.rejected (.unreadable path e))
  | .bytes bs =>
    match Utf8.decode bs with
    | .error f => throw (.mishap (.undecodable f))
    | .ok text =>
      match read (String.ofList (unifyEnds text.toList)) with
      | .error (.refused problem) => throw (.rejected (.unparsable path problem))
      | .error (.fault f) => throw (.mishap (.document f))
      | .ok document =>
        if document.isNull then return []
        match document.entries? with
        | none => throw (.rejected (.noMapping path document.kind))
        | some entries =>
          Logged.note .policyFile .debug
            ("Loaded " ++ toString entries.length ++ " option(s) from " ++ path)
          Settings.coerce document.view entries

/-- The settings that the policy file with the given path and content gives. -/
def Settings.load (path : String) (content : FileContent) : Logged Failure Settings :=
  Settings.loadWith Yaml.read path content

end PodRedirect
