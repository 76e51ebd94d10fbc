import PodRedirect.Yaml.Failure

/-!
# Tokens of a document

What a document consists of when its characters have been put together. Indentation has become
explicit: the start and the end of a block are tokens of their own.

## Main definitions

* `Yaml.Directive`: a line about the document
* `Yaml.Token`: the tokens
* `Yaml.Tokens`: the tokens of a text, up to its end or to a failure
-/

namespace PodRedirect.Yaml

/-- A line about the document that follows it. -/
inductive Directive where
  | version (major : Nat)
  | handle (name meaning : String)
  | other
  deriving DecidableEq, Repr

/-- A token of a document. -/
inductive Token where
  | directive (d : Directive)
  | documentStart
  | documentEnd
  | blockSequenceStart
  | blockMappingStart
  | blockEnd
  | flowSequenceStart
  | flowSequenceEnd
  | flowMappingStart
  | flowMappingEnd
  | blockEntry
  | flowEntry
  | key
  | value
  | alias (name : String)
  | anchor (name : String)
  | tag (handle : Option String) (suffix : String)
  | scalar (text : String) (plain : Bool)
  | streamEnd
  deriving DecidableEq, Repr

/-- What a token is called in a problem. -/
def Token.name : Token → String
  | .directive _ => "<directive>"
  | .documentStart => "<document start>"
  | .documentEnd => "<document end>"
  | .blockSequenceStart => "<block sequence start>"
  | .blockMappingStart => "<block mapping start>"
  | .blockEnd => "<block end>"
  | .flowSequenceStart => "["
  | .flowSequenceEnd => "]"
  | .flowMappingStart => "\x7b"
  | .flowMappingEnd => "\x7d"
  | .blockEntry => "-"
  | .flowEntry => ","
  | .key => "?"
  | .value => ":"
  | .alias _ => "<alias>"
  | .anchor _ => "<anchor>"
  | .tag _ _ => "<tag>"
  | .scalar _ _ => "<scalar>"
  | .streamEnd => "<stream end>"

/-- The tokens of a text, and why there are no more of them if that is not the end of the text. -/
structure Tokens where
  tokens : List Token
  failure : Failure
  deriving Repr

end PodRedirect.Yaml
