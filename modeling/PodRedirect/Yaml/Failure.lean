import PodRedirect.Calendar
import PodRedirect.Numeral

/-!
# Why a document is not read

A document is refused if it breaks the grammar, or if a node is not what its kind asks for. Apart
from that, a node may be of a kind of value and still denote none, and the document may be nested
too deep.

## Main definitions

* `Yaml.Fault`: why a document has no value, and `Yaml.Fault.message`
* `Yaml.Failure`: that, or why the document is refused
-/

namespace PodRedirect.Yaml

/-- Why a document that is not refused has no value: the text of a node is none of its kind, or
`exhausted` tells that calls were nested too deep, which is also so where a search has no end.
For a point in time, `noTime` is for a text that is none, and `noText` for a mapping. -/
inductive Fault where
  | numeral (fault : Numeral.Fault)
  | calendar (fault : CalendarFault)
  | noFloat (text : String)
  | noFlag (word : String)
  | noTime
  | noText
  | empty
  | noCharacter
  | beyondWord
  | tooLarge
  | exhausted
  deriving DecidableEq, Repr

/-- A fault in words. -/
def Fault.message : Fault → String
  | .numeral f => f.message
  | .calendar f => f.message
  | .noFloat s => "could not convert string to float: " ++ Text.quoted s
  | .noFlag w => Text.quoted w
  | .noTime => "'NoneType' object has no attribute 'groupdict'"
  | .noText => "expected string or bytes-like object, got 'list'"
  | .empty => "string index out of range"
  | .noCharacter => "chr() arg not in range(0x110000)"
  | .beyondWord => "Python int too large to convert to C int"
  | .tooLarge => "int too large to convert to float"
  | .exhausted => "maximum recursion depth exceeded"

/-- Why a document is not read: it is refused for the given problem, or it has no value. -/
inductive Failure where
  | refused (problem : String)
  | fault (f : Fault)
  deriving DecidableEq, Repr

end PodRedirect.Yaml
