import PodRedirect.Yaml.Token.Name
import PodRedirect.Yaml.Token.Scalar

/-!
# From characters to tokens

Tokens are found from left to right. Whether a node is the key of a mapping is only known at the
colon behind it, so the place in front of every node where a key could start is remembered until
then: a key ends on its line, within 1024 characters. Outside brackets a deeper column starts a
block, and a column further to the left ends those that started to the right of it.

## Main definitions

* `Yaml.PendingKey`: a node that may turn out to be a key
* `Yaml.Lexer`: the tokens so far and what the next ones depend on
* `Yaml.Lexer.step`: takes the next token
* `Yaml.Tokens.ofText`: the tokens of a text
-/

namespace PodRedirect.Yaml

/-- A node that may turn out to be a key: which token it starts with, its place, and whether a
colon must follow, because nothing but a key can start at its column. -/
structure PendingKey where
  token : Nat
  required : Bool
  index : Nat
  line : Nat
  column : Nat
  deriving Repr

/-- The tokens so far and what the next ones depend on: the number of brackets open, the columns
of the blocks open, whether a key may start here, and the pending key of every level of
brackets. -/
structure Lexer where
  at_ : Cursor
  tokens : Array Token
  depth : Nat
  indent : Int
  outer : List Int
  keyAllowed : Bool
  pending : List (Nat × PendingKey)
  deriving Repr

namespace Lexer

/-- Before the first character. -/
def start (s : String) : Lexer :=
  { at_ := Cursor.ofText s, tokens := #[], depth := 0, indent := -1, outer := [],
    keyAllowed := true, pending := [] }

/-- The lexer with another token. -/
def push (lx : Lexer) (t : Token) : Lexer := { lx with tokens := lx.tokens.push t }

/-- The lexer with another token, `n` characters on. -/
def pushSkip (lx : Lexer) (t : Token) (n : Nat) : Lexer :=
  { lx with tokens := lx.tokens.push t, at_ := lx.at_.skip n }

/-- The lexer inside brackets or outside them. -/
def inFlow (lx : Lexer) : Bool := lx.depth ≠ 0

/-- Ends the blocks that start to the right of `column`. There are no more of them than columns
remembered. -/
def unwind (column : Int) (lx : Lexer) : Lexer :=
  if lx.inFlow then lx else go lx.outer lx
where
  /-- Ends one block for every column remembered, while the present one is too far right. -/
  go : List Int → Lexer → Lexer
    | [], lx => lx
    | o :: os, lx =>
      if column < lx.indent then go os { lx.push .blockEnd with indent := o, outer := os } else lx

/-- A pending key that cannot be one any more: the line has ended, or it has become too long. -/
def isStale (lx : Lexer) (k : PendingKey) : Bool :=
  k.line ≠ lx.at_.line || lx.at_.index > k.index + 1024

/-- The failure where nothing but a key can start, and no colon follows. -/
def noColon : Failure := .refused "could not find expected ':'"

/-- Forgets the pending keys that are none any more. -/
def dropStale (lx : Lexer) : Except Failure Lexer :=
  if lx.pending.any fun p => lx.isStale p.2 && p.2.required then .error noColon
  else .ok { lx with pending := lx.pending.filter fun p => !lx.isStale p.2 }

/-- Forgets the pending key of this level of brackets. -/
def dropPending (lx : Lexer) : Except Failure Lexer :=
  if lx.pending.any fun p => p.1 = lx.depth && p.2.required then .error noColon
  else .ok { lx with pending := lx.pending.filter fun p => p.1 ≠ lx.depth }

/-- Remembers that a key may start here. -/
def savePending (lx : Lexer) : Except Failure Lexer := do
  if !lx.keyAllowed then return lx
  let lx ← lx.dropPending
  let key : PendingKey :=
    { token := lx.tokens.size, required := !lx.inFlow && lx.indent = lx.at_.column,
      index := lx.at_.index, line := lx.at_.line, column := lx.at_.column }
  return { lx with pending := (lx.depth, key) :: lx.pending }

/-- Starts a block at `column` if that is to the right of the present one, with the token put in
front of the token number `place`. -/
def indentTo (column : Nat) (t : Token) (place : Nat) (lx : Lexer) : Lexer :=
  if lx.indent < column then
    { lx with
      outer := lx.indent :: lx.outer, indent := column,
      tokens := (lx.tokens.toList.insertIdx place t).toArray }
  else lx

/-- Passes over blanks, comments and line ends. Outside brackets a key may start on every line.
Each round takes a line end. -/
def skipGaps : (fuel : Nat) → Lexer → Lexer
  | 0, lx => lx
  | fuel + 1, lx =>
    let here := lx.at_.skipBlanks.skipComment
    match here.lineBreak? with
    | some (_, after) =>
      skipGaps fuel { lx with at_ := after, keyAllowed := lx.keyAllowed || !lx.inFlow }
    | none => { lx with at_ := here }

/-- The end of the text. -/
def finish (lx : Lexer) : Except Failure Lexer := do
  return (← (lx.unwind (-1)).dropPending).push .streamEnd

/-- A mark between documents. -/
def documentMark (t : Token) (lx : Lexer) : Except Failure Lexer := do
  let lx ← (lx.unwind (-1)).dropPending
  return { lx.pushSkip t 3 with keyAllowed := false }

/-- A line about the document. -/
def directiveLine (lx : Lexer) : Except Failure Lexer := do
  let lx ← (lx.unwind (-1)).dropPending
  let (d, after) ← directive lx.at_
  return { lx.push (.directive d) with at_ := after, keyAllowed := false }

/-- An opening bracket. -/
def openFlow (t : Token) (lx : Lexer) : Except Failure Lexer := do
  let lx ← lx.savePending
  return { lx.pushSkip t 1 with depth := lx.depth + 1, keyAllowed := true }

/-- A closing bracket. -/
def closeFlow (t : Token) (lx : Lexer) : Except Failure Lexer := do
  let lx ← lx.dropPending
  return { lx.pushSkip t 1 with depth := lx.depth - 1, keyAllowed := false }

/-- A comma between brackets. -/
def flowEntry (lx : Lexer) : Except Failure Lexer := do
  let lx ← lx.dropPending
  return { lx.pushSkip .flowEntry 1 with keyAllowed := true }

/-- Something like a list or a mapping may not start here. -/
def forbidden (what : String) : Failure := .refused (what ++ " are not allowed here")

/-- The dash of a member of a list. -/
def blockEntry (lx : Lexer) : Except Failure Lexer := do
  if !lx.inFlow && !lx.keyAllowed then throw (forbidden "sequence entries")
  let lx :=
    if lx.inFlow then lx else lx.indentTo lx.at_.column .blockSequenceStart lx.tokens.size
  let lx ← lx.dropPending
  return { lx.pushSkip .blockEntry 1 with keyAllowed := true }

/-- The question mark of a key. -/
def key (lx : Lexer) : Except Failure Lexer := do
  if !lx.inFlow && !lx.keyAllowed then throw (forbidden "mapping keys")
  let lx :=
    if lx.inFlow then lx else lx.indentTo lx.at_.column .blockMappingStart lx.tokens.size
  let lx ← lx.dropPending
  return { lx.pushSkip .key 1 with keyAllowed := !lx.inFlow }

/-- The colon of a value. If a key is pending, it is one now. -/
def value (lx : Lexer) : Except Failure Lexer := do
  match lx.pending.lookup lx.depth with
  | some k =>
    let lx :=
      { lx with
        pending := lx.pending.filter fun p => p.1 ≠ lx.depth,
        tokens := (lx.tokens.toList.insertIdx k.token .key).toArray }
    let lx := if lx.inFlow then lx else lx.indentTo k.column .blockMappingStart k.token
    return { lx.pushSkip .value 1 with keyAllowed := false }
  | none =>
    if !lx.inFlow && !lx.keyAllowed then throw (forbidden "mapping values")
    let lx :=
      if lx.inFlow then lx else lx.indentTo lx.at_.column .blockMappingStart lx.tokens.size
    let lx ← lx.dropPending
    return { lx.pushSkip .value 1 with keyAllowed := !lx.inFlow }

/-- A token at which a key may start, with the place after it. -/
def node (read : Cursor → Except Failure (Token × Cursor)) (lx : Lexer) : Except Failure Lexer := do
  let lx ← lx.savePending
  let (t, after) ← read lx.at_
  return { lx.push t with at_ := after, keyAllowed := false }

/-- A block of lines. -/
def blockScalar (folded : Bool) (lx : Lexer) : Except Failure Lexer := do
  let lx ← lx.dropPending
  let (s, after) ← block folded lx.indent lx.at_
  return { lx.push (.scalar s false) with at_ := after, keyAllowed := true }

/-- A plain scalar. If a line has ended behind it, a key may start there. -/
def plainScalar (lx : Lexer) : Except Failure Lexer := do
  let lx ← lx.savePending
  let (s, lineEnded, after) := plain lx.inFlow lx.indent lx.at_
  return { lx.push (.scalar s true) with at_ := after, keyAllowed := lineEnded }

/-- The characters that start a token of their own and no plain scalar. -/
def indicators : List Char := "-?:,[]\x7b\x7d#&*!|>\x27\x22%@\x60".toList

/-- A plain scalar starts here. -/
def startsPlain (lx : Lexer) (c : Char) : Bool :=
  (!isGap (some c) && !indicators.contains c) ||
    (!isGap (lx.at_.peekAt 1) && (c = '-' || (!lx.inFlow && (c = '?' || c = ':'))))

/-- Takes the token that starts with character `c`. -/
def token (c : Char) (lx : Lexer) : Except Failure Lexer :=
  let at_ := lx.at_
  let gapAfter := isGap (at_.peekAt 1)
  if c = '%' && at_.column = 0 then lx.directiveLine
  else if at_.column = 0 && at_.isDocumentMark then
    lx.documentMark (if c = '-' then .documentStart else .documentEnd)
  else if c = '[' then lx.openFlow .flowSequenceStart
  else if c = '\x7b' then lx.openFlow .flowMappingStart
  else if c = ']' then lx.closeFlow .flowSequenceEnd
  else if c = '\x7d' then lx.closeFlow .flowMappingEnd
  else if c = ',' then lx.flowEntry
  else if c = '-' && gapAfter then lx.blockEntry
  else if c = '?' && (lx.inFlow || gapAfter) then lx.key
  else if c = ':' && (lx.inFlow || gapAfter) then lx.value
  else if c = '*' then lx.node fun at_ => (anchorName at_).map fun r => (.alias r.1, r.2)
  else if c = '&' then lx.node fun at_ => (anchorName at_).map fun r => (.anchor r.1, r.2)
  else if c = '!' then lx.node fun at_ => (tagName at_).map fun r => (.tag r.1 r.2.1, r.2.2)
  else if c = '|' && !lx.inFlow then lx.blockScalar false
  else if c = '>' && !lx.inFlow then lx.blockScalar true
  else if c = '\x27' || c = '\x22' then
    lx.node fun at_ => (quotedScalar c at_).map fun r => (.scalar r.1 false, r.2)
  else if lx.startsPlain c then lx.plainScalar
  else .error (.refused ("found character " ++ at_.shown ++ " that cannot start any token"))

/-- Takes the next token, with the ends of blocks that come before it. -/
def step (lx : Lexer) : Except Failure Lexer := do
  let at_ := lx.at_
  let at_ := if at_.index = 0 && at_.peek = some byteOrderMark then at_.next else at_
  let lx ← (skipGaps (at_.rest.length + 1) { lx with at_ := at_ }).dropStale
  let lx := lx.unwind lx.at_.column
  match lx.at_.peek with
  | none => lx.finish
  | some c => lx.token c

/-- The tokens in front of every node that may still turn out to be a key. -/
def settled (lx : Lexer) : List Token :=
  let open_ := lx.pending.filter fun p => !lx.isStale p.2
  lx.tokens.toList.take ((open_.map fun p => p.2.token).min?.getD lx.tokens.size)

/-- Takes the tokens that are left. A round takes a character at least. No token is missed after the
last one. -/
def run : (fuel : Nat) → Lexer → Tokens
  | 0, lx => ⟨lx.settled, .fault .exhausted⟩
  | fuel + 1, lx =>
    match lx.step with
    | .error f => ⟨lx.settled, f⟩
    | .ok lx =>
      if lx.tokens.back? = some .streamEnd then ⟨lx.tokens.toList, .fault .exhausted⟩
      else run fuel lx

end Lexer

/-- A character that may stand in a document. -/
def isAllowed (c : Char) : Bool :=
  let n := c.toNat
  n = 9 || n = 10 || n = 13 || (0x20 ≤ n && n ≤ 0x7e) || n = 0x85 || (0xa0 ≤ n && n ≤ 0xd7ff) ||
    (0xe000 ≤ n && n ≤ 0xfffd) || 0x10000 ≤ n

/-- The failure of a text with a character that may not stand in a document. -/
def disallowed (c : Char) : Failure :=
  .refused ("unacceptable character #x" ++ String.ofList (Text.hexDigits 4 c.toNat) ++
    ": special characters are not allowed")

/-- The tokens of a text. -/
def Tokens.ofText (s : String) : Tokens :=
  match s.toList.find? (!isAllowed ·) with
  | some c => ⟨[], disallowed c⟩
  | none => Lexer.run (s.length + 2) (Lexer.start s)

end PodRedirect.Yaml
