import PodRedirect.Rule

/-!
# What is installed already

A listing of a table has a line for every chain and a line for every rule. From the lines about the
two chains of the redirection and the jumps to them one sees what an earlier run has left.

## Main definitions

* `Installed`: which chains and jumps there are
* `Installed.ofLine`: what a line says
* `Installed.scan`: what a listing says
-/

namespace PodRedirect

/-- Which chains of the redirection and which jumps to them there are. -/
structure Installed where
  redirectChain : Bool
  outputChain : Bool
  inboundJump : Bool
  outboundJump : Bool
  deriving DecidableEq, Repr

namespace Installed

/-- The line declares a chain. -/
def declares (chain : String) (line : List Char) : Bool :=
  (':' :: chain.toList ++ [' ']).isPrefixOf line

/-- The line is a rule of one chain that goes on in another: after the chain comes the jump, at once
or after something and a blank. -/
def jumps (chain target : String) (line : List Char) : Bool :=
  let head := "-A ".toList ++ chain.toList ++ [' ']
  let jump := "-j ".toList ++ target.toList
  let rest := line.drop head.length
  head.isPrefixOf line &&
    (jump.isPrefixOf rest || Text.occursIn (' ' :: jump) (rest.drop 1))

/-- What a line of a listing says. -/
def ofLine (line : List Char) : Installed where
  redirectChain := declares Rule.redirectChain line
  outputChain := declares Rule.outputChain line
  inboundJump := jumps Rule.prerouting Rule.redirectChain line
  outboundJump := jumps Rule.output Rule.outputChain line

/-- What a listing says: all that its lines say. -/
def scan (listing : String) : Installed :=
  let lines := listing.toList.splitOn '\n'
  { redirectChain := lines.any fun l => (ofLine l).redirectChain
    outputChain := lines.any fun l => (ofLine l).outputChain
    inboundJump := lines.any fun l => (ofLine l).inboundJump
    outboundJump := lines.any fun l => (ofLine l).outboundJump }

end Installed

end PodRedirect
