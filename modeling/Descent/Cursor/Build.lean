import Descent.Cursor.Match
import Descent.Node.Parts

/-!
# Building Nodes

Nodes are opened and closed at the cursor. The end of a node is read from the
token that is current when it is closed, so a caller closes a node after its
last token has been consumed. At the end of the input the last token that the
feed gave stands in.

Closing a node there never fails, though a warning is logged if the node ends
in front of its start; closing it at an explicit position does fail then.

## Main definitions

* `Cursor.startNode`: Opens a node on a seed or on the current token.
* `Cursor.endNode`, `Cursor.endNodeAt`: Closes a node, here or elsewhere.
* `Cursor.makeNode`, `Cursor.makeNodeAt`: Opens and closes a node in one go.
* `Leaf`, `Cursor.leaf`: Nodes made of one token.
-/

namespace Descent

/-- The nodes that are made of one token. -/
inductive Leaf where
  | identifier
  | constant
  | stringLiteral
  | type
  deriving DecidableEq, Repr

namespace Leaf

/-- The kind of token a leaf is made of. -/
def tokenKind : Leaf → TokenKind
  | .identifier => .identifier
  | .constant => .constant
  | .stringLiteral => .stringLiteral
  | .type => .type

/-- The kind of node a leaf is. -/
def nodeKind : Leaf → NodeKind
  | .identifier => .identifier
  | .constant => .constant
  | .stringLiteral => .stringLiteral
  | .type => .type

/-- What a leaf has apart from its token: a type is annotated with its own
    name. -/
def parts (leaf : Leaf) (token : Token) : NodeParts :=
  match leaf with
  | .type => NodeParts.none.add (.typeName token.value)
  | _ => .none

end Leaf

namespace Cursor

variable {σ : Type}

/-- Opens a node on the seed, or on the current token without one. -/
def startNode (c : Cursor σ) (seed : Option Token) : OpenNode :=
  .ofSeed (seed <|> c.token)

/-- Closes a node at a position that must not come before its start. -/
def endNodeAt (c : Cursor σ) (o : OpenNode) (kind : NodeKind) (stop : Position) :
    Logged (Except Diagnostic Node) :=
  if o.start.precedes stop then return .ok (o.close kind stop)
  else do
    return .error (← c.invertedRange o.start stop)

/-- A node from the current token to a position, with these parts. -/
def makeNodeAt (c : Cursor σ) (parts : NodeParts) (kind : NodeKind) (stop : Position) :
    Logged (Except Diagnostic Node) :=
  c.endNodeAt (parts.apply (c.startNode none)) kind stop

variable [TokenFeed σ]

/-- Where a node that is closed now ends. -/
def stopPosition (c : Cursor σ) : Position :=
  ((c.token <|> c.last?).map (·.start)).getD .nowhere

/-- Closes a node here. -/
def endNode (c : Cursor σ) (o : OpenNode) (kind : NodeKind) : Logged Node := do
  let stop := c.stopPosition
  unless o.start.precedes stop do
    Logged.note (.inverted kind o.start stop)
  Logged.note (.closed kind o.start stop)
  return o.close kind stop

/-- A node with these parts that starts at the current token and ends
    there. -/
def makeNode (c : Cursor σ) (parts : NodeParts) (kind : NodeKind) : Logged Node :=
  c.endNode (parts.apply (c.startNode none)) kind

/-- Consumes one token and makes a node of it. The node ends where the next
    token starts. -/
def leaf (c : Cursor σ) (leaf : Leaf) : Logged (Except Diagnostic Node × Cursor σ) := do
  let (taken, behind) ← c.expect (.ofKind leaf.tokenKind)
  match taken with
  | .error d => return (.error d, behind)
  | .ok token =>
    let o := (leaf.parts token).apply (behind.startNode (some token))
    return (.ok (← behind.endNode o leaf.nodeKind), behind)

end Cursor

end Descent
