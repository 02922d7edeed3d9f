import Descent.Meta
import Descent.Token

/-!
# Nodes

The pieces of a syntax tree. A node is opened where its construct starts and
closed where it ends; between the two it is an open node, which may be filled
in and has neither a kind nor an end. A closed node knows the range it came
from, and its text is cut out of that range on demand.

## Main definitions

* `NodeKind`: The kinds of nodes.
* `Node`: A closed node.
* `OpenNode`: A node that has been started.
* `OpenNode.ofSeed`, `OpenNode.close`, `Node.reopen`: From one to the other.
* `Node.text`: The source text of a node, on its first line.
* `Node.agrees`: Equality of nodes, with numbers compared as numbers.
-/

namespace Descent

open Text

/-- The kinds of nodes. -/
inductive NodeKind where
  | program
  | identifier
  | constant
  | stringLiteral
  | characterLiteral
  | type
  | pair
  | declaration
  | immutableDeclaration
  | functionDeclaration
  | functionArguments
  | functionResult
  | functionCall
  | returnStatement
  | ifThenElse
  | ternary
  | loop
  | breakOut
  | block
  | binaryExpression
  | unaryExpression
  | assignment
  | arraySubscript
  | access
  | objectLiteral
  | struct
  | spread
  | sequence
  | importItem
  | exportItem
  | comment
  | noop
  deriving DecidableEq, Repr

namespace NodeKind

/-- All kinds, in the order in which a message lists them. -/
def all : List NodeKind :=
  [.program, .identifier, .constant, .stringLiteral, .characterLiteral, .type, .pair,
    .declaration, .immutableDeclaration, .functionDeclaration, .functionArguments,
    .functionResult, .functionCall, .returnStatement, .ifThenElse, .ternary, .loop, .breakOut,
    .block, .binaryExpression, .unaryExpression, .assignment, .arraySubscript, .access,
    .objectLiteral, .struct, .spread, .sequence, .importItem, .exportItem, .comment, .noop]

/-- The name of a kind. -/
def name : NodeKind → String
  | .program => "Program"
  | .identifier => "Identifier"
  | .constant => "Constant"
  | .stringLiteral => "StringLiteral"
  | .characterLiteral => "CharacterLiteral"
  | .type => "Type"
  | .pair => "Pair"
  | .declaration => "Declaration"
  | .immutableDeclaration => "ImmutableDeclaration"
  | .functionDeclaration => "FunctionDeclaration"
  | .functionArguments => "FunctionArguments"
  | .functionResult => "FunctionResult"
  | .functionCall => "FunctionCall"
  | .returnStatement => "ReturnStatement"
  | .ifThenElse => "IfThenElse"
  | .ternary => "Ternary"
  | .loop => "Loop"
  | .breakOut => "Break"
  | .block => "Block"
  | .binaryExpression => "BinaryExpression"
  | .unaryExpression => "UnaryExpression"
  | .assignment => "Assignment"
  | .arraySubscript => "ArraySubscript"
  | .access => "Access"
  | .objectLiteral => "ObjectLiteral"
  | .struct => "Struct"
  | .spread => "Spread"
  | .sequence => "Sequence"
  | .importItem => "Import"
  | .exportItem => "Export"
  | .comment => "Comment"
  | .noop => "Noop"

/-- The kind of this name. -/
def ofName? (name : String) : Option NodeKind :=
  all.find? (·.name = name)

/-- The structure of a kind is its name. -/
def form (kind : NodeKind) : Form := .word kind.name

/-- Every kind is found under its name. -/
theorem ofName?_name (kind : NodeKind) : ofName? kind.name = some kind := by
  cases kind <;> decide

end NodeKind

/-- A node of the syntax tree. -/
structure Node where
  kind : NodeKind
  value : String
  range : Range
  info : Meta
  params : List Node
  typeName : Option String

/-- A node that has been started. -/
structure OpenNode where
  value : String
  start : Position
  info : Meta
  params : List Node
  typeName : Option String

namespace OpenNode

/-- The open node without anything in it. -/
def blank : OpenNode := ⟨"", .nowhere, .empty, [], none⟩

/-- Opens a node on a token, with its value and at its start. -/
def ofSeed (seed : Option Token) : OpenNode :=
  match seed with
  | some token => { blank with value := token.value, start := token.start }
  | none => blank

/-- Closes a node. The end is taken as it is, even in front of the start. -/
def close (o : OpenNode) (kind : NodeKind) (stop : Position) : Node :=
  ⟨kind, o.value, ⟨o.start, stop⟩, o.info, o.params, o.typeName⟩

end OpenNode

namespace Node

/-- The source text of a node. Only the first line is looked at, so the text
    of a node over several lines is cut at the column of its end. -/
def text (n : Node) : String :=
  n.range.start.sliceTo n.range.stop.column.toNat

/-- An open node with the fields of this one. -/
def reopen (n : Node) : OpenNode :=
  ⟨n.value, n.range.start, n.info, n.params, n.typeName⟩

mutual

/-- Equality of nodes, with numbers compared as numbers. -/
def agrees : Node → Node → Bool
  | ⟨kind, value, range, info, params, typeName⟩,
    ⟨kind', value', range', info', params', typeName'⟩ =>
    kind = kind' && value = value' && range = range' && info.agrees info' &&
      allAgree params params' && typeName = typeName'

/-- Equality of lists of nodes, one by one. -/
def allAgree : List Node → List Node → Bool
  | [], [] => true
  | n :: ns, m :: ms => n.agrees m && allAgree ns ms
  | _, _ => false

end

/-- Closing what was reopened, where and as it was closed, gives the node. -/
theorem close_reopen (n : Node) : n.reopen.close n.kind n.range.stop = n := by
  cases n
  rfl

end Node

end Descent
