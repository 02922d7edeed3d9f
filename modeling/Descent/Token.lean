import Descent.Position

/-!
# Tokens

The smallest units of a source text: a piece of it, a kind and the position
where it starts. Tokens come ready made; nothing here takes a text apart.

## Main definitions

* `TokenKind`: The kinds of tokens.
* `Token`: A token.
* `Token.stopColumn`: The column behind the token's text.
* `Token.isEnd`: Whether the token marks the end of the input.
-/

namespace Descent

open Text

/-- The kinds of tokens. -/
inductive TokenKind where
  | identifier
  | keyword
  | punctuator
  | operator
  | constant
  | stringLiteral
  | characterLiteral
  | type
  | comment
  /-- The mark at the end of the input, where a feed gives one. -/
  | eof
  deriving DecidableEq, Repr

namespace TokenKind

/-- All kinds, in the order in which a message lists them. -/
def all : List TokenKind :=
  [.identifier, .keyword, .punctuator, .operator, .constant, .stringLiteral,
    .characterLiteral, .type, .comment, .eof]

/-- The name of a kind. -/
def name : TokenKind → String
  | .identifier => "Identifier"
  | .keyword => "Keyword"
  | .punctuator => "Punctuator"
  | .operator => "Operator"
  | .constant => "Constant"
  | .stringLiteral => "StringLiteral"
  | .characterLiteral => "CharacterLiteral"
  | .type => "Type"
  | .comment => "Comment"
  | .eof => "Eof"

/-- The kind of this name. -/
def ofName? (name : String) : Option TokenKind :=
  all.find? (·.name = name)

/-- The structure of a kind is its name. -/
def form (kind : TokenKind) : Form := .word kind.name

/-- Every kind is found under its name. -/
theorem ofName?_name (kind : TokenKind) : ofName? kind.name = some kind := by
  cases kind <;> decide

end TokenKind

/-- A piece of a source text. -/
structure Token where
  value : String
  kind : TokenKind
  start : Position
  deriving DecidableEq, Repr

namespace Token

/-- The column behind the last character of the token. -/
def stopColumn (t : Token) : Nat :=
  t.start.column.toNat + t.value.toList.length

/-- Whether the token marks the end of the input. -/
def isEnd (t : Token) : Bool :=
  t.kind = .eof

/-- The token in a message: its kind, its text as it is, and its start. -/
def text (t : Token) : String :=
  t.kind.name ++ " '" ++ t.value ++ "' at " ++ t.start.text

/-- The structure of a token. -/
def form (t : Token) : Form :=
  .record "Token"
    [("value", .string t.value), ("kind", t.kind.form), ("start", t.start.form)] false

end Token

end Descent
