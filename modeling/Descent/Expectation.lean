import Descent.Token

/-!
# Expectations

What a parser tests the next token against: a set of values, a kind, or
nothing at all, which no token meets.

## Main definitions

* `Expectation`: The three ways to expect a token.
* `Expectation.ofParts`: From values and a kind, of which values count first.
* `Expectation.accepts`: Whether a token meets an expectation.
-/

namespace Descent

open Text

/-- What the next token is tested against. -/
inductive Expectation where
  /-- The value of the token is one of these. -/
  | oneOf (values : List String)
  /-- The token is of this kind. -/
  | ofKind (kind : TokenKind)
  /-- Nothing was said; no token will do. -/
  | unspecified
  deriving DecidableEq, Repr

namespace Expectation

/-- Values, if there are any, even an empty list of them; else the kind. -/
def ofParts (values? : Option (List String)) (kind? : Option TokenKind) : Expectation :=
  match values?, kind? with
  | some values, _ => .oneOf values
  | none, some kind => .ofKind kind
  | none, none => .unspecified

/-- Whether a token meets the expectation. -/
def accepts : Expectation → Token → Bool
  | .oneOf values, token => values.contains token.value
  | .ofKind kind, token => token.kind = kind
  | .unspecified, _ => false

/-- The structure of an expectation. -/
def form : Expectation → Form
  | .oneOf values => .tuple "Values" [.list (values.map .string)]
  | .ofKind kind => .tuple "Kind" [kind.form]
  | .unspecified => .word "Unspecified"

end Expectation

end Descent
