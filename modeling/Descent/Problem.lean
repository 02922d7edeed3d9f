import Descent.Token

/-!
# Problems

What a parser can complain about. Five problems lie in the input; the sixth,
a node closed in front of its start, is a mistake of the parser itself.

## Main definitions

* `Problem`: The six problems.
* `Problem.isInternal`: Whether the parser is to blame.
* `Problem.code`: The word that names a problem for tools.
* `Problem.label`, `Problem.help?`: Words beside the message.
-/

namespace Descent

open Text

/-- What a parser complains about. -/
inductive Problem where
  /-- Something the parser puts into its own words. -/
  | general
  /-- The value of the token is none of those expected. -/
  | unexpectedValue (expected : String)
  /-- The token, if there is one, is not of the kind expected. -/
  | unexpectedToken (expected : String) (found : Option TokenKind)
  /-- A token that fits nowhere in the grammar. -/
  | unknownToken (value : String)
  /-- A construct that is known and left out on purpose. -/
  | unsupportedFeature (feature : String)
  /-- A node that ends in front of its start. -/
  | invertedRange (start stop : String)
  deriving DecidableEq, Repr

namespace Problem

/-- Whether the parser is to blame and not its input. -/
def isInternal : Problem → Bool
  | .invertedRange .. => true
  | _ => false

/-- The word for whom to blame. -/
def category (p : Problem) : String :=
  if p.isInternal then "Internal" else "Parse"

/-- The name of a problem. -/
def name : Problem → String
  | .general => "Syntax"
  | .unexpectedValue _ => "UnexpectedValue"
  | .unexpectedToken .. => "UnexpectedToken"
  | .unknownToken _ => "UnknownToken"
  | .unsupportedFeature _ => "UnsupportedFeature"
  | .invertedRange .. => "InvertedRange"

/-- The word that names a problem for tools. -/
def code : Problem → String
  | .general => "syntax"
  | .unexpectedValue _ => "unexpected_value"
  | .unexpectedToken .. => "unexpected_token"
  | .unknownToken _ => "unknown_token"
  | .unsupportedFeature _ => "unsupported_feature"
  | .invertedRange .. => "inverted_range"

/-- The words at the marked place when nothing better is known. -/
def label : Problem → String
  | .general => "syntax error"
  | .unexpectedValue _ => "unexpected value"
  | .unexpectedToken .. => "unexpected token"
  | .unknownToken _ => "unknown token"
  | .unsupportedFeature _ => "not supported"
  | .invertedRange .. => "node closed here"

/-- Advice for the reader of a message. -/
def help? : Problem → Option String
  | .unexpectedValue expected => some ("expected one of: " ++ expected)
  | .invertedRange start stop =>
    some ("a node opened at " ++ start ++ " cannot end at " ++ stop ++
      "; this is a parser bug")
  | _ => none

/-- The structure of a problem. -/
def form : Problem → Form
  | .general => .word "Syntax"
  | .unexpectedValue expected =>
    .record "UnexpectedValue" [("expected", .string expected)] false
  | .unexpectedToken expected found =>
    .record "UnexpectedToken"
      [("expected", .string expected), ("found", .option (found.map (·.form)))] false
  | .unknownToken value => .record "UnknownToken" [("value", .string value)] false
  | .unsupportedFeature feature =>
    .record "UnsupportedFeature" [("feature", .string feature)] false
  | .invertedRange start stop =>
    .record "InvertedRange" [("start", .string start), ("end", .string stop)] false

end Problem

end Descent
