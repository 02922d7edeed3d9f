import Descent.Json.Number
import Descent.Text.Quoted

/-!
# Faults of a Document

What can be wrong with a document that is read as a certain kind of data. A
fault is a cause; its wording and its class follow from it. Three classes
matter to a caller: the text breaks off, the text is no document, or the
document holds something else than what was asked for.

## Main definitions

* `Found`: What stands where something else was expected.
* `Fault`: The causes.
* `FaultClass`, `Fault.faultClass`: The class of a cause.
* `Fault.message`: The wording of a cause.
-/

namespace Descent.Json

open Text

/-- What stands where something else was expected. -/
inductive Found where
  | null
  | boolean (b : Bool)
  | number (n : Number)
  | string (s : String)
  | sequence
  | map
  deriving DecidableEq

/-- A value in the words of a message. -/
def Found.describe : Found → String
  | .null => "null"
  | .boolean b => "boolean `" ++ (if b then "true" else "false") ++ "`"
  | .number (.integer n fits) => "integer `" ++ (Number.integer n fits).text ++ "`"
  | .number (.real x) => "floating point `" ++ (Number.real x).text ++ "`"
  | .string s => "string " ++ quoted s
  | .sequence => "sequence"
  | .map => "map"

/-- Why a document cannot be read as what was asked for. -/
inductive Fault where
  /-- The text ends where a value is due, or inside a word. -/
  | valueCutOff
  | listCutOff
  | objectCutOff
  | stringCutOff
  | valueExpected
  /-- A word that starts like `true`, `false` or `null` and goes on
      differently. -/
  | wordExpected
  | colonExpected
  | commaOrBraceExpected
  | commaOrBracketExpected
  | trailingComma
  | trailingCharacters
  | keyNotString
  | invalidNumber
  | numberOutOfRange
  | invalidEscape
  | controlCharacter
  /-- The first half of a surrogate pair without a second escape. -/
  | pairCutOff
  /-- A half of a surrogate pair where it cannot stand. -/
  | loneSurrogate
  /-- More containers inside each other than a reader opens. -/
  | tooDeep
  | wrongType (found : Found) (wanted : String)
  | negative (n : Int) (wanted : String)
  | unknownVariant (name : String) (known : List String)
  | missingField (name : String)
  | duplicateField (name : String)
  /-- A record written as a list ends before its required fields do. -/
  | wrongLength (length : Nat) (record : String) (fields : Nat)
  deriving DecidableEq

/-- The classes of faults. -/
inductive FaultClass where
  /-- The text is no document. -/
  | form
  /-- The document holds something else. -/
  | data
  /-- The text breaks off. -/
  | cutOff
  deriving DecidableEq, Repr

/-- The word for a class. -/
def FaultClass.name : FaultClass → String
  | .form => "syntax"
  | .data => "data"
  | .cutOff => "eof"

namespace Fault

/-- The class of a fault. -/
def faultClass : Fault → FaultClass
  | .valueCutOff | .listCutOff | .objectCutOff | .stringCutOff => .cutOff
  | .wrongType .. | .negative .. | .unknownVariant .. | .missingField _ | .duplicateField _
  | .wrongLength .. => .data
  | _ => .form

/-- A name between backticks. -/
def ticked (name : String) : String :=
  "`" ++ name ++ "`"

/-- The wording of a fault. -/
def message : Fault → String
  | .valueCutOff => "EOF while parsing a value"
  | .listCutOff => "EOF while parsing a list"
  | .objectCutOff => "EOF while parsing an object"
  | .stringCutOff => "EOF while parsing a string"
  | .valueExpected => "expected value"
  | .wordExpected => "expected ident"
  | .colonExpected => "expected `:`"
  | .commaOrBraceExpected => "expected `,` or `\x7d`"
  | .commaOrBracketExpected => "expected `,` or `]`"
  | .trailingComma => "trailing comma"
  | .trailingCharacters => "trailing characters"
  | .keyNotString => "key must be a string"
  | .invalidNumber => "invalid number"
  | .numberOutOfRange => "number out of range"
  | .invalidEscape => "invalid escape"
  | .controlCharacter =>
    "control character (\\u0000-\\u001F) found while parsing a string"
  | .pairCutOff => "unexpected end of hex escape"
  | .loneSurrogate => "lone leading surrogate in hex escape"
  | .tooDeep => "recursion limit exceeded"
  | .wrongType found wanted => "invalid type: " ++ found.describe ++ ", expected " ++ wanted
  | .negative n wanted =>
    "invalid value: integer " ++ ticked (toString n) ++ ", expected " ++ wanted
  | .unknownVariant name known =>
    "unknown variant " ++ ticked name ++ ", expected one of " ++
      ", ".intercalate (known.map ticked)
  | .missingField name => "missing field " ++ ticked name
  | .duplicateField name => "duplicate field " ++ ticked name
  | .wrongLength length record fields =>
    "invalid length " ++ toString length ++ ", expected struct " ++ record ++ " with " ++
      toString fields ++ " elements"

end Fault

end Descent.Json
