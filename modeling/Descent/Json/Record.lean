import Descent.Json.Container

/-!
# Reading Records and Variants

A record is written as an object, with its fields under their names in any
order, or as a list, with its fields in the order of their declaration.
Members of an object that are no fields are skipped. A field may be optional;
the others must be there, and none may come twice.

A variant, one of finitely many names, is written as a string, or as an
object with that name for its only key and nothing under it.

## Main definitions

* `RecordField`: How one field is read into a draft of the record.
* `recordOf`: Reads a record.
* `variant`: Reads one of finitely many names.
-/

namespace Descent.Json

variable {α δ : Type}

/-- How one field is read into a draft `δ` of its record. -/
structure RecordField (δ : Type) where
  name : String
  /-- Whether the record must have the field. -/
  isRequired : Bool
  /-- Whether the draft has the field already. -/
  isFilled : δ → Bool
  /-- Reads the field into the draft. -/
  fill : δ → Reader δ

namespace RecordField

/-- A required field of which the draft keeps an option. -/
def required (name : String) (get : δ → Option α) (set : δ → α → δ) (reader : Reader α) :
    RecordField δ where
  name := name
  isRequired := true
  isFilled draft := (get draft).isSome
  fill draft := set draft <$> reader

/-- A field that may be left out. -/
def optional (name : String) (get : δ → Option α) (set : δ → α → δ) (reader : Reader α) :
    RecordField δ :=
  { required name get set reader with isRequired := false }

end RecordField

namespace Reader

/-- A member of a record written as an object: a field, if it is the first
    of its name, or something to skip. -/
def fieldMember (fields : List (RecordField δ)) (draft : δ) (name : String) : Reader δ := do
  match fields.find? (·.name = name) with
  | some field =>
    if field.isFilled draft then throw (.duplicateField name)
    colon
    field.fill draft
  | none =>
    colon
    skipValue
    return draft

/-- The fields of a record written as a list, as far as the list goes, and
    the fields that are left over. -/
def fieldItems : List (RecordField δ) → (isFirst : Bool) → δ → Reader (δ × List (RecordField δ))
  | [], _, draft => return (draft, [])
  | field :: rest, isFirst, draft => do
    if ← listGoesOn isFirst then
      fieldItems rest false (← field.fill draft)
    else return (draft, field :: rest)

/-- A record, read from `blank`. Without fields there is no room to open
    it. -/
def recordOf (name : String) (fields : Option (List (RecordField δ))) (blank : δ) : Reader δ := do
  match ← start with
  | '[' => do
    let fields ← enter fields
    let (draft, left) ← fieldItems fields true blank
    match left.dropWhile (!·.isRequired) with
    | [] =>
      closeList
      return draft
    | missing =>
      throw (.wrongLength (fields.length - missing.length) name fields.length)
  | '\x7b' => do
    let fields ← enter fields
    let draft ← members (fieldMember fields) blank
    match fields.find? fun field => field.isRequired && !field.isFilled draft with
    | some field => throw (.missingField field.name)
    | none => return draft
  | c => refuse c ("struct " ++ name)

/-- What a draft holds in a required field. A record that has been read holds
    them all. -/
def taken (name : String) (field : Option α) : Reader α := do
  match field with
  | some a => return a
  | none => throw (.missingField name)

/-- The one of `all` that has this name. -/
def named (nameOf : α → String) (all : List α) (name : String) : Reader α := do
  match all.find? (nameOf · = name) with
  | some a => return a
  | none => throw (.unknownVariant name (all.map nameOf))

/-- The only key of a variant that is written as an object. -/
def variantKey : Reader String := do
  match ← next? with
  | some '"' => key
  | some '\x7d' => throw .valueExpected
  | some _ => throw .keyNotString
  | none => throw .objectCutOff

/-- One of finitely many names. As an object it needs room. -/
def variant (nameOf : α → String) (all : List α) (hasRoom : Bool) : Reader α := do
  match ← start with
  | '"' => do
    advance
    named nameOf all (← stringBody)
  | '\x7b' => do
    enter (if hasRoom then some () else none)
    let result ← named nameOf all (← variantKey)
    colon
    unit
    match ← next? with
    | some '\x7d' => do
      advance
      return result
    | some _ => throw .valueExpected
    | none => throw .objectCutOff
  | _ => throw .valueExpected

end Reader

end Descent.Json
