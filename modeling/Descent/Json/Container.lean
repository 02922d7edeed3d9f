import Descent.Json.Reader
import Descent.Json.Value

/-!
# Reading Containers

Lists and objects, and the values made of them. A container is opened only if
there is room for it: a reader of nested data is built from the reader of the
level below, and where no level is left, that reader is missing. So the depth
of a document is bounded by construction, and reading is a structural
recursion on the number of levels.

The loops over items and members take at least one character in every round,
so the text that is left is fuel enough for them: each round drops one
character of it.

## Main definitions

* `listGoesOn`, `objectGoesOn`: The commas between items and members.
* `list`, `members`: The inside of a container, up to its closing bracket.
* `skipValue`: Skips a value at any depth.
* `value`: Reads a value, opening at most so many containers in each other.
* `parse`: Reads a whole text.
-/

namespace Descent.Json

namespace Reader

variable {α δ : Type}

/-- The characters left, and one more: enough rounds for every loop over
    them. -/
def fuel : Reader (List Char) := fun cs => .ok (' ' :: cs, cs)

/-- The next character behind blanks, where a value is due. -/
def start : Reader Char := do
  match ← next? with
  | some c => return c
  | none => throw .valueCutOff

/-! ## Commas -/

/-- Whether another item follows in a list. A comma is taken, the closing
    bracket is not. -/
def listGoesOn (isFirst : Bool) : Reader Bool := do
  match ← next? with
  | none => throw .listCutOff
  | some ']' => return false
  | some c =>
    if isFirst then return true
    if c = ',' then
      advance
      match ← next? with
      | some ']' => throw .trailingComma
      | some _ => return true
      | none => throw .valueCutOff
    throw .commaOrBracketExpected

/-- Whether another member follows in an object. A comma is taken, the first
    quote of the key and the closing brace are not. -/
def objectGoesOn (isFirst : Bool) : Reader Bool := do
  match ← next? with
  | none => throw .objectCutOff
  | some '\x7d' => return false
  | some c =>
    if isFirst then
      if c = '"' then return true
      throw .keyNotString
    if c = ',' then
      advance
      match ← next? with
      | some '"' => return true
      | some '\x7d' => throw .trailingComma
      | some _ => throw .keyNotString
      | none => throw .valueCutOff
    throw .commaOrBraceExpected

/-- Takes the closing bracket of a list that has been read by position. -/
def closeList : Reader Unit := do
  match ← next? with
  | some ']' => advance
  | some ',' =>
    advance
    throw (if (← next?) = some ']' then .trailingComma else .trailingCharacters)
  | some _ => throw .trailingCharacters
  | none => throw .listCutOff

/-- Takes the colon behind a key. -/
def colon : Reader Unit := do
  match ← next? with
  | some ':' => advance
  | some _ => throw .colonExpected
  | none => throw .objectCutOff

/-- Takes a key whose first quote has been seen. -/
def key : Reader String := do
  advance
  stringBody

/-! ## Loops -/

/-- The items of a list up to its closing bracket. -/
def itemsFrom (item : Reader α) : (fuel : List Char) → (isFirst : Bool) → Reader (List α)
  | [], _ => throw .listCutOff
  | _ :: fuel, isFirst => do
    if ← listGoesOn isFirst then
      let head ← item
      let rest ← itemsFrom item fuel false
      return head :: rest
    return []

/-- The inside of a list and its closing bracket. -/
def list (item : Reader α) : Reader (List α) := do
  let all ← itemsFrom item (← fuel) true
  advance
  return all

/-- The members of an object up to its closing brace, each taken into what
    has been read so far. -/
def membersFrom (member : δ → String → Reader δ) :
    (fuel : List Char) → (isFirst : Bool) → δ → Reader δ
  | [], _, _ => throw .objectCutOff
  | _ :: fuel, isFirst, done => do
    if ← objectGoesOn isFirst then
      let name ← key
      membersFrom member fuel false (← member done name)
    else return done

/-- The inside of an object and its closing brace. -/
def members (member : δ → String → Reader δ) (done : δ) : Reader δ := do
  let all ← membersFrom member (← fuel) true done
  advance
  return all

/-- A member whose value is put under its key; of two with one key the later
    one stays. -/
def entry (item : Reader α) (done : List (String × α)) (name : String) :
    Reader (List (String × α)) := do
  colon
  return putMember name (← item) done

/-! ## Skipping -/

/-- Skips the rest of a list, from an item on. -/
def skipItems (item : Reader Unit) : (fuel : List Char) → Reader Unit
  | [] => throw .listCutOff
  | _ :: fuel => do
    item
    match ← next? with
    | some ',' => do
      advance
      skipItems item fuel
    | some ']' => advance
    | some _ => throw .commaOrBracketExpected
    | none => throw .listCutOff

/-- Skips the rest of an object, from a key on. -/
def skipMembers (item : Reader Unit) : (fuel : List Char) → Reader Unit
  | [] => throw .objectCutOff
  | _ :: fuel => do
    match ← next? with
    | some '"' => advance
    | some _ => throw .keyNotString
    | none => throw .objectCutOff
    skipString
    colon
    item
    match ← next? with
    | some ',' => do
      advance
      skipMembers item fuel
    | some '\x7d' => advance
    | some _ => throw .commaOrBraceExpected
    | none => throw .objectCutOff

/-- Skips a value by the skipper of what is inside it. -/
def skipWith (item : Reader Unit) : Reader Unit := do
  match ← start with
  | 'n' => word "null"
  | 't' => word "true"
  | 'f' => word "false"
  | '"' => do
    advance
    skipString
  | '[' => do
    advance
    match ← next? with
    | some ']' => advance
    | some _ => skipItems item (← fuel)
    | none => throw .listCutOff
  | '\x7b' => do
    advance
    match ← next? with
    | some '\x7d' => advance
    | some _ => skipMembers item (← fuel)
    | none => throw .objectCutOff
  | c => if c = '-' || isDigit c then skipNumber else throw .valueExpected

/-- Skips a value with no more containers in each other than there are
    characters in `depth`. -/
def skipWithin : (depth : List Char) → Reader Unit
  | [] => throw .valueExpected
  | _ :: depth => skipWith (skipWithin depth)

/-- Skips a value. Unlike a value that is kept it may be nested at will: a
    text has room for no more levels than it has characters. -/
def skipValue : Reader Unit := do
  skipWithin (← fuel)

/-! ## Values -/

/-- Takes the bracket of a container if there is room to open it. -/
def enter (inside : Option α) : Reader α := do
  match inside with
  | none => throw .tooDeep
  | some reader =>
    advance
    return reader

/-- Reads a value by the reader of what is inside it. -/
def valueWith (inside : Option (Reader Value)) : Reader Value := do
  match ← start with
  | 'n' => do
    word "null"
    return .null
  | 't' => do
    word "true"
    return .boolean true
  | 'f' => do
    word "false"
    return .boolean false
  | '"' => do
    advance
    return .string (← stringBody)
  | '[' => do
    let item ← enter inside
    return .array (← list item)
  | '\x7b' => do
    let item ← enter inside
    return .object (← members (entry item) [])
  | c =>
    if c = '-' || isDigit c then return .number (← number) else throw .valueExpected

/-- Reads a value with at most `room` containers in each other. -/
def value : (room : Nat) → Reader Value
  | 0 => valueWith none
  | room + 1 => valueWith (some (value room))

/-! ## Typed data -/

/-- A string. -/
def string : Reader String := do
  match ← start with
  | '"' => do
    advance
    stringBody
  | c => refuse c "a string"

/-- A string or null. -/
def string? : Reader (Option String) := do
  match ← next? with
  | some 'n' => do
    word "null"
    return none
  | _ => return some (← string)

/-- Null where nothing else makes sense. -/
def unit : Reader Unit := do
  match ← start with
  | 'n' => word "null"
  | c => refuse c "unit"

/-- A natural number of 64 bits. -/
def count : Reader UInt64 := do
  let c ← start
  if c = '-' || isDigit c then
    match ← number with
    | .integer n _ =>
      if n < 0 then throw (.negative n "usize")
      return UInt64.ofNat n.toNat
    | .real x => throw (.wrongType (.number (.real x)) "usize")
  else refuse c "usize"

/-- A list of what `item` reads. -/
def listOf (item : Option (Reader α)) : Reader (List α) := do
  match ← start with
  | '[' => do
    let item ← enter item
    list item
  | c => refuse c "a sequence"

/-- An object with any keys, as members in key order. -/
def mapOf (item : Option (Reader α)) : Reader (List (String × α)) := do
  match ← start with
  | '\x7b' => do
    let item ← enter item
    members (entry item) []
  | c => refuse c "a map"

/-! ## Whole texts -/

/-- Reads a whole text; only blanks may follow. -/
def parse (reader : Reader α) (text : String) : Except Fault α := do
  let (result, rest) ← reader text.toList
  if (rest.dropWhile isBlank).isEmpty then return result
  throw .trailingCharacters

/-- The containers that may be open at once in any document. -/
def room : Nat := 127

end Reader

/-- Reads a text as a value. -/
def Value.parse (text : String) : Except Fault Value :=
  (Reader.value Reader.room).parse text

end Descent.Json
