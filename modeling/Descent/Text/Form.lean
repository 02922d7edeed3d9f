import Descent.Text.Quoted

/-!
# Forms

The text that shows a value with its structure: the name of its type, its
fields by name, its items in brackets. A form is the structure; it can be
written on one line, or expanded with one field on each line. A record may
have fields that are not shown, for which two dots stand.

## Main definitions

* `Form`: The structure that is shown.
* `Form.compact`: A form on one line.
* `Form.expanded`: A form over several lines.
-/

namespace Descent.Text

/-- A value with its structure. -/
inductive Form where
  /-- A text that is shown as it is. -/
  | word (text : String)
  /-- A record; `hasMore` if some of its fields are not shown. -/
  | record (name : String) (fields : List (String × Form)) (hasMore : Bool)
  /-- A name with items in parentheses. -/
  | tuple (name : String) (items : List Form)
  | list (items : List Form)

namespace Form

/-- A text, quoted. -/
def string (s : String) : Form := .word (quoted s)

/-- A value that may be missing. -/
def option : Option Form → Form
  | none => .word "None"
  | some form => .tuple "Some" [form]

mutual

/-- A form on one line. -/
def compact : Form → String
  | .word text => text
  | .record name fields hasMore =>
    name ++ " \x7b " ++
      ", ".intercalate (compactFields fields ++ if hasMore then [".."] else []) ++ " \x7d"
  | .tuple name items => name ++ "(" ++ ", ".intercalate (compactItems items) ++ ")"
  | .list items => "[" ++ ", ".intercalate (compactItems items) ++ "]"

/-- Items, each on one line. -/
def compactItems : List Form → List String
  | [] => []
  | item :: rest => item.compact :: compactItems rest

/-- Fields behind their names. -/
def compactFields : List (String × Form) → List String
  | [] => []
  | (name, form) :: rest => (name ++ ": " ++ form.compact) :: compactFields rest

end

/-- Four blanks for each level. -/
def indent (depth : Nat) : String :=
  String.ofList (List.replicate (4 * depth) ' ')

/-- Lines between an opening and a closing bracket, one level further in. -/
def block (opening closing : String) (depth : Nat) (lines : List String) : String :=
  opening ++ "\n" ++ String.join (lines.map fun line => indent (depth + 1) ++ line ++ "\n") ++
    indent depth ++ closing

mutual

/-- A form over several lines, its first line apart at this depth. -/
def expandedAt (depth : Nat) : Form → String
  | .word text => text
  | .record name fields hasMore =>
    block (name ++ " \x7b") "\x7d" depth
      (expandedFields (depth + 1) fields ++ if hasMore then [".."] else [])
  | .tuple name items => block (name ++ "(") ")" depth (expandedItems (depth + 1) items)
  | .list [] => "[]"
  | .list items => block "[" "]" depth (expandedItems (depth + 1) items)

/-- Items with the comma behind each. -/
def expandedItems (depth : Nat) : List Form → List String
  | [] => []
  | item :: rest => (expandedAt depth item ++ ",") :: expandedItems depth rest

/-- Fields behind their names, with the comma behind each. -/
def expandedFields (depth : Nat) : List (String × Form) → List String
  | [] => []
  | (name, form) :: rest =>
    (name ++ ": " ++ expandedAt depth form ++ ",") :: expandedFields depth rest

end

/-- A form over several lines. -/
def expanded (form : Form) : String := expandedAt 0 form

end Form

end Descent.Text
