import Descent.Node

/-!
# Outlines

A tree as indented lines: one line for each node, a node before its children
and two blanks further out. A line gives the kind, the value in quotes unless
it is empty, and the type if there is one.

## Main definitions

* `Node.headline`: The line of a node, without its indent.
* `Node.outline`: All lines of a tree.
-/

namespace Descent

open Text

namespace Node

/-- The line of a node, without its indent. -/
def headline (kind : NodeKind) (value : String) (typeName : Option String) : String :=
  kind.name ++ (if value.isEmpty then "" else " " ++ quoted value) ++
    match typeName with
    | some name => " : " ++ name
    | none => ""

/-- Two blanks for each level. -/
def margin (depth : Nat) : String :=
  String.ofList (List.replicate (2 * depth) ' ')

mutual

/-- The lines of a tree whose root is so deep. -/
def outlineAt (depth : Nat) : Node → String
  | ⟨kind, value, _, _, params, typeName⟩ =>
    margin depth ++ headline kind value typeName ++ "\n" ++ outlinesAt (depth + 1) params

/-- The lines of trees, one after the other. -/
def outlinesAt (depth : Nat) : List Node → String
  | [] => ""
  | node :: rest => outlineAt depth node ++ outlinesAt depth rest

end

/-- The lines of a tree. -/
def outline (n : Node) : String := outlineAt 0 n

end Node

end Descent
