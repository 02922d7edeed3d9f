import Descent.Node
import Descent.Wire.Source

/-!
# Documents for Nodes

A node is an object with its kind, value, range, annotations, children and
type. Annotations and children may be left out where there are none, and so
may the type. A tree is as deep in containers as its nodes and annotations
are nested; a reader refuses a tree that is deeper than its room.

## Main definitions

* `Node.document`: Writing a node.
* `Node.reader`: Reading a node, opening at most so many containers.
* `Node.ofDocument`: Reading a whole text.
-/

namespace Descent

open Json Reader

namespace NodeKind

/-- The document of a kind. -/
def document (kind : NodeKind) : String := stringText kind.name

/-- Reads a kind. -/
def reader (room : Nat) : Reader NodeKind := variant name all (room ≠ 0)

/-- Reads a text as a kind. -/
def ofDocument (text : String) : Except Fault NodeKind :=
  (reader Reader.room).parse text

end NodeKind

namespace Meta

/-- The document of annotations. -/
def document (m : Meta) : String := (Value.object m.entries).text

/-- Reads annotations. -/
def reader (room : Nat) : Reader Meta := do
  return ofEntries (← mapOf (if room = 0 then none else some (value (room - 1))))

end Meta

namespace Node

mutual

/-- The document of a node. -/
def document : Node → String
  | ⟨kind, value, range, info, params, typeName⟩ =>
    objectText
      [("kind", kind.document), ("value", stringText value), ("range", range.document),
        ("meta", info.document), ("params", listText (documents params)),
        ("type", optionText stringText typeName)]

/-- The documents of nodes, one by one. -/
def documents : List Node → List String
  | [] => []
  | node :: rest => document node :: documents rest

end

/-- A node of which some fields have been read. -/
structure Draft where
  kind : Option NodeKind
  value : Option String
  range : Option Range
  info : Option Meta
  params : Option (List Node)
  typeName : Option (Option String)

/-- The fields of a node, with so much room inside it and this reader for its
    children. -/
def fields (room : Nat) (children : Reader (List Node)) : List (RecordField Draft) :=
  [.required "kind" (·.kind) (fun d a => { d with kind := some a }) (NodeKind.reader room),
    .required "value" (·.value) (fun d a => { d with value := some a }) string,
    .required "range" (·.range) (fun d a => { d with range := some a }) (Range.reader room),
    .optional "meta" (·.info) (fun d a => { d with info := some a }) (Meta.reader room),
    .optional "params" (·.params) (fun d a => { d with params := some a }) children,
    .optional "type" (·.typeName) (fun d a => { d with typeName := some a }) string?]

/-- Reads a node from these fields. -/
def readerOf (fields : Option (List (RecordField Draft))) : Reader Node := do
  let d ← recordOf "Node" fields ⟨none, none, none, none, none, none⟩
  return ⟨← taken "kind" d.kind, ← taken "value" d.value, ← taken "range" d.range,
    d.info.getD .empty, d.params.getD [], d.typeName.getD none⟩

/-- Reads a node. A child is two levels further in, behind the brackets of
    the node and of the list of its children. -/
def reader : (room : Nat) → Reader Node
  | 0 => readerOf none
  | 1 => readerOf (some (fields 0 (listOf none)))
  | room + 2 => readerOf (some (fields (room + 1) (listOf (some (reader room)))))

/-- Reads a text as a node. -/
def ofDocument (text : String) : Except Fault Node :=
  (reader room).parse text

end Node

end Descent
