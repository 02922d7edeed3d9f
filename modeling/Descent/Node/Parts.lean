import Descent.Node

/-!
# Parts

What a caller wants in a node is collected first and laid over an open node
in one go. A value or a type that was asked for replaces the node's own,
annotations are merged name by name, and children, if any were given,
replace the node's own as a whole.

## Main definitions

* `Part`: One thing that is asked for.
* `NodeParts`: All that has been asked for so far.
* `NodeParts.add`, `NodeParts.ofList`: Asking for more.
* `NodeParts.apply`: Laying the parts over an open node.

## Theorems

* `NodeParts.start_apply`: A node starts where it was opened.
-/

namespace Descent

open Json

/-- One thing that is asked for in a node. -/
inductive Part where
  | value (s : String)
  | info (name : String) (value : Value)
  | param (node : Node)
  | params (nodes : List Node)
  | typeName (s : String)

/-- All that has been asked for in a node. -/
structure NodeParts where
  value : Option String
  info : Meta
  params : List Node
  typeName : Option String

namespace NodeParts

/-- Nothing has been asked for. -/
def none : NodeParts := ⟨.none, .empty, [], .none⟩

/-- Asks for one more thing. Later wishes win over earlier ones, except that
    children add up. -/
def add (parts : NodeParts) : Part → NodeParts
  | .value s => { parts with value := some s }
  | .info name value => { parts with info := parts.info.insert name value }
  | .param node => { parts with params := parts.params ++ [node] }
  | .params nodes => { parts with params := parts.params ++ nodes }
  | .typeName s => { parts with typeName := some s }

/-- All these wishes, one after the other. -/
def ofList (wishes : List Part) : NodeParts :=
  wishes.foldl add none

/-- Lays the parts over an open node. -/
def apply (parts : NodeParts) (o : OpenNode) : OpenNode :=
  { value := parts.value.getD o.value
    start := o.start
    info := o.info.merge parts.info
    params := if parts.params.isEmpty then o.params else parts.params
    typeName := parts.typeName <|> o.typeName }

/-- Parts leave the start as it was. -/
@[simp]
theorem start_apply (parts : NodeParts) (o : OpenNode) : (parts.apply o).start = o.start := rfl

end NodeParts

end Descent
