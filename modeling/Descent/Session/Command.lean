import Descent.Cursor.Build
import Descent.Json.Fault

/-!
# Commands

A parse can be driven from outside, one command at a time. A command is an
operation of the cursor, a change to an open node, or a question. Nodes and
tokens that a later command needs are kept in registers and named there.

## Main definitions

* `Complaint`: A diagnostic that is asked for.
* `PartCommand`, `Edit`: Fields of a node, with children by name.
* `Command`: What can be asked of a session.
* `Answer`: What a session says to a command.
-/

namespace Descent

open Json

/-- A diagnostic that is asked for by itself. -/
inductive Complaint where
  | general (message : String) (detail : Option String)
  | unexpectedValue (value : String)
  | unexpected (description : Option String)
  | unknown (value : String)
  | unsupported
  deriving DecidableEq, Repr

/-- One thing that is asked for in a node; children are named. -/
inductive PartCommand where
  | value (s : String)
  | info (name : String) (value : Value)
  | param (node : String)
  | params (nodes : List String)
  | typeName (s : String)

/-- A change to the fields of an open node. -/
structure Edit where
  value : Option String
  start : Option Position
  info : List (String × Value)
  /-- The names of nodes to add as children. -/
  params : List String
  /-- A new type, or none at all. -/
  typeName : Option (Option String)

/-- What can be asked of a session. -/
inductive Command where
  | next
  | token
  | last
  | isAtEnd
  | filename
  | options
  | form (isExpanded : Bool)
  | setFilename (filename : String)
  | setFormatter (formatter : Formatter)
  /-- Options in the form of a document. -/
  | setOptions (document : String)
  | setToken (token : Option Token)
  | saveToken (name : String)
  | isOn (expected : Expectation)
  | eat (expected : Expectation)
  | expect (expected : Expectation) (save : Option String)
  | startNode (seed : Option String) (save : Option String)
  | edit (node : String) (edit : Edit)
  | apply (node : String) (parts : List PartCommand)
  | endNode (node : String) (kind : NodeKind) (save : Option String)
  | endNodeAt (node : String) (kind : NodeKind) (stop : Position) (save : Option String)
  /-- Closes a node without a look at its start. -/
  | close (node : String) (kind : NodeKind) (stop : Position) (save : Option String)
  | makeNode (parts : List PartCommand) (kind : NodeKind) (save : Option String)
  | makeNodeAt (parts : List PartCommand) (kind : NodeKind) (stop : Position)
      (save : Option String)
  | leaf (leaf : Leaf) (save : Option String)
  | reopen (node : String) (save : Option String)
  | compare (node other : String)
  | showNode (node : String)
  | complain (complaint : Complaint)
  /-- Writes the latest diagnostic. -/
  | write (inColour : Bool)
  /-- Prints the latest diagnostic where the surroundings allow no colour. -/
  | print (mode : ColourMode)

/-- What a session says to a command. -/
inductive Answer where
  | done
  | truth (b : Bool)
  | text (s : String)
  | token (t : Option Token)
  /-- A token that has been consumed. -/
  | consumed (t : Token)
  | options (o : Options)
  | openNode (o : OpenNode)
  | node (n : Node)
  | shown (n : Node)
  | failed (d : Diagnostic)
  /-- A document that cannot be read. -/
  | unreadable (fault : Fault)
  | unknownName (name : String)
  /-- There is no diagnostic to write. -/
  | nothingToWrite

end Descent
