import Descent.Json.Value

/-!
# Annotations

Every node carries annotations: values of documents under names of the
caller's choice. They are kept in the order of their names, and so are the
objects inside them; the type holds the proof, so that two sets of
annotations are equal if they have the same entries.

## Main definitions

* `Meta`: Annotations in the order of their names.
* `Meta.insert`, `Meta.merge`: Setting one annotation, or many.
* `Meta.get?`: The annotation of a name.
* `Meta.ofEntries`: Annotations from a list; of one name the last entry wins.
-/

namespace Descent

open Json

/-- Annotations in the order of their names. -/
@[ext]
structure Meta where
  entries : List (String × Value)
  inOrder : Value.MembersInOrder entries

namespace Meta

/-- No annotations. -/
def empty : Meta := ⟨[], by simp [Value.MembersInOrder]⟩

/-- Sets an annotation; its objects are put in order first. -/
def insert (m : Meta) (name : String) (value : Value) : Meta :=
  ⟨putMember name value.sorted m.entries,
    Value.membersInOrder_putMember (Value.inOrder_sorted value) m.inOrder⟩

/-- Sets one annotation after the other. -/
def insertAll (m : Meta) (entries : List (String × Value)) : Meta :=
  entries.foldl (fun m entry => m.insert entry.1 entry.2) m

/-- The annotations of both, those of the second on top. -/
def merge (m other : Meta) : Meta :=
  m.insertAll other.entries

/-- Annotations from a list; of one name the last entry wins. -/
def ofEntries (entries : List (String × Value)) : Meta :=
  empty.insertAll entries

/-- The annotation of a name. -/
def get? (m : Meta) (name : String) : Option Value :=
  m.entries.lookup name

/-- Equality with numbers compared as numbers. -/
def agrees (m other : Meta) : Bool :=
  Value.membersAgree m.entries other.entries

end Meta

end Descent
