/-!
# Registers

Names for things that are needed again. A register holds at most one thing
under a name; setting it again replaces what was there. All that matters of
registers is what they hold under each name, so that is what they are.

## Main definitions

* `Registers`: Things under names.
* `Registers.set`, `Registers.erase`: Setting and removing.

## Theorems

* `get?_set`, `get?_erase`: What is found after a change.
-/

namespace Descent

/-- Things under names. -/
structure Registers (α : Type) where
  /-- What stands under a name. -/
  get? : String → Option α

namespace Registers

variable {α : Type}

/-- No names yet. -/
def empty : Registers α := ⟨fun _ => none⟩

/-- Nothing under a name any more. -/
def erase (r : Registers α) (name : String) : Registers α :=
  ⟨fun other => if other = name then none else r.get? other⟩

/-- Something under a name. -/
def set (r : Registers α) (name : String) (a : α) : Registers α :=
  ⟨fun other => if other = name then some a else r.get? other⟩

/-- Something under a name, if there is a name. -/
def save (r : Registers α) (name : Option String) (a : α) : Registers α :=
  match name with
  | some name => r.set name a
  | none => r

/-- After a removal the name is free and all others are as before. -/
@[simp]
theorem get?_erase (r : Registers α) (name other : String) :
    (r.erase name).get? other = if other = name then none else r.get? other := rfl

/-- After something is set it is found, and all others are as before. -/
@[simp]
theorem get?_set (r : Registers α) (name other : String) (a : α) :
    (r.set name a).get? other = if other = name then some a else r.get? other := rfl

end Registers

end Descent
