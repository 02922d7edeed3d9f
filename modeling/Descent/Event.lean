import Descent.Diagnostic
import Descent.Expectation
import Descent.Node

/-!
# Events

What a parse leaves in a log. An event is a fact; its level and the fields
that a log shows follow from it. Fields are listed in the order of their
names.

## Main definitions

* `Event`: The facts worth a line in a log.
* `Event.level`, `Event.fields`: An event as a log shows it.
* `Logged`: A result with the events on the way to it.
-/

namespace Descent

/-- The levels of a log that are in use. -/
inductive Level where
  | trace
  | debug
  | warn
  deriving DecidableEq, Repr

/-- The name of a level in a log. -/
def Level.name : Level → String
  | .trace => "TRACE"
  | .debug => "DEBUG"
  | .warn => "WARN"

/-- The facts worth a line in a log. -/
inductive Event where
  /-- The feed gave the next token, or nothing. -/
  | advanced (token : Option Token)
  /-- The current token did not meet an expectation. -/
  | missed (expected : Expectation)
  /-- A problem was reported. -/
  | reported (code message filename : String)
  /-- A node is about to be closed in front of its start. -/
  | inverted (kind : NodeKind) (start stop : Position)
  /-- A node was closed. -/
  | closed (kind : NodeKind) (start stop : Position)
  deriving DecidableEq, Repr

namespace Event

/-- How important an event is. -/
def level : Event → Level
  | .advanced _ | .missed _ => .trace
  | .reported .. | .closed .. => .debug
  | .inverted .. => .warn

/-- The fields of an event that is about a node. -/
def nodeFields (message : String) (kind : NodeKind) (start stop : Position) :
    List (String × String) :=
  [("end", stop.text), ("kind", kind.name), ("message", message), ("start", start.text)]

/-- The fields of an event by name. A reported problem has two messages, that
    of the event and its own. -/
def fields : Event → List (String × String)
  | .advanced (some t) =>
    [("column", toString t.start.column.toNat), ("kind", t.kind.name),
      ("line", toString t.start.line.toNat), ("message", "advanced"), ("value", t.value)]
  | .advanced none => [("message", "advanced past end of input")]
  | .missed expected => [("expected", expected.form.compact), ("message", "eat missed")]
  | .reported code message filename =>
    [("code", code), ("filename", filename), ("message", "syntax error"), ("message", message)]
  | .inverted kind start stop => nodeFields "node closed before its start" kind start stop
  | .closed kind start stop => nodeFields "node closed" kind start stop

end Event

/-- A result with the events on the way to it. -/
structure Logged (α : Type) where
  result : α
  events : List Event

namespace Logged

variable {α β : Type}

/-- A result without events. -/
def silent (a : α) : Logged α := ⟨a, []⟩

/-- An event by itself. -/
def note (e : Event) : Logged Unit := ⟨(), [e]⟩

/-- A result, and then what is made of it, with the events of both. -/
def andThen (l : Logged α) (f : α → Logged β) : Logged β :=
  ⟨(f l.result).result, l.events ++ (f l.result).events⟩

instance : Monad Logged where
  pure := silent
  bind := andThen

@[simp]
theorem result_pure (a : α) : (pure a : Logged α).result = a := rfl

@[simp]
theorem events_pure (a : α) : (pure a : Logged α).events = [] := rfl

@[simp]
theorem result_bind (l : Logged α) (f : α → Logged β) :
    (l >>= f).result = (f l.result).result := rfl

@[simp]
theorem events_bind (l : Logged α) (f : α → Logged β) :
    (l >>= f).events = l.events ++ (f l.result).events := rfl

@[simp]
theorem result_note (e : Event) : (note e).result = () := rfl

@[simp]
theorem events_note (e : Event) : (note e).events = [e] := rfl

end Logged

end Descent
