import Descent.Proofs.Json.Values
import Descent.Wire.Settings
import Descent.Wire.Source

/-!
# Round Trips of Positions, Ranges, Tokens and Options

What is written is read back, with all of 64 bits for lines and columns and
any characters in a text. Each record says which field has which text and
what becomes of a draft that reads it; the law of records does the rest, and
what is left is to follow a draft through its fields.

A position needs room for one container and a range for two. These are the
only depths there are here, and any whole text has room for them.

## Theorems

* `reads_position`, `reads_range`: Places are read back if there is room.
* `reads_token`, `reads_options`: So are tokens and options.
-/

namespace Descent

open Json Reader

namespace Position

/-- The fields of a position with their texts. -/
def written (p : Position) : List (WrittenField Draft) :=
  [⟨fields[0], toString p.line.toNat, fun d => .ok { d with line := some p.line },
      fun _ => (reads_count p.line).map _⟩,
    ⟨fields[1], toString p.column.toNat, fun d => .ok { d with column := some p.column },
      fun _ => (reads_count p.column).map _⟩,
    ⟨fields[2], stringText p.lineText, fun d => .ok { d with lineText := some p.lineText },
      fun _ => (reads_string p.lineText).map _⟩]

/-- A position is read back if there is room for one container. -/
theorem reads_position (room : Nat) (p : Position) :
    Reads (reader room) p.document (within 1 room p) := by
  have hrecord : Reads (recordOf "Position" (if room = 0 then none else some fields)
      ⟨none, none, none⟩) p.document
      (within 1 room ⟨some p.line, some p.column, some p.lineText⟩) := by
    -- Without room the brace is refused; with room the three fields are read,
    -- whatever is left.
    cases room with
    | zero => exact reads_recordOf_none _ _ _
    | succ room =>
        rw [within_of_le 1 (room + 1) _ (by omega)]
        exact reads_recordOf "Position" fields _ p.written rfl (by decide)
  exact hrecord.bind_within _ p (fun _ => rfl)

end Position

namespace Range

/-- The fields of a range with their texts. -/
def written (room : Nat) (r : Range) : List (WrittenField Draft) :=
  [⟨(fields room).get ⟨0, by simp [fields]⟩, r.start.document,
      fun d => (within 1 room r.start).map fun p => { d with start := some p },
      fun _ => (r.start.reads_position room).map _⟩,
    ⟨(fields room).get ⟨1, by simp [fields]⟩, r.stop.document,
      fun d => (within 1 room r.stop).map fun p => { d with stop := some p },
      fun _ => (r.stop.reads_position room).map _⟩]

/-- A range is read back if there is room for two containers. -/
theorem reads_range (room : Nat) (r : Range) :
    Reads (reader room) r.document (within 2 room r) := by
  have hrecord : Reads (recordOf "SourceRange" (if room = 0 then none else some (fields (room - 1)))
      ⟨none, none⟩) r.document (within 2 room ⟨some r.start, some r.stop⟩) := by
    cases room with
    | zero => exact reads_recordOf_none _ _ _
    | succ room =>
        have hfields := reads_recordOf "SourceRange" (fields room) ⟨none, none⟩ (r.written room) rfl
          (show ["start", "end"].Nodup by decide)
        -- Both positions have the same room, so the first of them decides.
        by_cases hroom : 1 ≤ room
        · simp only [written, within_of_le 1 room _ hroom] at hfields
          rw [within_of_le 2 (room + 1) _ (by omega)]
          exact hfields
        · simp only [written, within_of_lt 1 room _ (by omega)] at hfields
          rw [within_of_lt 2 (room + 1) _ (by omega)]
          exact hfields
  exact hrecord.bind_within _ r (fun _ => rfl)

end Range

namespace TokenKind

/-- A kind is read back, and needs no room for that. -/
theorem reads_kind (room : Nat) (kind : TokenKind) :
    Reads (reader room) kind.document (.ok kind) :=
  reads_variant name all _ kind kind.ofName?_name

end TokenKind

namespace Token

/-- The fields of a token with their texts. -/
def written (room : Nat) (t : Token) : List (WrittenField Draft) :=
  [⟨(fields room).get ⟨0, by simp [fields]⟩, stringText t.value,
      fun d => .ok { d with value := some t.value }, fun _ => (reads_string t.value).map _⟩,
    ⟨(fields room).get ⟨1, by simp [fields]⟩, t.kind.document,
      fun d => .ok { d with kind := some t.kind }, fun _ => (t.kind.reads_kind room).map _⟩,
    ⟨(fields room).get ⟨2, by simp [fields]⟩, t.start.document,
      fun d => (within 1 room t.start).map fun p => { d with start := some p },
      fun _ => (t.start.reads_position room).map _⟩]

/-- A token is read back if there is room for two containers. -/
theorem reads_token (room : Nat) (t : Token) :
    Reads (reader room) t.document (within 2 room t) := by
  have hrecord : Reads (recordOf "Token" (if room = 0 then none else some (fields (room - 1)))
      ⟨none, none, none⟩) t.document (within 2 room ⟨some t.value, some t.kind, some t.start⟩) := by
    cases room with
    | zero => exact reads_recordOf_none _ _ _
    | succ room =>
        have hfields := reads_recordOf "Token" (fields room) ⟨none, none, none⟩ (t.written room) rfl
          (show ["value", "kind", "start"].Nodup by decide)
        -- The first two fields are always read, so all depends on the last.
        by_cases hroom : 1 ≤ room
        · simp only [written, within_of_le 1 room _ hroom] at hfields
          rw [within_of_le 2 (room + 1) _ (by omega)]
          exact hfields
        · simp only [written, within_of_lt 1 room _ (by omega)] at hfields
          rw [within_of_lt 2 (room + 1) _ (by omega)]
          exact hfields
  exact hrecord.bind_within _ t (fun _ => rfl)

end Token

namespace ColourMode

/-- Every mode is found under its name. -/
theorem find?_name (mode : ColourMode) : all.find? (·.name = mode.name) = some mode := by
  cases mode <;> decide

/-- A mode is read back, and needs no room for that. -/
theorem reads_mode (room : Nat) (mode : ColourMode) :
    Reads (reader room) mode.document (.ok mode) :=
  reads_variant name all _ mode mode.find?_name

end ColourMode

namespace Options

/-- The fields of options with their texts. -/
def written (room : Nat) (o : Options) : List (WrittenField Draft) :=
  [⟨(fields room).get ⟨0, by simp [fields]⟩, optionText stringText o.filename,
      fun d => .ok { d with filename := some o.filename },
      fun _ => (reads_string? o.filename).map _⟩,
    ⟨(fields room).get ⟨1, by simp [fields]⟩, o.colour.document,
      fun d => .ok { d with colour := some o.colour }, fun _ => (o.colour.reads_mode room).map _⟩]

/-- Options are read back if there is room for one container. -/
theorem reads_options (room : Nat) (o : Options) :
    Reads (reader room) o.document (within 1 room o) := by
  have hrecord : Reads (recordOf "ContextOptions"
      (if room = 0 then none else some (fields (room - 1))) ⟨none, none⟩) o.document
      (within 1 room ⟨some o.filename, some o.colour⟩) := by
    cases room with
    | zero => exact reads_recordOf_none _ _ _
    | succ room =>
        rw [within_of_le 1 (room + 1) _ (by omega)]
        exact reads_recordOf "ContextOptions" (fields room) _ (o.written room) rfl
          (show ["filename", "color"].Nodup by decide)
  exact hrecord.bind_within _ o (fun _ => rfl)

end Options

end Descent
