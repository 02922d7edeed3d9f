import Descent.Proofs.Json.Members
import Descent.Proofs.Json.Valuation
import Descent.Proofs.Wire.Tree
import Descent.Wire.Settings

/-!
# The Places of a Document

The document of a node has places for different kinds of data: for nodes,
lists of nodes, ranges, positions and annotations; and there are options, in
documents of their own. A place says which data is read there, and so which
members of an object have a meaning and which do not.

Four of the places hold records. What has to be known of them is the same for
all: they have fields that do not get in each other's way, some of the fields
are required and some are other places. A `Sheet` holds all of this for one
place, so that what can be done to the members of a record need not be told
four times.

## Main definitions

* `Place`: The kinds of places, with the data and the reader for each.
* `Sheet`: What has to be known of a record.
* `Place.sheet`: The sheets of the four records.

## Theorems

* `settles_reader`: What is read in a place depends on the tree alone.
-/

namespace Descent

open Json Reader

variable {δ : Type}

/-- The places of documents. -/
inductive Place where
  | node
  | nodes
  | range
  | position
  | notes
  | note
  | options

namespace Place

/-- The data that is read in a place. -/
def Content : Place → Type
  | .node => Node
  | .nodes => List Node
  | .range => Range
  | .position => Position
  | .notes => Meta
  | .note => Value
  | .options => Options

/-- The reader of a place, with so much room. -/
def reader : (p : Place) → Nat → Reader p.Content
  | .node, room => Node.reader room
  | .nodes, room => Node.childrenReader room
  | .range, room => Range.reader room
  | .position, room => Position.reader room
  | .notes, room => Meta.reader room
  | .note, room => value room
  | .options, room => Options.reader room

/-- The names of the fields, in a place for a record. -/
def names : Place → List String
  | .node => ["kind", "value", "range", "meta", "params", "type"]
  | .range => ["start", "end"]
  | .position => ["line", "column", "line_text"]
  | .options => ["filename", "color"]
  | _ => []

/-- The fields that must be there. -/
def required : Place → List String
  | .node => ["kind", "value", "range"]
  | .range => ["start", "end"]
  | .position => ["line", "column", "line_text"]
  | _ => []

/-- The fields that may be left out, each with what it is without. -/
def omissible : Place → List (String × Doc)
  | .node => [("meta", .object []), ("params", .array []), ("type", .null)]
  | .options => [("filename", .null), ("color", .string (Literal.ofString "auto"))]
  | _ => []

/-- The fields that are places of their own. -/
def places : Place → List (String × Place)
  | .node => [("range", .range), ("meta", .notes), ("params", .nodes)]
  | .range => [("start", .position), ("end", .position)]
  | _ => []

/-- The place of an item. -/
def item : Place → Option Place
  | .nodes => some .node
  | .note => some .note
  | _ => none

/-- A place for a record. -/
def isRecord (p : Place) : Bool := !p.names.isEmpty

/-- A place for an object with any keys. -/
def isMap : Place → Bool
  | .notes | .note => true
  | _ => false

/-- The place under a key: that of a field, or an annotation in a map. -/
def IsInside (p : Place) (name : String) (q : Place) : Prop :=
  (name, q) ∈ p.places ∨ (p.isMap = true ∧ q = .note)

end Place

/-! ## Last steps -/

/-- What a draft holds in a required field. -/
def held {α : Type} (name : String) (field : Option α) : Except Fault α :=
  match field with
  | some a => .ok a
  | none => .error (.missingField name)

/-- What has to be known of a record in a place, with so much room inside
    it. -/
structure Sheet (p : Place) (room : Nat) where
  Draft : Type
  fields : List (RecordField Draft)
  blank : Draft
  finish : Draft → Except Fault p.Content
  lawful : Lawful fields
  names : fields.map (·.name) = p.names
  required : ∀ f ∈ fields, f.isRequired = decide (f.name ∈ p.required)
  free : ∀ f ∈ fields, f.isFilled blank = false
  /-- An object is read member by member. -/
  makes : ∀ members,
    Makes (p.reader (room + 1)) (.object members) (made fields blank finish members)
  /-- A field that is a place is read by the reader of that place. -/
  inside : ∀ f ∈ fields, ∀ q, (f.name, q) ∈ p.places →
    ∃ set : Draft → q.Content → Draft, ∀ draft, f.fill draft = set draft <$> q.reader room
  /-- A field that may be left out makes no difference. -/
  omissible : ∀ f ∈ fields, ∀ d, (f.name, d) ∈ p.omissible → ∀ before after,
    f.isFilled before = false → d.outcome (f.fill before) = .ok after →
      finish after = finish before

/-- A record is finished by a step that does not look at the text. -/
theorem makes_record {α : Type} (name : String) (fields : List (RecordField δ))
    (hfields : FieldsSettle fields) (blank : δ) (next : δ → Reader α)
    (finish : δ → Except Fault α) (hnext : ∀ d rest, next d rest = (finish d).map (·, rest))
    (members : List (Literal × Doc)) :
    Makes (recordOf name (some fields) blank >>= next) (.object members)
      (made fields blank finish members) :=
  (makes_recordOf name fields hfields blank members).bind next finish hnext

theorem settles_record {α : Type} (name : String) (fields : Option (List (RecordField δ)))
    (hfields : ∀ all, fields = some all → FieldsSettle all) (blank : δ) (next : δ → Reader α)
    (finish : δ → Except Fault α) (hnext : ∀ d rest, next d rest = (finish d).map (·, rest)) :
    Settles (recordOf name fields blank >>= next) :=
  settles_of_makes fun d =>
    ⟨_, (settles_recordOf name fields blank hfields d).bind next finish hnext⟩

/-- Fields that are there only with room. -/
theorem eq_of_room {α : Type} {room : Nat} {fields all : α}
    (hall : (if room = 0 then none else some fields) = some all) : all = fields := by
  by_cases hroom : room = 0
  · rw [if_pos hroom] at hall
    cases hall
  · rw [if_neg hroom] at hall
    exact (Option.some.inj hall).symm

/-! ## Positions -/

namespace Position

/-- The position of a draft. -/
def finish (d : Draft) : Except Fault Position := do
  return ⟨← held "line" d.line, ← held "column" d.column, ← held "line_text" d.lineText⟩

theorem finish_apply (d : Draft) (rest : List Char) :
    (do return ⟨← taken "line" d.line, ← taken "column" d.column, ← taken "line_text" d.lineText⟩ :
      Reader Position) rest = (finish d).map (·, rest) := by
  rcases d with ⟨line, column, lineText⟩
  cases line <;> cases column <;> cases lineText <;> rfl

theorem lawful_fields : Lawful fields := by
  refine lawful_of_parts (show ["line", "column", "line_text"].Nodup by decide) ?_ ?_
  · exact List.forall_mem_cons.2 ⟨isPart_required _ _ _ _ settles_count fun _ _ => rfl,
      List.forall_mem_cons.2 ⟨isPart_required _ _ _ _ settles_count fun _ _ => rfl,
        List.forall_mem_cons.2 ⟨isPart_required _ _ _ _ settles_string fun _ _ => rfl, nofun⟩⟩⟩
  · intro f hf g hg hne
    simp only [fields, List.mem_cons, List.not_mem_nil, or_false] at hf hg
    rcases hf with rfl | rfl | rfl <;> rcases hg with rfl | rfl | rfl
    all_goals
      first
      | exact absurd rfl hne
      | exact apart_of_sets ⟨fun _ => rfl, fun _ => rfl⟩ ⟨fun _ => rfl, fun _ => rfl⟩
          (fun _ _ => rfl) (fun _ _ _ => rfl)

theorem settles_reader (room : Nat) : Settles (reader room) :=
  settles_record "Position" _ (fun _ hall => eq_of_room hall ▸ lawful_fields.settles) _ _ finish
    finish_apply

/-- The sheet of a position. -/
def sheet (room : Nat) : Sheet .position room where
  Draft := Draft
  fields := fields
  blank := ⟨none, none, none⟩
  finish := finish
  lawful := lawful_fields
  names := rfl
  required := by
    intro f hf
    simp only [fields, List.mem_cons, List.not_mem_nil, or_false] at hf
    rcases hf with rfl | rfl | rfl <;> rfl
  free := by
    intro f hf
    simp only [fields, List.mem_cons, List.not_mem_nil, or_false] at hf
    rcases hf with rfl | rfl | rfl <;> rfl
  makes := makes_record "Position" fields lawful_fields.settles _ _ finish finish_apply
  inside := nofun
  omissible := nofun

end Position

/-! ## Ranges -/

namespace Range

/-- The range of a draft. -/
def finish (d : Draft) : Except Fault Range := do
  return ⟨← held "start" d.start, ← held "end" d.stop⟩

theorem finish_apply (d : Draft) (rest : List Char) :
    (do return ⟨← taken "start" d.start, ← taken "end" d.stop⟩ : Reader Range) rest =
      (finish d).map (·, rest) := by
  rcases d with ⟨start, stop⟩
  cases start <;> cases stop <;> rfl

theorem lawful_fields (room : Nat) : Lawful (fields room) := by
  have hposition := Position.settles_reader room
  refine lawful_of_parts (show ["start", "end"].Nodup by decide) ?_ ?_
  · exact List.forall_mem_cons.2 ⟨isPart_required _ _ _ _ hposition fun _ _ => rfl,
      List.forall_mem_cons.2 ⟨isPart_required _ _ _ _ hposition fun _ _ => rfl, nofun⟩⟩
  · intro f hf g hg hne
    simp only [fields, List.mem_cons, List.not_mem_nil, or_false] at hf hg
    rcases hf with rfl | rfl <;> rcases hg with rfl | rfl
    all_goals
      first
      | exact absurd rfl hne
      | exact apart_of_sets ⟨fun _ => rfl, fun _ => rfl⟩ ⟨fun _ => rfl, fun _ => rfl⟩
          (fun _ _ => rfl) (fun _ _ _ => rfl)

theorem settles_reader (room : Nat) : Settles (reader room) :=
  settles_record "SourceRange" _ (fun _ hall => eq_of_room hall ▸ (lawful_fields _).settles) _ _
    finish finish_apply

/-- The sheet of a range. -/
def sheet (room : Nat) : Sheet .range room where
  Draft := Draft
  fields := fields room
  blank := ⟨none, none⟩
  finish := finish
  lawful := lawful_fields room
  names := rfl
  required := by
    intro f hf
    simp only [fields, List.mem_cons, List.not_mem_nil, or_false] at hf
    rcases hf with rfl | rfl <;> rfl
  free := by
    intro f hf
    simp only [fields, List.mem_cons, List.not_mem_nil, or_false] at hf
    rcases hf with rfl | rfl <;> rfl
  makes := makes_record "SourceRange" _ (lawful_fields room).settles _ _ finish finish_apply
  inside := by
    intro f hf q hq
    simp only [fields, List.mem_cons, List.not_mem_nil, or_false] at hf
    rcases hf with rfl | rfl
    all_goals
      have hsame : q = .position := by simpa [Place.places, RecordField.required] using hq
      subst hsame
      exact ⟨_, fun _ => rfl⟩
  omissible := nofun

end Range

/-! ## Annotations -/

theorem Meta.settles_reader (room : Nat) : Settles (Meta.reader room) :=
  settles_map ofEntries (settles_mapOf _ fun _ hitem => eq_of_room hitem ▸ settles_value _)

theorem Meta.outcome_object (room : Nat) (members : List (Literal × Doc)) :
    (Doc.object members).outcome (Meta.reader (room + 1)) =
      (Reader.entries (value room) [] members).map ofEntries :=
  ((makes_mapOf (value room) (settles_value room) members).map ofEntries).outcome_eq

/-- No annotations are read where none are written. -/
theorem Meta.eq_empty_of_outcome (room : Nat) (m : Meta)
    (hm : (Doc.object []).outcome (Meta.reader room) = .ok m) : m = .empty := by
  cases room with
  | zero => cases hm
  | succ room =>
      rw [Meta.outcome_object] at hm
      exact (Except.ok.inj hm).symm

/-! ## Nodes -/

namespace Node

/-- The node of a draft. -/
def finish (d : Draft) : Except Fault Node := do
  return ⟨← held "kind" d.kind, ← held "value" d.value, ← held "range" d.range,
    d.info.getD .empty, d.params.getD [], d.typeName.getD none⟩

theorem finish_apply (d : Draft) (rest : List Char) :
    (do return ⟨← taken "kind" d.kind, ← taken "value" d.value, ← taken "range" d.range,
      d.info.getD .empty, d.params.getD [], d.typeName.getD none⟩ : Reader Node) rest =
      (finish d).map (·, rest) := by
  rcases d with ⟨kind, value, range, info, params, typeName⟩
  cases kind <;> cases value <;> cases range <;> rfl

/-- The fields of a node, whatever its children are read by. -/
theorem lawful_fields (room : Nat) (children : Reader (List Node)) (hchildren : Settles children) :
    Lawful (fields room children) := by
  refine lawful_of_parts
    (show ["kind", "value", "range", "meta", "params", "type"].Nodup by decide) ?_ ?_
  · exact List.forall_mem_cons.2 ⟨isPart_required _ _ _ _ (settles_variant _ _ _) fun _ _ => rfl,
      List.forall_mem_cons.2 ⟨isPart_required _ _ _ _ settles_string fun _ _ => rfl,
        List.forall_mem_cons.2 ⟨isPart_required _ _ _ _ (Range.settles_reader room) fun _ _ => rfl,
          List.forall_mem_cons.2 ⟨isPart_optional _ _ _ _ (Meta.settles_reader room) fun _ _ => rfl,
            List.forall_mem_cons.2 ⟨isPart_optional _ _ _ _ hchildren fun _ _ => rfl,
              List.forall_mem_cons.2 ⟨isPart_optional _ _ _ _ settles_string? fun _ _ => rfl,
                nofun⟩⟩⟩⟩⟩⟩
  · intro f hf g hg hne
    simp only [fields, List.mem_cons, List.not_mem_nil, or_false] at hf hg
    rcases hf with rfl | rfl | rfl | rfl | rfl | rfl <;>
      rcases hg with rfl | rfl | rfl | rfl | rfl | rfl
    all_goals
      first
      | exact absurd rfl hne
      | exact apart_of_sets ⟨fun _ => rfl, fun _ => rfl⟩ ⟨fun _ => rfl, fun _ => rfl⟩
          (fun _ _ => rfl) (fun _ _ _ => rfl)

theorem settles_readerOf (all : Option (List (RecordField Draft)))
    (hall : ∀ fields, all = some fields → FieldsSettle fields) : Settles (readerOf all) :=
  settles_record "Node" all hall _ _ finish finish_apply

/-- A node settles what it is given, whatever its children are. The induction
    is on the room, and children are two levels further in. -/
theorem settles_reader (room : Nat) : Settles (reader room) := by
  induction room using Nat.strongRecOn with
  | ind room ih =>
      match room with
      | 0 => exact settles_readerOf none nofun
      | 1 =>
          refine settles_readerOf _ (fun all hall => Option.some.inj hall ▸ ?_)
          exact (lawful_fields 0 _ (settles_listOf none nofun)).settles
      | room + 2 =>
          refine settles_readerOf _ (fun all hall => Option.some.inj hall ▸ ?_)
          refine (lawful_fields (room + 1) _ (settles_listOf _ (fun item hitem => ?_))).settles
          rw [← Option.some.inj hitem]
          exact ih room (by omega)

theorem settles_childrenReader (room : Nat) : Settles (childrenReader room) := by
  cases room with
  | zero => exact settles_listOf none nofun
  | succ room =>
      exact settles_listOf _ fun item hitem => Option.some.inj hitem ▸ settles_reader room

theorem outcome_array (room : Nat) (items : List Doc) :
    (Doc.array items).outcome (childrenReader (room + 1)) =
      items.mapM (Doc.outcome (reader room)) :=
  (makes_listOf (reader room) (settles_reader room) items).outcome_eq

/-- No children are read where none are written. -/
theorem eq_nil_of_outcome (room : Nat) (nodes : List Node)
    (hnodes : (Doc.array []).outcome (childrenReader room) = .ok nodes) : nodes = [] := by
  cases room with
  | zero => cases hnodes
  | succ room =>
      rw [outcome_array] at hnodes
      exact (Except.ok.inj hnodes).symm

/-- A draft without annotations, children or a type has none of them. -/
theorem finish_omissible (room : Nat) (f : RecordField Draft)
    (hf : f ∈ fields room (childrenReader room)) (d : Doc)
    (hd : (f.name, d) ∈ Place.omissible .node) (before after : Draft)
    (hfree : f.isFilled before = false) (hfill : d.outcome (f.fill before) = .ok after) :
    finish after = finish before := by
  rcases before with ⟨kind, value, range, info, params, typeName⟩
  simp only [fields, List.mem_cons, List.not_mem_nil, or_false] at hf
  rcases hf with rfl | rfl | rfl | rfl | rfl | rfl
  · simp [Place.omissible, RecordField.required] at hd
  · simp [Place.omissible, RecordField.required] at hd
  · simp [Place.omissible, RecordField.required] at hd
  · have hempty : d = .object [] := by
      simpa [Place.omissible, RecordField.optional, RecordField.required] using hd
    have hnone : info = none := Option.isNone_iff_eq_none.1 (Option.isSome_eq_false_iff.1 hfree)
    rcases exists_of_outcome_map _ _ d after hfill with ⟨m, hm, rfl⟩
    rw [hempty] at hm
    rw [Meta.eq_empty_of_outcome room m hm, hnone]
    rfl
  · have hempty : d = .array [] := by
      simpa [Place.omissible, RecordField.optional, RecordField.required] using hd
    have hnone : params = none := Option.isNone_iff_eq_none.1 (Option.isSome_eq_false_iff.1 hfree)
    rcases exists_of_outcome_map _ _ d after hfill with ⟨nodes, hnodes, rfl⟩
    rw [hempty] at hnodes
    rw [eq_nil_of_outcome room nodes hnodes, hnone]
    rfl
  · have hnull : d = .null := by
      simpa [Place.omissible, RecordField.optional, RecordField.required] using hd
    have hnone : typeName = none := Option.isNone_iff_eq_none.1 (Option.isSome_eq_false_iff.1 hfree)
    rcases exists_of_outcome_map _ _ d after hfill with ⟨name, hname, rfl⟩
    rw [hnull, makes_string?_null.outcome_eq] at hname
    rw [← Except.ok.inj hname, hnone]
    rfl

/-- The sheet of a node. -/
def sheet (room : Nat) : Sheet .node room where
  Draft := Draft
  fields := fields room (childrenReader room)
  blank := ⟨none, none, none, none, none, none⟩
  finish := finish
  lawful := lawful_fields room _ (settles_childrenReader room)
  names := rfl
  required := by
    intro f hf
    simp only [fields, List.mem_cons, List.not_mem_nil, or_false] at hf
    rcases hf with rfl | rfl | rfl | rfl | rfl | rfl <;> rfl
  free := by
    intro f hf
    simp only [fields, List.mem_cons, List.not_mem_nil, or_false] at hf
    rcases hf with rfl | rfl | rfl | rfl | rfl | rfl <;> rfl
  makes := by
    intro members
    change Makes (reader (room + 1)) _ _
    rw [reader_succ]
    have hfields := lawful_fields room _ (settles_childrenReader room)
    exact makes_record "Node" _ hfields.settles _ _ finish finish_apply members
  inside := by
    intro f hf q hq
    simp only [fields, List.mem_cons, List.not_mem_nil, or_false] at hf
    rcases hf with rfl | rfl | rfl | rfl | rfl | rfl <;>
      simp [Place.places, RecordField.required, RecordField.optional] at hq
    all_goals
      subst hq
      exact ⟨_, fun _ => rfl⟩
  omissible := finish_omissible room

end Node

/-! ## Options -/

namespace Options

/-- The options of a draft. -/
def finish (d : Draft) : Except Fault Options :=
  .ok ⟨d.filename.getD standard.filename, d.colour.getD standard.colour⟩

theorem lawful_fields (room : Nat) : Lawful (fields room) := by
  refine lawful_of_parts (show ["filename", "color"].Nodup by decide) ?_ ?_
  · exact List.forall_mem_cons.2 ⟨isPart_optional _ _ _ _ settles_string? fun _ _ => rfl,
      List.forall_mem_cons.2 ⟨isPart_optional _ _ _ _ (settles_variant _ _ _) fun _ _ => rfl,
        nofun⟩⟩
  · intro f hf g hg hne
    simp only [fields, List.mem_cons, List.not_mem_nil, or_false] at hf hg
    rcases hf with rfl | rfl <;> rcases hg with rfl | rfl
    all_goals
      first
      | exact absurd rfl hne
      | exact apart_of_sets ⟨fun _ => rfl, fun _ => rfl⟩ ⟨fun _ => rfl, fun _ => rfl⟩
          (fun _ _ => rfl) (fun _ _ _ => rfl)

theorem settles_reader (room : Nat) : Settles (reader room) :=
  settles_record "ContextOptions" _ (fun _ hall => eq_of_room hall ▸ (lawful_fields _).settles) _ _
    finish fun _ _ => rfl

/-- A draft without a field is the same as one with its standard. -/
theorem finish_omissible (room : Nat) (f : RecordField Draft) (hf : f ∈ fields room) (d : Doc)
    (hd : (f.name, d) ∈ Place.omissible .options) (before after : Draft)
    (hfree : f.isFilled before = false) (hfill : d.outcome (f.fill before) = .ok after) :
    finish after = finish before := by
  rcases before with ⟨filename, colour⟩
  simp only [fields, List.mem_cons, List.not_mem_nil, or_false] at hf
  rcases hf with rfl | rfl
  · have hnull : d = .null := by
      simpa [Place.omissible, RecordField.optional, RecordField.required] using hd
    have hnone : filename = none := Option.isNone_iff_eq_none.1 (Option.isSome_eq_false_iff.1 hfree)
    rcases exists_of_outcome_map _ _ d after hfill with ⟨name, hname, rfl⟩
    rw [hnull, makes_string?_null.outcome_eq] at hname
    rw [← Except.ok.inj hname, hnone]
    rfl
  · have hauto : d = .string (Literal.ofString "auto") := by
      simpa [Place.omissible, RecordField.optional, RecordField.required] using hd
    have hnone : colour = none := Option.isNone_iff_eq_none.1 (Option.isSome_eq_false_iff.1 hfree)
    rcases exists_of_outcome_map _ _ d after hfill with ⟨mode, hmode, rfl⟩
    rw [hauto, ColourMode.reader, (makes_variant_string _ _ _ _).outcome_eq,
      Literal.reading_ofString] at hmode
    have hsame : mode = .auto := (Except.ok.inj hmode).symm
    rw [hsame, hnone]
    rfl

/-- The sheet of options. -/
def sheet (room : Nat) : Sheet .options room where
  Draft := Draft
  fields := fields room
  blank := ⟨none, none⟩
  finish := finish
  lawful := lawful_fields room
  names := rfl
  required := by
    intro f hf
    simp only [fields, List.mem_cons, List.not_mem_nil, or_false] at hf
    rcases hf with rfl | rfl <;> rfl
  free := by
    intro f hf
    simp only [fields, List.mem_cons, List.not_mem_nil, or_false] at hf
    rcases hf with rfl | rfl <;> rfl
  makes := makes_record "ContextOptions" _ (lawful_fields room).settles _ _ finish fun _ _ => rfl
  inside := nofun
  omissible := finish_omissible room

end Options

/-! ## All places -/

namespace Place

/-- The sheet of a place for a record. -/
def sheet : (p : Place) → p.isRecord = true → (room : Nat) → Sheet p room
  | .node, _, room => Node.sheet room
  | .range, _, room => Range.sheet room
  | .position, _, room => Position.sheet room
  | .options, _, room => Options.sheet room

/-- What is read in a place depends on the tree alone. -/
theorem settles_reader (p : Place) (room : Nat) : Settles (p.reader room) := by
  cases p with
  | node => exact Node.settles_reader room
  | nodes => exact Node.settles_childrenReader room
  | range => exact Range.settles_reader room
  | position => exact Position.settles_reader room
  | notes => exact Meta.settles_reader room
  | note => exact settles_value room
  | options => exact Options.settles_reader room

end Place

end Descent
