import Descent.Json.Printer
import Descent.Proofs.Json.Rows

/-!
# Reading Back: Containers

What is made of a list or an object that was written depends on what is made
of its parts, one after the other and up to the first fault. For a list this
is a `mapM` over its items, for an object a `foldlM` over its members. The
laws here are stated so: they cover lists that are read back and lists that
are refused at the item that is too deep, and a caller works out the `mapM` or
the `foldlM` and never sees a bracket.

An object is read member by member into what has been read so far, no matter
if that is a map or the draft of a record. A record is the case in which the
members are its fields, each under its own name.

## Main definitions

* `commaText`: Texts with commas in front of all but the first.
* `IsVisible`: A text starts with a character that no loop mistakes.
* `WrittenField`: A field of a record with its text.

## Theorems

* `row_commaText`: A compact text is a row.
* `list_commaText`: The inside of a list is read item by item.
* `members_commaText`: The inside of an object is read member by member.
* `reads_listOf`, `reads_recordOf`: Lists and records.
-/

namespace Descent.Json.Reader

variable {α β δ : Type}

/-! ## Texts with commas -/

/-- Texts one after the other, a comma in front of each but the first of
    all. -/
def commaText : Bool → List String → List Char
  | _, [] => []
  | true, text :: rest => text.toList ++ commaText false rest
  | false, text :: rest => ',' :: (text.toList ++ commaText false rest)

/-- The text starts with a character that is neither blank nor the end of a
    list. -/
def IsVisible (text : String) : Prop :=
  ∃ c more, text.toList = c :: more ∧ isBlank c = false ∧ c ≠ ']'

theorem toList_intercalate_comma (texts : List String) :
    (",".intercalate texts).toList = commaText true texts := by
  induction texts with
  | nil => rfl
  | cons text rest ih =>
      cases rest with
      | nil => simp [commaText]
      | cons next rest =>
          rw [String.intercalate_cons_cons, String.toList_append, ih, String.toList_append]
          simp [commaText]

theorem listText_append (texts : List String) (rest : List Char) :
    (listText texts).toList ++ rest = '[' :: (commaText true texts ++ ']' :: rest) := by
  have hopen : ("[" : String).toList = ['['] := rfl
  have hclose : ("]" : String).toList = [']'] := rfl
  rw [listText, String.toList_append, String.toList_append, toList_intercalate_comma, hopen,
    hclose, List.append_assoc, List.append_assoc]
  rfl

/-- The text of a member with its key. -/
def memberText (name text : String) : String :=
  stringText name ++ ":" ++ text

theorem memberText_append (name text : String) (rest : List Char) :
    (memberText name text).toList ++ rest =
      (stringText name).toList ++ ':' :: (text.toList ++ rest) := by
  have hcolon : (":" : String).toList = [':'] := rfl
  rw [memberText, String.toList_append, String.toList_append, hcolon, List.append_assoc,
    List.append_assoc]
  rfl

theorem objectText_append (members : List (String × String)) (rest : List Char) :
    (objectText members).toList ++ rest =
      '\x7b' :: (commaText true (members.map fun m => memberText m.1 m.2) ++ '\x7d' :: rest) := by
  have hopen : ("\x7b" : String).toList = ['\x7b'] := rfl
  have hclose : ("\x7d" : String).toList = ['\x7d'] := rfl
  rw [objectText, String.toList_append, String.toList_append, toList_intercalate_comma, hopen,
    hclose, List.append_assoc, List.append_assoc]
  rfl

theorem isVisible_stringText (s : String) : IsVisible (stringText s) :=
  ⟨'"', _, toList_stringText s, rfl, by decide⟩

theorem isVisible_listText (texts : List String) : IsVisible (listText texts) := by
  have htext := listText_append texts []
  rw [List.append_nil] at htext
  exact ⟨'[', _, htext, rfl, by decide⟩

theorem isVisible_objectText (members : List (String × String)) :
    IsVisible (objectText members) := by
  have htext := objectText_append members []
  rw [List.append_nil] at htext
  exact ⟨'\x7b', _, htext, rfl, by decide⟩

/-- A compact text is a row in which each part is spelled in one way. -/
theorem row_commaText (isFirst : Bool) (items : List β) (write : β → String) :
    Row (fun x cs => cs = (write x).toList) isFirst items
      (commaText isFirst (items.map write)) := by
  induction items generalizing isFirst with
  | nil => cases isFirst <;> exact .nil _
  | cons x xs ih =>
      cases isFirst with
      | true =>
          have hlead : IsComma true [] := rfl
          exact .cons hlead rfl (ih false)
      | false =>
          have hlead : IsComma false [','] := ⟨[], isGap_nil, rfl⟩
          exact .cons hlead rfl (ih false)

/-! ## Lists -/

/-- A list with its brackets, the first of which has been taken. -/
theorem list_commaText (item : Reader α) (items : List β) (write : β → String)
    (outcome : β → Except Fault α) (hvisible : ∀ x ∈ items, IsVisible (write x))
    (hitem : ∀ x ∈ items, Reads item (write x) (outcome x)) (rest : List Char) :
    list item (commaText true (items.map write) ++ ']' :: rest) =
      (items.mapM outcome).map (·, rest) := by
  refine list_row item _ outcome items _ [] rest (row_commaText true items write) isGap_nil
    (fun x hx cs hcs => ?_)
  rcases hvisible x hx with ⟨c, more, htext, hblank, hclose⟩
  refine ⟨[], c, more, hcs.trans htext, isGap_nil, hblank, hclose, fun rest hrest => ?_⟩
  have hread := hitem x hx rest hrest
  rw [htext] at hread
  exact hread

theorem reads_listOf (item : Reader α) (items : List β) (write : β → String)
    (outcome : β → Except Fault α) (hvisible : ∀ x ∈ items, IsVisible (write x))
    (hitem : ∀ x ∈ items, Reads item (write x) (outcome x)) :
    Reads (listOf (some item)) (listText (items.map write)) (items.mapM outcome) := by
  intro rest _
  rw [listText_append]
  exact list_commaText item items write outcome hvisible hitem rest

/-! ## Objects -/

/-- An object with its braces, the first of which has been taken. -/
theorem members_commaText (member : δ → String → Reader δ) (all : List β)
    (name write : β → String) (step : δ → β → Except Fault δ)
    (hmember : ∀ x ∈ all, ∀ done rest, IsEnded rest →
      member done (name x) (':' :: ((write x).toList ++ rest)) = (step done x).map (·, rest))
    (blank : δ) (rest : List Char) :
    members member blank
        (commaText true (all.map fun x => memberText (name x) (write x)) ++ '\x7d' :: rest) =
      (all.foldlM step blank).map (·, rest) := by
  refine members_row member _ step all _ [] rest (row_commaText true all _) isGap_nil
    (fun x hx cs hcs => ?_) blank
  have htext := memberText_append (name x) (write x) []
  rw [List.append_nil, List.append_nil, stringText_append] at htext
  refine ⟨[], _, hcs.trans htext, isGap_nil, fun done rest hrest => ?_⟩
  -- The key is read up to its last quote, and the colon is left to the member.
  have hkey := key_stringText (name x) (':' :: ((write x).toList ++ rest))
  rw [stringText_append] at hkey
  have hmember := hmember x hx done rest hrest
  simp only [List.append_assoc, List.cons_append]
  rw [bind_ok key _ _ _ _ hkey]
  exact hmember

/-! ## Records -/

/-- A field of a record with its text, and what becomes of a draft that the
    text is read into. -/
structure WrittenField (δ : Type) where
  field : RecordField δ
  text : String
  fill : δ → Except Fault δ
  reads : ∀ draft, Reads (field.fill draft) text (fill draft)

namespace WrittenField

/-- What becomes of a draft that may have the field already. -/
def step (draft : δ) (w : WrittenField δ) : Except Fault δ :=
  if w.field.isFilled draft then .error (.duplicateField w.field.name) else w.fill draft

/-- The key and the text of the field. -/
def member (w : WrittenField δ) : String × String := (w.field.name, w.text)

end WrittenField

/-- The draft of a record, if it has all the fields that it must have. -/
def completed (fields : List (RecordField δ)) (draft : δ) : Except Fault δ :=
  match fields.find? fun field => field.isRequired && !field.isFilled draft with
  | some field => .error (.missingField field.name)
  | none => .ok draft

/-- A field is found under its name if no other field has it. -/
theorem find?_name (fields : List (RecordField δ)) (hnames : (fields.map (·.name)).Nodup)
    (field : RecordField δ) (hfield : field ∈ fields) :
    fields.find? (·.name = field.name) = some field := by
  induction fields with
  | nil => cases hfield
  | cons first rest ih =>
      rw [List.map_cons, List.nodup_cons] at hnames
      rcases List.mem_cons.1 hfield with hsame | hrest
      · rw [hsame, List.find?_cons, decide_eq_true rfl]
      -- The first field has another name, or that name would be there twice.
      · have hother : first.name ≠ field.name := fun hsame =>
          hnames.1 (hsame ▸ List.mem_map_of_mem hrest)
        rw [List.find?_cons, decide_eq_false hother]
        exact ih hnames.2 hrest

theorem fieldMember_member (fields : List (RecordField δ)) (w : WrittenField δ)
    (hfield : fields.find? (·.name = w.field.name) = some w.field) (draft : δ)
    (rest : List Char) (hrest : IsEnded rest) :
    fieldMember fields draft w.field.name (':' :: (w.text.toList ++ rest)) =
      (w.step draft).map (·, rest) := by
  rw [fieldMember, hfield, WrittenField.step]
  -- A field that is there already is refused before its colon.
  by_cases hfilled : w.field.isFilled draft = true
  · simp only [if_pos hfilled]
    rfl
  · simp only [if_neg hfilled]
    exact w.reads draft rest hrest

/-- A record that is written as an object has its members read, and then it
    must be complete. -/
theorem recordOf_brace (name : String) (fields : List (RecordField δ)) (blank : δ)
    (cs : List Char) :
    recordOf name (some fields) blank ('\x7b' :: cs) =
      members (fieldMember fields) blank cs >>= fun read =>
        (completed fields read.1).map (·, read.2) := by
  have hfinish : ∀ read : δ × List Char,
      (match fields.find? fun field => field.isRequired && !field.isFilled read.1 with
        | some field => throw (.missingField field.name)
        | none => return read.1 : Reader δ) read.2 =
      (completed fields read.1).map (·, read.2) := by
    intro read
    unfold completed
    cases fields.find? fun field => field.isRequired && !field.isFilled read.1 with
    | some field => rfl
    | none => rfl
  exact congrArg (members (fieldMember fields) blank cs >>= ·) (funext hfinish)

/-- A record that is written with all its fields is read field by field. -/
theorem reads_recordOf (name : String) (fields : List (RecordField δ)) (blank : δ)
    (written : List (WrittenField δ)) (hwritten : written.map (·.field) = fields)
    (hnames : (fields.map (·.name)).Nodup) :
    Reads (recordOf name (some fields) blank) (objectText (written.map WrittenField.member))
      (written.foldlM WrittenField.step blank >>= completed fields) := by
  intro rest _
  -- Every name leads to its own field, whatever else the draft has by then.
  have hfound : ∀ w ∈ written, fields.find? (·.name = w.field.name) = some w.field :=
    fun w hw => find?_name fields hnames w.field (hwritten ▸ List.mem_map_of_mem hw)
  have hmembers := members_commaText (fieldMember fields) written (·.field.name) (·.text)
    WrittenField.step
    (fun w hw draft more hmore => fieldMember_member fields w (hfound w hw) draft more hmore)
    blank rest
  have htexts : (written.map WrittenField.member).map (fun m => memberText m.1 m.2) =
      written.map fun w => memberText w.field.name w.text := List.map_map
  rw [objectText_append, recordOf_brace, htexts, hmembers]
  cases written.foldlM WrittenField.step blank with
  | error fault => rfl
  | ok draft => rfl

/-- A record is refused where there is no room for it. -/
theorem reads_recordOf_none (name : String) (blank : δ) (members : List (String × String)) :
    Reads (recordOf name none blank) (objectText members) (.error .tooDeep) := by
  intro rest _
  rw [objectText_append]
  rfl

theorem reads_listOf_none (texts : List String) :
    Reads (listOf (none : Option (Reader α))) (listText texts) (.error .tooDeep) := by
  intro rest _
  rw [listText_append]
  rfl

/-! ## Maps -/

/-- Members that are put under their keys one after the other. -/
theorem entries_commaText (item : Reader α) (all : List (String × β)) (write : β → String)
    (outcome : β → Except Fault α) (hitem : ∀ x ∈ all, Reads item (write x.2) (outcome x.2))
    (rest : List Char) :
    members (entry item) []
        (commaText true (all.map fun x => memberText x.1 (write x.2)) ++ '\x7d' :: rest) =
      (all.foldlM (fun done x => (outcome x.2).map (putMember x.1 · done)) []).map (·, rest) := by
  refine members_commaText (entry item) all Prod.fst (fun x => write x.2) _
    (fun x hx done more hmore => ?_) [] rest
  rw [entry, bind_ok colon _ _ _ () (colon_cons _), bind_apply, hitem x hx more hmore]
  cases outcome x.2 with
  | ok a => rfl
  | error fault => rfl

theorem reads_mapOf (item : Reader α) (all : List (String × β)) (write : β → String)
    (outcome : β → Except Fault α) (hitem : ∀ x ∈ all, Reads item (write x.2) (outcome x.2)) :
    Reads (mapOf (some item)) (objectText (all.map fun x => (x.1, write x.2)))
      (all.foldlM (fun done x => (outcome x.2).map (putMember x.1 · done)) []) := by
  intro rest _
  have htexts : (all.map fun x => (x.1, write x.2)).map (fun m => memberText m.1 m.2) =
      all.map fun x => memberText x.1 (write x.2) := List.map_map
  rw [objectText_append, htexts]
  exact entries_commaText item all write outcome hitem rest

theorem reads_mapOf_none (members : List (String × String)) :
    Reads (mapOf (none : Option (Reader α))) (objectText members) (.error .tooDeep) := by
  intro rest _
  rw [objectText_append]
  rfl

end Descent.Json.Reader
