import Descent.Json.Record
import Descent.Proofs.Json.Containers
import Descent.Proofs.Json.Skipping

/-!
# Reading Trees as Records

A record is made of the members of an object, one after the other: a member
that is a field is read into the draft, unless the draft has that field
already, and any other member is skipped and changes nothing. In the end the
draft has to be complete. What is made of a record is so put down to what is
made of its members (`makes_recordOf`), and texts do not come up any more.

As a list the fields come in the order of their declaration, and the list may
end early where nothing more is required. That form is needed for one reason
alone: a member that comes twice may hold anything, also a record written as a
list, and it is read before the second one is found.

## Main definitions

* `memberStep`, `draftOf`: A draft after one member, and after all of them.
* `positional`: What is made of a record that is written as a list.

## Theorems

* `makes_recordOf`: A record is made of its members.
* `settles_recordOf`: What is read as a record depends on the tree alone.
* `settles_variant`: So does what is read as one of finitely many names.
-/

namespace Descent.Json.Reader

variable {α δ : Type}

/-! ## Members -/

/-- A draft after a member under this key. -/
def memberStep (fields : List (RecordField δ)) (draft : δ) (name : String) (d : Doc) :
    Except Fault δ :=
  match fields.find? (·.name = name) with
  | some field =>
    if field.isFilled draft then .error (.duplicateField name) else d.outcome (field.fill draft)
  | none => .ok draft

/-- A draft after these members. -/
def draftOf (fields : List (RecordField δ)) (members : List (Literal × Doc)) (draft : δ) :
    Except Fault δ :=
  members.foldlM (fun draft m => m.1.reading >>= (memberStep fields draft · m.2)) draft

/-- Whatever the draft, a field settles what it is given. -/
def FieldsSettle (fields : List (RecordField δ)) : Prop :=
  ∀ field ∈ fields, ∀ draft, Settles (field.fill draft)

theorem makesBehind_fieldMember (fields : List (RecordField δ)) (hfields : FieldsSettle fields)
    (draft : δ) (name : String) (d : Doc) :
    MakesBehind (fieldMember fields draft name) d (memberStep fields draft name d) := by
  unfold fieldMember memberStep
  cases hfound : fields.find? (·.name = name) with
  | none => exact makesBehind_colon ((makes_skipValue d).map fun _ => draft)
  | some field =>
      have hfill := hfields field (List.mem_of_find?_eq_some hfound) draft d
      -- A field that is there already is refused before its colon.
      by_cases hfilled : field.isFilled draft = true
      · simp only [if_pos hfilled]
        exact fun _ _ _ _ => rfl
      · simp only [if_neg hfilled]
        exact makesBehind_colon hfill

theorem skipsBlanks_recordOf (name : String) (fields : Option (List (RecordField δ)))
    (blank : δ) : SkipsBlanks (recordOf name fields blank) := skipsBlanks_bind _ _ skipsBlanks_start

/-- A record is made of its members, and then it must be complete. -/
theorem makes_recordOf (name : String) (fields : List (RecordField δ))
    (hfields : FieldsSettle fields) (blank : δ) (members : List (Literal × Doc)) :
    Makes (recordOf name (some fields) blank) (.object members)
      (draftOf fields members blank >>= completed fields) := by
  refine makes_object (skipsBlanks_recordOf _ _ _) (fun row gap rest hrow hgap _ => ?_)
  have hmembers := members_docs (fieldMember fields) (memberStep fields) members
    (fun m _ draft name => makesBehind_fieldMember fields hfields draft name m.2)
    blank row gap rest hrow hgap
  rw [recordOf_brace, hmembers]
  change ((draftOf fields members blank).map _ >>= _) = _
  cases draftOf fields members blank with
  | error fault => rfl
  | ok draft => rfl

/-! ## Records as lists -/

/-- A record that ends before these fields. -/
def endedAt (name : String) (total : Nat) (draft : δ) (left : List (RecordField δ)) :
    Except Fault δ :=
  match left.dropWhile (!·.isRequired) with
  | [] => .ok draft
  | missing => .error (.wrongLength (total - missing.length) name total)

/-- What is made of a record that is written as a list. -/
def positional (name : String) (total : Nat) :
    List (RecordField δ) → List Doc → δ → Except Fault δ
  | [], [], draft => .ok draft
  | [], _ :: _, _ => .error .trailingCharacters
  | field :: rest, [], draft => endedAt name total draft (field :: rest)
  | field :: rest, d :: ds, draft =>
    d.outcome (field.fill draft) >>= positional name total rest ds

/-- The end of a record that is written as a list. -/
def closeRecord (name : String) (total : Nat) (read : δ × List (RecordField δ)) : Reader δ := do
  match read.2.dropWhile (!·.isRequired) with
  | [] =>
    closeList
    return read.1
  | missing => throw (.wrongLength (total - missing.length) name total)

theorem recordOf_bracket (name : String) (fields : List (RecordField δ)) (blank : δ)
    (cs : List Char) :
    recordOf name (some fields) blank ('[' :: cs) =
      (fieldItems fields true blank >>= closeRecord name fields.length) cs := rfl

theorem closeList_bracket (gap rest : List Char) (hgap : IsGap gap) :
    closeList (gap ++ ']' :: rest) = .ok ((), rest) := by
  rw [closeList, skipsBlanks_bind _ _ skipsBlanks_next? gap _ hgap]
  rfl

theorem closeRecord_bracket (name : String) (total : Nat) (draft : δ)
    (left : List (RecordField δ)) (gap rest : List Char) (hgap : IsGap gap) :
    closeRecord name total (draft, left) (gap ++ ']' :: rest) =
      (endedAt name total draft left).map (·, rest) := by
  unfold closeRecord endedAt
  dsimp only
  cases left.dropWhile (!·.isRequired) with
  | nil => exact bind_ok closeList _ _ _ () (closeList_bracket gap rest hgap)
  | cons field missing => rfl

/-- Items that are left over when all fields have been read. -/
theorem closeRecord_item (name : String) (total : Nat) (draft : δ) (isFirst : Bool) (d : Doc)
    (ds : List Doc) (row rest : List Char)
    (hrow : Row (fun item cs => Spaced (Doc.lexemes item) cs) isFirst (d :: ds) row) :
    closeRecord name total (draft, []) (row ++ rest) = .error .trailingCharacters := by
  have hskips : SkipsBlanks closeList := skipsBlanks_bind _ _ skipsBlanks_next?
  refine bind_error closeList _ _ _ ?_
  cases hrow with
  | @cons _ lead cs more _ _ hlead hcs hmore =>
      rcases d.exists_visible cs hcs with ⟨front, c, word, rfl, hfront, hc, _⟩
      have hnext := next?_cons c (word ++ (more ++ rest)) (d.not_blank_of_ledBy c hc)
      have hclose := d.ne_bracket_of_ledBy c hc
      simp only [List.append_assoc, List.cons_append]
      cases isFirst with
      | true =>
          have hnone : lead = [] := hlead
          rw [hnone, List.nil_append, hskips front _ hfront, closeList,
            bind_ok next? _ _ _ _ hnext]
          refine congrFun (?_ : _ = (throw .trailingCharacters : Reader Unit)) _
          split
          · next hsame => exact absurd (Option.some.inj hsame) hclose
          · next hsame => exact absurd (Option.some.inj hsame) (d.ne_comma_of_ledBy c hc)
          · rfl
          · next hnone => cases hnone
      | false =>
          rcases hlead with ⟨gap, hgap, rfl⟩
          simp only [List.append_assoc, List.singleton_append]
          rw [hskips gap _ hgap]
          -- The comma is taken, and the item behind it is no bracket.
          change (next? >>= fun c => throw (if c = some ']' then _ else _) : Reader Unit)
            (front ++ c :: (word ++ (more ++ rest))) = _
          rw [skipsBlanks_bind _ _ skipsBlanks_next? front _ hfront, bind_ok next? _ _ _ _ hnext,
            if_neg fun hsame => hclose (Option.some.inj hsame)]
          rfl

/-- The inside of a record that is written as a list is read item by item.
    The induction is on the fields, and each of them takes one item. -/
theorem fieldItems_row (name : String) (total : Nat) (fields : List (RecordField δ))
    (hfields : FieldsSettle fields) (isFirst : Bool) (draft : δ) (docs : List Doc)
    (row gap rest : List Char)
    (hrow : Row (fun item cs => Spaced (Doc.lexemes item) cs) isFirst docs row)
    (hgap : IsGap gap) :
    (fieldItems fields isFirst draft >>= closeRecord name total) (row ++ (gap ++ ']' :: rest)) =
      (positional name total fields docs draft).map (·, rest) := by
  induction fields generalizing isFirst draft docs row with
  | nil =>
      change closeRecord name total (draft, []) _ = _
      cases docs with
      | nil =>
          cases hrow
          rw [List.nil_append, closeRecord_bracket name total draft [] gap rest hgap]
          rfl
      | cons d ds => exact closeRecord_item name total draft isFirst d ds row _ hrow
  | cons field fields ih =>
      have hfill := hfields field List.mem_cons_self draft
      have hrest : FieldsSettle fields := fun f hf => hfields f (List.mem_cons_of_mem _ hf)
      rw [bind_apply, fieldItems]
      cases hrow with
      | nil =>
          have hclose := closeRecord_bracket name total draft (field :: fields) [] rest isGap_nil
          rw [List.nil_append, bind_ok _ _ _ _ _ (listGoesOn_bracket isFirst gap rest hgap)]
          exact hclose
      | @cons _ lead cs more d ds hlead hcs hmore =>
          rcases d.exists_visible cs hcs with ⟨front, c, word, rfl, hfront, hc, hvisible⟩
          have hgoes := listGoesOn_item isFirst lead front c
            (word ++ (more ++ (gap ++ ']' :: rest))) hlead hfront (d.not_blank_of_ledBy c hc)
            (d.ne_bracket_of_ledBy c hc)
          have hended := hmore.isEnded _ (isEnded_gap gap _ hgap (isEnded_bracket rest))
          have hhead := hfill d (c :: word) _ hvisible hended
          simp only [List.append_assoc, List.cons_append] at hgoes hhead ⊢
          rw [bind_ok _ _ _ _ _ hgoes, if_pos rfl, positional]
          cases hx : d.outcome (field.fill draft) with
          | error fault =>
              rw [hx] at hhead
              rw [bind_error _ _ _ fault hhead]
              rfl
          | ok next =>
              rw [hx] at hhead
              rw [bind_ok _ _ _ _ next hhead]
              exact ih hrest false next ds more hmore

theorem settles_recordOf (name : String) (fields : Option (List (RecordField δ))) (blank : δ)
    (hfields : ∀ all, fields = some all → FieldsSettle all) :
    Settles (recordOf name fields blank) := by
  have hskips := skipsBlanks_recordOf name fields blank
  refine settles_of_makes (fun d => ?_)
  by_cases harray : ∃ items, d = .array items
  · rcases harray with ⟨items, rfl⟩
    cases fields with
    | none => exact ⟨.error .tooDeep, makes_array hskips fun _ _ _ _ _ _ => rfl⟩
    | some all =>
        refine ⟨positional name all.length all items blank, makes_array hskips
          (fun row gap rest hrow hgap _ => ?_)⟩
        rw [recordOf_bracket]
        exact fieldItems_row name all.length all (hfields all rfl) true blank items row gap rest
          hrow hgap
  by_cases hobject : ∃ members, d = .object members
  · rcases hobject with ⟨members, rfl⟩
    cases fields with
    | none => exact ⟨.error .tooDeep, makes_object hskips fun _ _ _ _ _ _ => rfl⟩
    | some all => exact ⟨_, makes_recordOf name all (hfields all rfl) blank members⟩
  · refine ⟨_, makes_refused d _ ("struct " ++ name) (fun c hc => ?_)⟩
    split
    · exact absurd (d.exists_of_ledBy_bracket hc) harray
    · exact absurd (d.exists_of_ledBy_brace hc) hobject
    · rfl

/-! ## Names -/

/-- The one of `all` that has this name. -/
def namedOutcome (nameOf : α → String) (all : List α) (name : String) : Except Fault α :=
  match all.find? (nameOf · = name) with
  | some a => .ok a
  | none => .error (.unknownVariant name (all.map nameOf))

theorem named_apply (nameOf : α → String) (all : List α) (name : String) (rest : List Char) :
    named nameOf all name rest = (namedOutcome nameOf all name).map (·, rest) := by
  unfold named namedOutcome
  cases all.find? (nameOf · = name) with
  | some a => rfl
  | none => rfl

/-- The end of a variant that is written as an object. -/
def variantEnd (a : α) : Reader α := do
  match ← next? with
  | some '\x7d' => do
    advance
    return a
  | some _ => throw .valueExpected
  | none => throw .objectCutOff

/-- A variant behind its brace. -/
def variantBody (nameOf : α → String) (all : List α) : Reader α := do
  let a ← named nameOf all (← variantKey)
  (do
    colon
    unit)
  variantEnd a

/-- What is made of the members of a variant: there is one, with nothing under
    its key. -/
def variantOutcome (nameOf : α → String) (all : List α) :
    List (Literal × Doc) → Except Fault α
  | [] => .error .valueExpected
  | m :: more => do
    let a ← namedOutcome nameOf all (← m.1.reading)
    m.2.outcome unit
    if more.isEmpty then .ok a else .error .valueExpected

theorem variantEnd_row (a : α) (more : List (Literal × Doc)) (row gap rest : List Char)
    (hrow : Row (fun m cs => Spaced (Doc.lexemesOf m) cs) false more row) (hgap : IsGap gap) :
    variantEnd a (row ++ (gap ++ '\x7d' :: rest)) =
      (if more.isEmpty then .ok (a, rest) else .error .valueExpected) := by
  have hskips : SkipsBlanks (variantEnd a) := skipsBlanks_bind _ _ skipsBlanks_next?
  cases hrow with
  | nil =>
      rw [List.nil_append, hskips gap _ hgap]
      rfl
  | cons hlead _ _ =>
      -- Another member follows, so there is a comma and not the brace.
      rcases hlead with ⟨front, hfront, rfl⟩
      simp only [List.append_assoc]
      rw [hskips front _ hfront]
      rfl

theorem variantBody_row (nameOf : α → String) (all : List α) (members : List (Literal × Doc))
    (row gap rest : List Char)
    (hrow : Row (fun m cs => Spaced (Doc.lexemesOf m) cs) true members row) (hgap : IsGap gap) :
    variantBody nameOf all (row ++ (gap ++ '\x7d' :: rest)) =
      (variantOutcome nameOf all members).map (·, rest) := by
  have hskips : SkipsBlanks variantKey := skipsBlanks_bind _ _ skipsBlanks_next?
  cases hrow with
  | nil =>
      rw [List.nil_append, variantBody, bind_error variantKey _ _ .valueExpected]
      · rfl
      · rw [hskips gap _ hgap]
        rfl
  | @cons _ lead cs more m ms hlead hcs hmore =>
      have hnone : lead = [] := hlead
      rcases spaced_cons.1 hcs with ⟨front, behind, hfront, hbehind, rfl⟩
      have hended := hmore.isEnded (gap ++ '\x7d' :: rest)
        (isEnded_gap gap _ hgap (isEnded_brace rest))
      have hkey :
          variantKey (front ++ (m.1.chars ++ (behind ++ (more ++ (gap ++ '\x7d' :: rest))))) =
            m.1.reading.map (·, behind ++ (more ++ (gap ++ '\x7d' :: rest))) := by
        rw [hskips front _ hfront]
        exact m.1.key_chars _
      have hunit := makesBehind_colon (settles_unit m.2) behind _ hbehind hended
      have hend := fun a : α => variantEnd_row a ms more gap rest hmore hgap
      simp only [hnone, List.nil_append, List.append_assoc]
      -- Each step decides on its own, and the first fault is the fault of all.
      rw [variantOutcome]
      cases hreading : m.1.reading with
      | error fault =>
          rw [hreading] at hkey
          exact bind_error variantKey _ _ fault hkey
      | ok name =>
          rw [hreading] at hkey
          have hnamed := named_apply nameOf all name (behind ++ (more ++ (gap ++ '\x7d' :: rest)))
          rw [variantBody, bind_ok variantKey _ _ _ name hkey]
          change _ = (namedOutcome nameOf all name >>= _).map _
          cases hname : namedOutcome nameOf all name with
          | error fault =>
              rw [hname] at hnamed
              exact bind_error (named nameOf all name) _ _ fault hnamed
          | ok a =>
              rw [hname] at hnamed
              rw [bind_ok (named nameOf all name) _ _ _ a hnamed]
              change _ = (m.2.outcome unit >>= _).map _
              cases hvalue : m.2.outcome unit with
              | error fault =>
                  rw [hvalue] at hunit
                  exact bind_error _ _ _ fault hunit
              | ok _ =>
                  rw [hvalue] at hunit
                  rw [bind_ok _ _ _ _ () hunit]
                  refine (hend a).trans ?_
                  cases ms.isEmpty <;> rfl

/-- A tree that is refused without a look at it. -/
theorem makes_thrown (d : Doc) (body : Char → Reader α) (fault : Fault)
    (hbody : ∀ c, d.LedBy c → body c = throw fault) :
    Makes (start >>= body) d (.error fault) := by
  intro cs rest hcs _
  rcases d.exists_visible cs hcs with ⟨gap, c, more, rfl, hgap, hc, _⟩
  rw [List.append_assoc, skipsBlanks_bind _ _ skipsBlanks_start gap _ hgap, List.cons_append,
    bind_ok start body _ _ _ (start_cons c _ (d.not_blank_of_ledBy c hc)), hbody c hc]
  rfl

theorem variant_brace (nameOf : α → String) (all : List α) (cs : List Char) :
    variant nameOf all true ('\x7b' :: cs) = variantBody nameOf all cs := by
  simp only [variantBody, bind_assoc]
  rfl

theorem skipsBlanks_variant (nameOf : α → String) (all : List α) (hasRoom : Bool) :
    SkipsBlanks (variant nameOf all hasRoom) := skipsBlanks_bind _ _ skipsBlanks_start

theorem makes_variant_string (nameOf : α → String) (all : List α) (hasRoom : Bool)
    (s : Literal) :
    Makes (variant nameOf all hasRoom) (.string s) (s.reading >>= namedOutcome nameOf all) := by
  refine makes_lexeme (skipsBlanks_variant nameOf all hasRoom) rfl (fun rest _ => ?_)
  change (key >>= named nameOf all) (s.chars ++ rest) = _
  rw [bind_apply, s.key_chars]
  cases s.reading with
  | error fault => rfl
  | ok name => exact named_apply nameOf all name rest

theorem settles_variant (nameOf : α → String) (all : List α) (hasRoom : Bool) :
    Settles (variant nameOf all hasRoom) := by
  have hskips := skipsBlanks_variant nameOf all hasRoom
  refine settles_of_makes (fun d => ?_)
  by_cases hstring : ∃ s, d = .string s
  · rcases hstring with ⟨s, rfl⟩
    exact ⟨_, makes_variant_string nameOf all hasRoom s⟩
  by_cases hobject : ∃ members, d = .object members
  · rcases hobject with ⟨members, rfl⟩
    cases hasRoom with
    | false => exact ⟨.error .tooDeep, makes_object hskips fun _ _ _ _ _ _ => rfl⟩
    | true =>
        refine ⟨variantOutcome nameOf all members, makes_object hskips
          (fun row gap rest hrow hgap _ => ?_)⟩
        rw [variant_brace]
        exact variantBody_row nameOf all members row gap rest hrow hgap
  · refine ⟨_, makes_thrown d _ .valueExpected (fun c hc => ?_)⟩
    split
    · exact absurd (d.exists_of_ledBy_quote hc) hstring
    · exact absurd (d.exists_of_ledBy_brace hc) hobject
    · rfl

end Descent.Json.Reader
