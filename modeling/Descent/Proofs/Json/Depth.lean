import Descent.Proofs.Json.Values

/-!
# The Depth of What Is Read

Whatever text is read, the result is no higher than there was room for. This
is the converse of reading back, and it holds of all texts, not only of those
that were written: a text may have blanks in it, fields in any order, records
written as lists and members that are skipped.

`Ensures` says what is certain of a result if there is one. It passes through
the steps of a reader, and a loop ensures what one round keeps. The loops run
on the characters of the text, so the inductions here are on fuel.

## Main definitions

* `Reader.Ensures`: What is certain of the results of a reader.

## Theorems

* `Value.height_sorted_le`: Sorting makes a value no higher.
* `ensures_list`, `ensures_members`, `ensures_recordOf`: Containers.
* `ensures_value`: A value is no higher than the room it was read with.
-/

namespace Descent.Json

namespace Value

/-! ## Heights of parts -/

theorem itemsHeight_le (room : Nat) (items : List Value)
    (hitems : ∀ item ∈ items, item.height ≤ room) : itemsHeight items ≤ room := by
  induction items with
  | nil => exact Nat.zero_le room
  | cons item rest ih =>
      rw [List.forall_mem_cons] at hitems
      have hrest := ih hitems.2
      rw [itemsHeight]
      omega

theorem membersHeight_putMember_le (key : String) (value : Value)
    (members : List (String × Value)) :
    membersHeight (putMember key value members) ≤ max value.height (membersHeight members) := by
  induction members with
  | nil => exact Nat.le_refl _
  | cons m rest ih =>
      rcases m with ⟨k, v⟩
      rw [putMember]
      by_cases hbefore : key < k
      · rw [if_pos hbefore]
        exact Nat.le_refl _
      · rw [if_neg hbefore]
        -- The value of an equal key is replaced, so the height may even drop.
        by_cases hsame : key = k
        · rw [if_pos hsame, membersHeight, membersHeight]
          omega
        · rw [if_neg hsame, membersHeight, membersHeight]
          omega

mutual

/-- Sorting makes a value no higher. Of two members with one key only one is
    left, so it may become lower. -/
theorem height_sorted_le : (v : Value) → v.sorted.height ≤ v.height
  | .array items => by
      have hitems := itemsHeight_sortedItems_le items
      rw [sorted, height, height]
      omega
  | .object members => by
      have hmembers := membersHeight_sortedMembers_le members []
      rw [sorted, height, height]
      rw [membersHeight, Nat.max_zero] at hmembers
      omega
  | .null | .boolean _ | .number _ | .string _ => Nat.le_refl _

theorem itemsHeight_sortedItems_le :
    (items : List Value) → itemsHeight (sortedItems items) ≤ itemsHeight items
  | [] => Nat.le_refl _
  | item :: rest => by
      have hitem := height_sorted_le item
      have hrest := itemsHeight_sortedItems_le rest
      rw [sortedItems, itemsHeight, itemsHeight]
      omega

theorem membersHeight_sortedMembers_le :
    (members done : List (String × Value)) →
      membersHeight (sortedMembers members done) ≤ max (membersHeight members) (membersHeight done)
  | [], done => by
      rw [sortedMembers, membersHeight]
      omega
  | (key, value) :: rest, done => by
      have hvalue := height_sorted_le value
      have hput := membersHeight_putMember_le key value.sorted done
      have hrest := membersHeight_sortedMembers_le rest (putMember key value.sorted done)
      rw [sortedMembers, membersHeight]
      omega

end

end Value

namespace Reader

variable {α β δ : Type}

/-! ## What is certain of a result -/

/-- Whatever text is read, a result has this property. -/
def Ensures (reader : Reader α) (post : α → Prop) : Prop :=
  ∀ cs a rest, reader cs = .ok (a, rest) → post a

theorem ensures_pure (post : α → Prop) (a : α) (ha : post a) :
    Ensures (pure a : Reader α) post := by
  intro cs b rest hread
  rw [pure_apply] at hread
  cases hread
  exact ha

theorem ensures_throw (post : α → Prop) (fault : Fault) :
    Ensures (throw fault : Reader α) post := nofun

theorem ensures_trivial (reader : Reader α) : Ensures reader fun _ => True :=
  fun _ _ _ _ => True.intro

theorem ensures_bind (reader : Reader α) (next : α → Reader β) (mid : α → Prop) (post : β → Prop)
    (hreader : Ensures reader mid) (hnext : ∀ a, mid a → Ensures (next a) post) :
    Ensures (reader >>= next) post := by
  intro cs b rest hread
  cases hfirst : reader cs with
  | error fault =>
      rw [bind_error reader next cs fault hfirst] at hread
      cases hread
  | ok read =>
      -- There is a result in the end, so there was one in between.
      rw [bind_ok reader next cs read.2 read.1 hfirst] at hread
      exact hnext read.1 (hreader cs read.1 read.2 hfirst) read.2 b rest hread

/-- A step whose result does not matter. -/
theorem ensures_skip (reader : Reader α) (next : α → Reader β) (post : β → Prop)
    (hnext : ∀ a, Ensures (next a) post) : Ensures (reader >>= next) post :=
  ensures_bind reader next _ post (ensures_trivial reader) fun a _ => hnext a

theorem ensures_map (f : α → β) (reader : Reader α) (mid : α → Prop) (post : β → Prop)
    (hreader : Ensures reader mid) (hf : ∀ a, mid a → post (f a)) :
    Ensures (f <$> reader) post := by
  intro cs b rest hread
  rw [map_apply] at hread
  cases hfirst : reader cs with
  | error fault =>
      rw [hfirst] at hread
      cases hread
  | ok read =>
      rw [hfirst] at hread
      cases hread
      exact hf read.1 (hreader cs read.1 read.2 hfirst)

theorem ensures_imp {reader : Reader α} {mid post : α → Prop} (hreader : Ensures reader mid)
    (himp : ∀ a, mid a → post a) : Ensures reader post :=
  fun cs a rest hread => himp a (hreader cs a rest hread)

theorem ensures_of_parse (reader : Reader α) (post : α → Prop) (hreader : Ensures reader post)
    (text : String) (a : α) (hparse : reader.parse text = .ok a) : post a := by
  unfold parse at hparse
  cases hread : reader text.toList with
  | error fault =>
      rw [hread] at hparse
      cases hparse
  | ok read =>
      rw [hread] at hparse
      change (if (read.2.dropWhile isBlank).isEmpty = true then _ else _) = _ at hparse
      -- Only blanks are left, or the text is refused after all.
      by_cases hblank : (read.2.dropWhile isBlank).isEmpty = true
      · rw [if_pos hblank] at hparse
        cases hparse
        exact hreader _ _ _ hread
      · rw [if_neg hblank] at hparse
        cases hparse

/-! ## Containers -/

/-- A container is entered only if there is something to read it with. -/
theorem ensures_enter (inside : Option α) :
    Ensures (enter inside) fun reader => inside = some reader := by
  cases inside with
  | none => exact ensures_throw _ _
  | some reader => exact ensures_skip _ _ _ fun _ => ensures_pure _ _ rfl

theorem ensures_itemsFrom (item : Reader α) (post : α → Prop) (hitem : Ensures item post)
    (fuel : List Char) (isFirst : Bool) :
    Ensures (itemsFrom item fuel isFirst) fun items => ∀ x ∈ items, post x := by
  induction fuel generalizing isFirst with
  | nil => exact ensures_throw _ _
  | cons c fuel ih =>
      refine ensures_skip _ _ _ (fun goesOn => ?_)
      cases goesOn with
      | false => exact ensures_pure _ _ nofun
      | true =>
          -- One item has the property, and the others do by induction.
          refine ensures_bind _ _ post _ hitem (fun head hhead => ?_)
          refine ensures_bind _ _ _ _ (ih false) (fun rest hrest => ?_)
          exact ensures_pure _ _ (List.forall_mem_cons.2 ⟨hhead, hrest⟩)

theorem ensures_list (item : Reader α) (post : α → Prop) (hitem : Ensures item post) :
    Ensures (list item) fun items => ∀ x ∈ items, post x := by
  refine ensures_skip _ _ _ (fun fuel => ?_)
  refine ensures_bind _ _ _ _ (ensures_itemsFrom item post hitem fuel true) (fun all hall => ?_)
  exact ensures_skip _ _ _ fun _ => ensures_pure _ _ hall

theorem ensures_membersFrom (member : δ → String → Reader δ) (inv : δ → Prop)
    (hmember : ∀ done name, inv done → Ensures (member done name) inv) (fuel : List Char)
    (isFirst : Bool) (done : δ) (hdone : inv done) :
    Ensures (membersFrom member fuel isFirst done) inv := by
  induction fuel generalizing isFirst done with
  | nil => exact ensures_throw _ _
  | cons c fuel ih =>
      refine ensures_skip _ _ _ (fun goesOn => ?_)
      cases goesOn with
      | false => exact ensures_pure _ _ hdone
      | true =>
          refine ensures_skip _ _ _ (fun name => ?_)
          exact ensures_bind _ _ inv _ (hmember done name hdone) fun next hnext =>
            ih false next hnext

/-- What every member keeps is certain of the whole. -/
theorem ensures_members (member : δ → String → Reader δ) (inv : δ → Prop)
    (hmember : ∀ done name, inv done → Ensures (member done name) inv) (blank : δ)
    (hblank : inv blank) : Ensures (members member blank) inv := by
  refine ensures_skip _ _ _ (fun fuel => ?_)
  refine ensures_bind _ _ inv _
    (ensures_membersFrom member inv hmember fuel true blank hblank) (fun all hall => ?_)
  exact ensures_skip _ _ _ fun _ => ensures_pure _ _ hall

theorem ensures_listOf (inside : Option (Reader α)) (post : α → Prop)
    (hitem : ∀ item, inside = some item → Ensures item post) :
    Ensures (listOf inside) fun items => inside.isSome = true ∧ ∀ x ∈ items, post x := by
  refine ensures_skip _ _ _ (fun c => ?_)
  split
  · refine ensures_bind _ _ _ _ (ensures_enter inside) (fun item hinside => ?_)
    refine ensures_imp (ensures_list item post (hitem item hinside)) (fun items hitems => ?_)
    rw [hinside]
    exact ⟨rfl, hitems⟩
  · exact ensures_skip _ _ _ fun _ => ensures_throw _ _

/-! ## Values -/

/-- The values of members are no higher than they were read with. -/
theorem ensures_entry (item : Reader Value) (room : Nat)
    (hitem : Ensures item fun v => v.height ≤ room) :
    Ensures (members (entry item) []) fun all => Value.membersHeight all ≤ room := by
  refine ensures_members (entry item) _ (fun done name hdone => ?_) [] (Nat.zero_le room)
  refine ensures_skip _ _ _ (fun _ => ?_)
  refine ensures_bind _ _ _ _ hitem (fun v hv => ensures_pure _ _ ?_)
  have hput := Value.membersHeight_putMember_le name v done
  omega

theorem ensures_valueWith (inside : Option (Reader Value)) (room : Nat)
    (hinside : ∀ item, inside = some item →
      0 < room ∧ Ensures item fun v => v.height ≤ room - 1) :
    Ensures (valueWith inside) fun v => v.height ≤ room := by
  have hplain : ∀ v : Value, v.height = 0 → v.height ≤ room := fun v hv =>
    hv ▸ Nat.zero_le room
  -- Words, strings and numbers have no height; the two containers add one to
  -- what is inside.
  refine ensures_skip _ _ _ (fun c => ?_)
  split
  · exact ensures_skip _ _ _ fun _ => ensures_pure _ _ (hplain _ rfl)
  · exact ensures_skip _ _ _ fun _ => ensures_pure _ _ (hplain _ rfl)
  · exact ensures_skip _ _ _ fun _ => ensures_pure _ _ (hplain _ rfl)
  · refine ensures_skip _ _ _ (fun _ => ?_)
    exact ensures_skip _ _ _ fun _ => ensures_pure _ _ (hplain _ rfl)
  · refine ensures_bind _ _ _ _ (ensures_enter inside) (fun item hitem => ?_)
    rcases hinside item hitem with ⟨hroom, hheight⟩
    refine ensures_bind _ _ _ _ (ensures_list item _ hheight) (fun items hitems => ?_)
    have hle := Value.itemsHeight_le _ items hitems
    refine ensures_pure _ _ ?_
    rw [Value.height]
    omega
  · refine ensures_bind _ _ _ _ (ensures_enter inside) (fun item hitem => ?_)
    rcases hinside item hitem with ⟨hroom, hheight⟩
    refine ensures_bind _ _ _ _ (ensures_entry item _ hheight) (fun all hall => ?_)
    refine ensures_pure _ _ ?_
    rw [Value.height]
    omega
  · split
    · exact ensures_skip _ _ _ fun _ => ensures_pure _ _ (hplain _ rfl)
    · exact ensures_throw _ _

/-- A value is no higher than the room it was read with. -/
theorem ensures_value (room : Nat) : Ensures (value room) fun v => v.height ≤ room := by
  induction room with
  | zero => exact ensures_valueWith none 0 nofun
  | succ room ih =>
      refine ensures_valueWith (some (value room)) (room + 1) (fun item hitem => ?_)
      rw [← Option.some.inj hitem]
      exact ⟨Nat.succ_pos room, ih⟩

/-! ## Records -/

theorem ensures_fieldMember (fields : List (RecordField δ)) (inv : δ → Prop)
    (hfill : ∀ field ∈ fields, ∀ draft, inv draft → Ensures (field.fill draft) inv) (draft : δ)
    (name : String) (hdraft : inv draft) : Ensures (fieldMember fields draft name) inv := by
  unfold fieldMember
  cases hfound : fields.find? (·.name = name) with
  | none =>
      refine ensures_skip _ _ _ (fun _ => ?_)
      exact ensures_skip _ _ _ fun _ => ensures_pure _ _ hdraft
  | some field =>
      have hmem : field ∈ fields := List.mem_of_find?_eq_some hfound
      by_cases hfilled : field.isFilled draft = true
      · simp only [if_pos hfilled]
        exact ensures_skip _ _ _ fun _ => ensures_skip _ _ _ fun _ => hfill field hmem draft hdraft
      · simp only [if_neg hfilled]
        exact ensures_skip _ _ _ fun _ => hfill field hmem draft hdraft

theorem ensures_fieldItems (fields : List (RecordField δ)) (inv : δ → Prop)
    (hfill : ∀ field ∈ fields, ∀ draft, inv draft → Ensures (field.fill draft) inv)
    (isFirst : Bool) (draft : δ) (hdraft : inv draft) :
    Ensures (fieldItems fields isFirst draft) fun read => inv read.1 := by
  induction fields generalizing isFirst draft with
  | nil => exact ensures_pure _ _ hdraft
  | cons field rest ih =>
      rw [List.forall_mem_cons] at hfill
      refine ensures_skip _ _ _ (fun goesOn => ?_)
      cases goesOn with
      | false => exact ensures_pure _ _ hdraft
      | true =>
          exact ensures_bind _ _ inv _ (hfill.1 draft hdraft) fun next hnext =>
            ih hfill.2 false next hnext

/-- What every field keeps is certain of a record, written in either way. -/
theorem ensures_recordOf (name : String) (fields : Option (List (RecordField δ))) (blank : δ)
    (inv : δ → Prop) (hblank : inv blank)
    (hfill : ∀ all, fields = some all → ∀ field ∈ all, ∀ draft, inv draft →
      Ensures (field.fill draft) inv) :
    Ensures (recordOf name fields blank) fun draft => fields.isSome = true ∧ inv draft := by
  refine ensures_skip _ _ _ (fun c => ?_)
  split
  -- As a list the fields come in their order, as far as the list goes.
  · refine ensures_bind _ _ _ _ (ensures_enter fields) (fun all hall => ?_)
    refine ensures_bind _ _ _ _ (ensures_fieldItems all inv (hfill all hall) true blank hblank)
      (fun read hread => ?_)
    rcases read with ⟨draft, left⟩
    rw [hall]
    dsimp only
    split
    · exact ensures_skip _ _ _ fun _ => ensures_pure _ _ ⟨rfl, hread⟩
    · exact ensures_throw _ _
  -- As an object they come in any order, with members to skip in between.
  · refine ensures_bind _ _ _ _ (ensures_enter fields) (fun all hall => ?_)
    have hmembers := ensures_members (fieldMember all) inv
      (ensures_fieldMember all inv (hfill all hall)) blank hblank
    refine ensures_bind _ _ _ _ hmembers (fun draft hdraft => ?_)
    rw [hall]
    split
    · exact ensures_throw _ _
    · exact ensures_pure _ _ ⟨rfl, hdraft⟩
  · exact ensures_skip _ _ _ fun _ => ensures_throw _ _

end Reader

end Descent.Json
