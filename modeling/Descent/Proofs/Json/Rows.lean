import Descent.Proofs.Json.Strings

/-!
# Reading Rows

The inside of a list and that of an object are rows: items or members with
commas between them. Blanks may stand in front of every comma, in front of
every item, and in front of the bracket at the end. The loops that read rows
are the only readers that meet these blanks in the middle of their work, so
what blanks do to them is told here, once for lists and once for objects.

A row is told from how its parts are spelled. In a compact text each part is
spelled in one way and there are no blanks; in a text that was laid out by
hand a part may be spelled in many ways. What is made of the row depends on
what is made of its parts alone: for a list it is a `mapM` over the items, for
an object a `foldlM` over the members, up to the first fault.

## Main definitions

* `IsGap`: Blanks, as many as there are.
* `SkipsBlanks`: A reader that does not mind blanks in front.
* `Row`: Parts with commas in front of all but the first.
* `ReadsItem`, `ReadsMember`: What is made of one part of a row.

## Theorems

* `itemsFrom_row`, `list_row`: The inside of a list is read item by item.
* `membersFrom_row`, `members_row`: The inside of an object is read member by
  member.
-/

namespace Descent.Json.Reader

variable {α β δ : Type}

/-! ## Blanks -/

/-- Blanks, as many as there are. -/
def IsGap (gap : List Char) : Prop := ∀ c ∈ gap, isBlank c = true

theorem isGap_nil : IsGap [] := nofun

/-- A reader that does not mind blanks in front. -/
def SkipsBlanks (reader : Reader α) : Prop :=
  ∀ gap cs, IsGap gap → reader (gap ++ cs) = reader cs

theorem skipsBlanks_next? : SkipsBlanks next? := by
  intro gap cs hgap
  unfold next?
  rw [List.dropWhile_append_of_pos hgap]

theorem skipsBlanks_bind (reader : Reader α) (next : α → Reader β) (hreader : SkipsBlanks reader) :
    SkipsBlanks (reader >>= next) := by
  intro gap cs hgap
  rw [bind_apply, bind_apply, hreader gap cs hgap]

theorem skipsBlanks_start : SkipsBlanks start := skipsBlanks_bind _ _ skipsBlanks_next?

theorem mem_endings_of_isBlank (c : Char) (hc : isBlank c = true) : c ∈ endings := by
  simp only [isBlank, Bool.or_eq_true, decide_eq_true_eq] at hc
  rcases hc with ((rfl | rfl) | rfl) | rfl <;> simp [endings]

/-- A blank may follow a value, and so may what may follow the blank. -/
theorem isEnded_gap (gap rest : List Char) (hgap : IsGap gap) (hrest : IsEnded rest) :
    IsEnded (gap ++ rest) := by
  cases gap with
  | nil => exact hrest
  | cons c gap => exact isEnded_cons c _ (mem_endings_of_isBlank c (hgap c List.mem_cons_self))

/-! ## Rows -/

/-- What stands in front of a part: nothing in front of the first, a comma in
    front of the others. -/
def IsComma (isFirst : Bool) (lead : List Char) : Prop :=
  if isFirst then lead = [] else ∃ gap, IsGap gap ∧ lead = gap ++ [',']

/-- Parts one after the other, each spelled in some way, with commas in front
    of all but the first. -/
inductive Row (spelled : β → List Char → Prop) : Bool → List β → List Char → Prop
  | nil (isFirst : Bool) : Row spelled isFirst [] []
  | cons {isFirst : Bool} {lead cs more : List Char} {x : β} {xs : List β}
      (hlead : IsComma isFirst lead) (hcs : spelled x cs) (hmore : Row spelled false xs more) :
      Row spelled isFirst (x :: xs) (lead ++ (cs ++ more))

/-- Parts that are not empty are not more than their characters, so a loop
    over them has fuel enough. -/
theorem Row.length_le {spelled : β → List Char → Prop} {isFirst : Bool} {xs : List β}
    {cs : List Char} (hrow : Row spelled isFirst xs cs)
    (hspelled : ∀ x ∈ xs, ∀ cs, spelled x cs → cs ≠ []) : xs.length ≤ cs.length := by
  induction hrow with
  | nil isFirst => exact Nat.zero_le _
  | cons hlead hcs hmore ih =>
      rw [List.forall_mem_cons] at hspelled
      have hrest := ih hspelled.2
      have hpart := List.length_pos_iff.2 (hspelled.1 _ hcs)
      rw [List.length_cons, List.length_append, List.length_append]
      omega

/-- What follows a part is the next one or the end. -/
theorem Row.isEnded {spelled : β → List Char → Prop} {xs : List β} {cs : List Char}
    (hrow : Row spelled false xs cs) (rest : List Char) (hrest : IsEnded rest) :
    IsEnded (cs ++ rest) := by
  cases hrow with
  | nil => exact hrest
  | cons hlead hcs hmore =>
      rcases hlead with ⟨gap, hgap, rfl⟩
      rw [List.append_assoc, List.append_assoc]
      exact isEnded_gap gap _ hgap (isEnded_comma _)

/-! ## Lists -/

/-- Behind a comma an item has to follow. -/
theorem listGoesOn_comma (cs : List Char) :
    listGoesOn false (',' :: cs) =
      (do
        match ← next? with
        | some ']' => throw .trailingComma
        | some _ => return true
        | none => throw .valueCutOff : Reader Bool) cs := rfl

theorem skipsBlanks_listGoesOn (isFirst : Bool) : SkipsBlanks (listGoesOn isFirst) :=
  skipsBlanks_bind _ _ skipsBlanks_next?

theorem listGoesOn_bracket (isFirst : Bool) (gap rest : List Char) (hgap : IsGap gap) :
    listGoesOn isFirst (gap ++ ']' :: rest) = .ok (false, ']' :: rest) := by
  rw [skipsBlanks_listGoesOn isFirst gap _ hgap]
  rfl

/-- A list goes on with an item that starts with a character of its own. -/
theorem listGoesOn_item (isFirst : Bool) (lead gap : List Char) (c : Char) (cs : List Char)
    (hlead : IsComma isFirst lead) (hgap : IsGap gap) (hblank : isBlank c = false)
    (hclose : c ≠ ']') : listGoesOn isFirst (lead ++ (gap ++ c :: cs)) = .ok (true, c :: cs) := by
  cases isFirst with
  | true =>
      have hnone : lead = [] := hlead
      rw [hnone, List.nil_append, skipsBlanks_listGoesOn true gap _ hgap, listGoesOn,
        bind_ok next? _ _ _ _ (next?_cons c _ hblank)]
      refine congrFun (?_ : _ = (pure true : Reader Bool)) _
      split
      · next hnone => cases hnone
      · next hsame => exact absurd (Option.some.inj hsame) hclose
      · rfl
  | false =>
      rcases hlead with ⟨front, hfront, rfl⟩
      rw [List.append_assoc, skipsBlanks_listGoesOn false front _ hfront, List.singleton_append,
        listGoesOn_comma, skipsBlanks_bind _ _ skipsBlanks_next? gap _ hgap,
        bind_ok next? _ _ _ _ (next?_cons c _ hblank)]
      refine congrFun (?_ : _ = (pure true : Reader Bool)) _
      split
      · next hsame => exact absurd (Option.some.inj hsame) hclose
      · rfl
      · next hnone => cases hnone

/-- What is made of one item: it starts with a character that no list ends
    with, and read from there it leaves what follows. -/
def ReadsItem (item : Reader α) (cs : List Char) (outcome : Except Fault α) : Prop :=
  ∃ gap c more, cs = gap ++ c :: more ∧ IsGap gap ∧ isBlank c = false ∧ c ≠ ']' ∧
    ∀ rest, IsEnded rest → item (c :: (more ++ rest)) = outcome.map (·, rest)

/-- The inside of a list is read item by item, up to the first fault. The
    induction is on the row, and each item uses up one round. -/
theorem itemsFrom_row (item : Reader α) (spelled : β → List Char → Prop)
    (outcome : β → Except Fault α) (isFirst : Bool) (items : List β) (cs gap rest : List Char)
    (hrow : Row spelled isFirst items cs) (hgap : IsGap gap)
    (hitem : ∀ x ∈ items, ∀ cs, spelled x cs → ReadsItem item cs (outcome x))
    (fuel : List Char) (hfuel : items.length < fuel.length) :
    itemsFrom item fuel isFirst (cs ++ (gap ++ ']' :: rest)) =
      (items.mapM outcome).map (·, ']' :: rest) := by
  induction hrow generalizing fuel with
  | nil isFirst =>
      cases fuel with
      | nil => cases hfuel
      | cons c fuel =>
          rw [List.nil_append, itemsFrom,
            bind_ok _ _ _ _ _ (listGoesOn_bracket isFirst gap rest hgap)]
          rfl
  | @cons isFirst lead cs more x xs hlead hcs hmore ih =>
      cases fuel with
      | nil => cases hfuel
      | cons c fuel =>
          rw [List.forall_mem_cons] at hitem
          rcases hitem.1 cs hcs with ⟨front, first, cs', rfl, hfront, hblank, hclose, hread⟩
          have hended := hmore.isEnded (gap ++ ']' :: rest)
            (isEnded_gap gap _ hgap (isEnded_bracket rest))
          have hhead := hread _ hended
          have htail := ih hitem.2 fuel (Nat.lt_of_succ_lt_succ hfuel)
          -- The loop finds another item, which is read up to the next comma.
          have hgoes := listGoesOn_item isFirst lead front first
            (cs' ++ (more ++ (gap ++ ']' :: rest))) hlead hfront hblank hclose
          simp only [List.append_assoc, List.cons_append] at hgoes ⊢
          rw [itemsFrom, bind_ok _ _ _ _ _ hgoes, if_pos rfl, List.mapM_cons]
          cases hx : outcome x with
          -- A fault of this item is the fault of the list.
          | error fault =>
              rw [hx] at hhead
              exact bind_error item _ _ fault hhead
          | ok a =>
              rw [hx] at hhead
              rw [bind_ok item _ _ _ a hhead, bind_apply, htail]
              cases xs.mapM outcome with
              | error fault => rfl
              | ok all => rfl

/-- A list with its brackets, the first of which has been taken. -/
theorem list_row (item : Reader α) (spelled : β → List Char → Prop)
    (outcome : β → Except Fault α) (items : List β) (cs gap rest : List Char)
    (hrow : Row spelled true items cs) (hgap : IsGap gap)
    (hitem : ∀ x ∈ items, ∀ cs, spelled x cs → ReadsItem item cs (outcome x)) :
    list item (cs ++ (gap ++ ']' :: rest)) = (items.mapM outcome).map (·, rest) := by
  -- No item is empty, so there are characters enough for all rounds.
  have hlength : items.length ≤ cs.length := by
    refine hrow.length_le (fun x hx cs hcs => ?_)
    rcases hitem x hx cs hcs with ⟨front, c, more, rfl, _⟩
    simp
  have hitems := itemsFrom_row item spelled outcome true items cs gap rest hrow hgap hitem
    (' ' :: (cs ++ (gap ++ ']' :: rest))) (by
      rw [List.length_cons, List.length_append]
      omega)
  rw [list, bind_ok fuel _ _ _ _ rfl, bind_apply, hitems]
  cases items.mapM outcome with
  | ok all => rfl
  | error fault => rfl

/-! ## Objects -/

/-- Behind a comma a key has to follow. -/
theorem objectGoesOn_comma (cs : List Char) :
    objectGoesOn false (',' :: cs) =
      (do
        match ← next? with
        | some '"' => return true
        | some '\x7d' => throw .trailingComma
        | some _ => throw .keyNotString
        | none => throw .valueCutOff : Reader Bool) cs := rfl

theorem skipsBlanks_objectGoesOn (isFirst : Bool) : SkipsBlanks (objectGoesOn isFirst) :=
  skipsBlanks_bind _ _ skipsBlanks_next?

theorem objectGoesOn_brace (isFirst : Bool) (gap rest : List Char) (hgap : IsGap gap) :
    objectGoesOn isFirst (gap ++ '\x7d' :: rest) = .ok (false, '\x7d' :: rest) := by
  rw [skipsBlanks_objectGoesOn isFirst gap _ hgap]
  rfl

/-- An object goes on with the quote of a key. -/
theorem objectGoesOn_quote (isFirst : Bool) (lead gap cs : List Char)
    (hlead : IsComma isFirst lead) (hgap : IsGap gap) :
    objectGoesOn isFirst (lead ++ (gap ++ '"' :: cs)) = .ok (true, '"' :: cs) := by
  cases isFirst with
  | true =>
      have hnone : lead = [] := hlead
      rw [hnone, List.nil_append, skipsBlanks_objectGoesOn true gap _ hgap]
      rfl
  | false =>
      rcases hlead with ⟨front, hfront, rfl⟩
      rw [List.append_assoc, skipsBlanks_objectGoesOn false front _ hfront,
        List.singleton_append, objectGoesOn_comma,
        skipsBlanks_bind _ _ skipsBlanks_next? gap _ hgap]
      rfl

/-- What is made of one member: it starts with the quote of its key, and read
    from there, into what has been read so far, it leaves what follows. -/
def ReadsMember (member : δ → String → Reader δ) (cs : List Char)
    (step : δ → Except Fault δ) : Prop :=
  ∃ gap more, cs = gap ++ '"' :: more ∧ IsGap gap ∧
    ∀ done rest, IsEnded rest →
      (key >>= member done) ('"' :: (more ++ rest)) = (step done).map (·, rest)

/-- The inside of an object is read member by member, up to the first fault,
    each into what has been read so far. -/
theorem membersFrom_row (member : δ → String → Reader δ) (spelled : β → List Char → Prop)
    (step : δ → β → Except Fault δ) (isFirst : Bool) (all : List β) (cs gap rest : List Char)
    (hrow : Row spelled isFirst all cs) (hgap : IsGap gap)
    (hmember : ∀ x ∈ all, ∀ cs, spelled x cs → ReadsMember member cs (step · x))
    (fuel : List Char) (done : δ) (hfuel : all.length < fuel.length) :
    membersFrom member fuel isFirst done (cs ++ (gap ++ '\x7d' :: rest)) =
      (all.foldlM step done).map (·, '\x7d' :: rest) := by
  induction hrow generalizing fuel done with
  | nil isFirst =>
      cases fuel with
      | nil => cases hfuel
      | cons c fuel =>
          rw [List.nil_append, membersFrom,
            bind_ok _ _ _ _ _ (objectGoesOn_brace isFirst gap rest hgap)]
          rfl
  | @cons isFirst lead cs more x xs hlead hcs hmore ih =>
      cases fuel with
      | nil => cases hfuel
      | cons c fuel =>
          rw [List.forall_mem_cons] at hmember
          rcases hmember.1 cs hcs with ⟨front, cs', rfl, hfront, hread⟩
          have hended := hmore.isEnded (gap ++ '\x7d' :: rest)
            (isEnded_gap gap _ hgap (isEnded_brace rest))
          have hhead : _ = (step done x).map _ := hread done _ hended
          -- The loop finds another key, and what follows it is left to the
          -- member.
          have hgoes := objectGoesOn_quote isFirst lead front
            (cs' ++ (more ++ (gap ++ '\x7d' :: rest))) hlead hfront
          have hround : membersFrom member (c :: fuel) isFirst done = (do
              if ← objectGoesOn isFirst then
                (key >>= member done) >>= membersFrom member fuel false
              else return done : Reader δ) := by
            simp only [membersFrom, bind_assoc]
          simp only [List.append_assoc, List.cons_append] at hgoes ⊢
          rw [hround, bind_ok _ _ _ _ _ hgoes, if_pos rfl, List.foldlM_cons]
          cases hx : step done x with
          | error fault =>
              rw [hx] at hhead
              exact bind_error _ _ _ fault hhead
          | ok next =>
              rw [hx] at hhead
              rw [bind_ok _ _ _ _ next hhead]
              exact ih hmember.2 fuel next (Nat.lt_of_succ_lt_succ hfuel)

/-- An object with its braces, the first of which has been taken. -/
theorem members_row (member : δ → String → Reader δ) (spelled : β → List Char → Prop)
    (step : δ → β → Except Fault δ) (all : List β) (cs gap rest : List Char)
    (hrow : Row spelled true all cs) (hgap : IsGap gap)
    (hmember : ∀ x ∈ all, ∀ cs, spelled x cs → ReadsMember member cs (step · x)) (blank : δ) :
    members member blank (cs ++ (gap ++ '\x7d' :: rest)) =
      (all.foldlM step blank).map (·, rest) := by
  have hlength : all.length ≤ cs.length := by
    refine hrow.length_le (fun x hx cs hcs => ?_)
    rcases hmember x hx cs hcs with ⟨front, more, rfl, _⟩
    simp
  have hmembers := membersFrom_row member spelled step true all cs gap rest hrow hgap hmember
    (' ' :: (cs ++ (gap ++ '\x7d' :: rest))) blank (by
      rw [List.length_cons, List.length_append]
      omega)
  rw [members, bind_ok fuel _ _ _ _ rfl, bind_apply, hmembers]
  cases all.foldlM step blank with
  | ok done => rfl
  | error fault => rfl

end Descent.Json.Reader
