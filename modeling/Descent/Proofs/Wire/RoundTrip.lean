import Descent.Proofs.Wire.Tree

/-!
# Round Trips of Whole Texts

A whole text is read with room for 127 containers. Of all nodes exactly those
that are no deeper are read back from their documents, and of the others none
is mistaken for something else: each is refused with one and the same fault,
a fault of form.

No text can be read as a node that is too deep to be written and read again.
A text has much freedom, with its fields in any order, members to skip and
records written as lists, so this does not follow from what is written; it is
a bound on what any text is read as, from the readers alone. The range counts
here: a node cannot be had without one, and a range without room for its
positions cannot be read.

## Main definitions

* `Node.Draft.Fits`: A draft of a node holds nothing that is too deep.

## Theorems

* `ensures_reader`: A node is no deeper than the room it was read with.
* `documents_round_trip`: Round trips of whole texts, with their boundary.
-/

namespace Descent

open Json Reader

/-! ## The room that a result has taken -/

/-- A field that has been taken was there. -/
theorem ensures_taken {α : Type} (name : String) (field : Option α) :
    Ensures (taken name field) fun a => field = some a := by
  cases field with
  | none => exact ensures_throw _ _
  | some a => exact ensures_pure _ _ rfl

theorem Position.ensures_reader (room : Nat) :
    Ensures (Position.reader room) fun _ => 1 ≤ room := by
  have hrecord := ensures_recordOf "Position" (if room = 0 then none else some Position.fields)
    ⟨none, none, none⟩ (fun _ => True) True.intro
    (fun _ _ _ _ _ _ => ensures_trivial _)
  refine ensures_bind _ _ _ _ hrecord (fun d hd => ?_)
  -- There were fields to read, so the reader had room for them.
  have hroom : 1 ≤ room := by
    cases room with
    | zero => cases hd.1
    | succ room => omega
  exact ensures_skip _ _ _ fun _ => ensures_skip _ _ _ fun _ => ensures_skip _ _ _ fun _ =>
    ensures_pure _ _ hroom

/-- A range holds a position, which took room inside it. -/
theorem Range.ensures_reader (room : Nat) :
    Ensures (Range.reader room) fun _ => 2 ≤ room := by
  have hrecord := ensures_recordOf "SourceRange"
    (if room = 0 then none else some (Range.fields (room - 1))) ⟨none, none⟩
    (fun d => ∀ p, d.start = some p → 1 ≤ room - 1) nofun (fun all hall field hfield d hd => by
      by_cases hroom : room = 0
      · rw [if_pos hroom] at hall
        cases hall
      · rw [if_neg hroom] at hall
        cases hall
        rcases List.mem_cons.1 hfield with rfl | hfield
        · exact ensures_map _ _ _ _ (Position.ensures_reader (room - 1)) fun _ hp _ _ => hp
        · rw [List.mem_singleton.1 hfield]
          exact ensures_map _ _ _ _ (ensures_trivial _) fun _ _ => hd)
  refine ensures_bind _ _ _ _ hrecord (fun d hd => ?_)
  refine ensures_bind _ _ _ _ (ensures_taken "start" d.start) (fun p hp => ?_)
  -- The start is there, and it could be read only with room for it.
  have hroom := hd.2 p hp
  exact ensures_skip _ _ _ fun _ => ensures_pure _ _ (by omega)

namespace Meta

theorem height_insert_le (m : Meta) (name : String) (value : Value) :
    (m.insert name value).height ≤ max m.height value.height := by
  have hput := Value.membersHeight_putMember_le name value.sorted m.entries
  have hsorted := Value.height_sorted_le value
  -- The value is sorted first, which makes it no higher.
  unfold height
  rw [entries_insert]
  omega

theorem height_insertAll_le (m : Meta) (entries : List (String × Value)) :
    (m.insertAll entries).height ≤ max m.height (Value.membersHeight entries) := by
  induction entries generalizing m with
  | nil => exact Nat.le_max_left _ _
  | cons e rest ih =>
      rcases e with ⟨name, value⟩
      have hinsert := m.height_insert_le name value
      have hrest := ih (m.insert name value)
      rw [Value.membersHeight]
      exact Nat.le_trans hrest (by omega)

/-- Annotations took room for an object and for what is in it. -/
theorem ensures_reader (room : Nat) : Ensures (reader room) fun m => 1 + m.height ≤ room := by
  have hmap : Ensures (mapOf (if room = 0 then none else some (value (room - 1))))
      fun entries => 1 + Value.membersHeight entries ≤ room := by
    refine ensures_skip _ _ _ (fun c => ?_)
    split
    · refine ensures_bind _ _ _ _ (ensures_enter _) (fun item hitem => ?_)
      by_cases hroom : room = 0
      · rw [if_pos hroom] at hitem
        cases hitem
      · rw [if_neg hroom] at hitem
        cases hitem
        refine ensures_imp (ensures_entry _ _ (ensures_value (room - 1))) (fun all hall => ?_)
        omega
    · exact ensures_skip _ _ _ fun _ => ensures_throw _ _
  refine ensures_bind _ _ _ _ hmap (fun entries hentries => ensures_pure _ _ ?_)
  have hle := empty.height_insertAll_le entries
  have hempty : empty.height = 0 := rfl
  unfold ofEntries
  omega

end Meta

namespace Node

/-- A draft of a node holds nothing that is too deep for so much room. -/
structure Draft.Fits (room : Nat) (d : Draft) : Prop where
  range : ∀ r, d.range = some r → 2 ≤ room
  info : ∀ m, d.info = some m → 1 + m.height ≤ room
  params : ∀ ns, d.params = some ns → 1 + depths ns ≤ room

theorem depths_le (room : Nat) (nodes : List Node) (hnodes : ∀ n ∈ nodes, n.depth ≤ room) :
    depths nodes ≤ room := by
  induction nodes with
  | nil => exact Nat.zero_le room
  | cons n rest ih =>
      rw [List.forall_mem_cons] at hnodes
      have hrest := ih hnodes.2
      rw [depths]
      omega

/-- Every field of a node keeps its draft from being too deep. Three of them
    have something to say, and each says it of itself. -/
theorem ensures_fields (room : Nat)
    (hchildren : Ensures (childrenReader room) fun ns => 1 + depths ns ≤ room) :
    ∀ field ∈ fields room (childrenReader room), ∀ d : Draft, d.Fits room →
      Ensures (field.fill d) (Draft.Fits room) := by
  refine List.forall_mem_cons.2 ⟨fun d hd => ?_, List.forall_mem_cons.2 ⟨fun d hd => ?_,
    List.forall_mem_cons.2 ⟨fun d hd => ?_, List.forall_mem_cons.2 ⟨fun d hd => ?_,
      List.forall_mem_cons.2 ⟨fun d hd => ?_, List.forall_mem_cons.2 ⟨fun d hd => ?_, nofun⟩⟩⟩⟩⟩⟩
  · exact ensures_map _ _ _ _ (ensures_trivial _) fun _ _ => ⟨hd.range, hd.info, hd.params⟩
  · exact ensures_map _ _ _ _ (ensures_trivial _) fun _ _ => ⟨hd.range, hd.info, hd.params⟩
  · refine ensures_map _ _ _ _ (Range.ensures_reader room) (fun r hr => ?_)
    exact ⟨fun _ _ => hr, hd.info, hd.params⟩
  · refine ensures_map _ _ _ _ (Meta.ensures_reader room) (fun m hm => ?_)
    refine ⟨hd.range, fun m' hm' => ?_, hd.params⟩
    rw [← Option.some.inj hm']
    exact hm
  · refine ensures_map _ _ _ _ hchildren (fun ns hns => ?_)
    refine ⟨hd.range, hd.info, fun ns' hns' => ?_⟩
    rw [← Option.some.inj hns']
    exact hns
  · exact ensures_map _ _ _ _ (ensures_trivial _) fun _ _ => ⟨hd.range, hd.info, hd.params⟩

/-- A node that is read from a draft without anything too deep in it is not
    too deep. It has a range, so there was room for that. -/
theorem ensures_readerOf (room : Nat) (all : List (RecordField Draft))
    (hfill : ∀ field ∈ all, ∀ d : Draft, d.Fits room → Ensures (field.fill d) (Draft.Fits room)) :
    Ensures (readerOf (some all)) fun n => n.depth ≤ room + 1 := by
  have hrecord := ensures_recordOf "Node" (some all) ⟨none, none, none, none, none, none⟩
    (Draft.Fits room) ⟨nofun, nofun, nofun⟩ (fun _ hall => Option.some.inj hall ▸ hfill)
  refine ensures_bind _ _ _ _ hrecord (fun d hd => ?_)
  refine ensures_skip _ _ _ (fun kind => ensures_skip _ _ _ fun value => ?_)
  refine ensures_bind _ _ _ _ (ensures_taken "range" d.range) (fun range hrange => ?_)
  have hroom := hd.2.range range hrange
  -- Annotations and children that were left out are empty and need less than
  -- the range.
  have hinfo : 1 + (d.info.getD .empty).height ≤ room := by
    cases hsome : d.info with
    | none =>
        have hempty : Meta.empty.height = 0 := rfl
        rw [Option.getD_none]
        omega
    | some m => exact hd.2.info m hsome
  have hparams : 1 + depths (d.params.getD []) ≤ room := by
    cases hsome : d.params with
    | none =>
        rw [Option.getD_none, depths]
        omega
    | some ns => exact hd.2.params ns hsome
  refine ensures_pure _ _ ?_
  rw [depth_eq]
  dsimp only
  omega

theorem ensures_childrenReader (room : Nat)
    (hnodes : ∀ inner, inner < room → Ensures (reader inner) fun n => n.depth ≤ inner) :
    Ensures (childrenReader room) fun ns => 1 + depths ns ≤ room := by
  cases room with
  | zero =>
      refine ensures_imp (ensures_listOf none (fun _ => True) nofun) (fun ns hns => ?_)
      -- No list could be opened, so there is no result to speak of.
      cases hns.1
  | succ room =>
      have hlist := ensures_listOf (some (reader room)) (fun n => n.depth ≤ room)
        (fun item hitem => Option.some.inj hitem ▸ hnodes room (by omega))
      refine ensures_imp hlist (fun ns hns => ?_)
      have hle := depths_le room ns hns.2
      omega

/-- A node is no deeper than the room it was read with. -/
theorem ensures_reader (room : Nat) : Ensures (reader room) fun n => n.depth ≤ room := by
  induction room using Nat.strongRecOn with
  | ind room ih =>
      cases room with
      | zero =>
          have hrecord := ensures_recordOf "Node" none
            (⟨none, none, none, none, none, none⟩ : Draft) (fun _ => True) True.intro nofun
          -- Without any room there are no fields, and no node is read.
          refine ensures_bind _ _ _ _ hrecord (fun d hd => ?_)
          cases hd.1
      | succ room =>
          rw [reader_succ]
          have hchildren := ensures_childrenReader room fun inner hinner => ih inner (by omega)
          exact ensures_readerOf room _ (ensures_fields room hchildren)

end Node

/-! ## Whole texts -/

/-- A result that has the room of a whole text is read from it, and one that
    does not is refused. -/
theorem parse_within {α : Type} (reader : Nat → Reader α) (text : String) (depth : Nat) (a : α)
    (hreads : Reads (reader room) text (within depth room a)) :
    (depth ≤ 127 → (reader room).parse text = .ok a) ∧
    (127 < depth → (reader room).parse text = .error .tooDeep) := by
  have hparse := parse_of_reads _ text _ hreads
  constructor
  · intro hle
    rw [hparse]
    exact within_of_le depth room a hle
  · intro hlt
    rw [hparse]
    exact within_of_lt depth room a hlt

/-- A node whose numbers are read back is read back from its document exactly
    if it is no deeper than 127, and refused for its form otherwise; all
    integers are read back. No text is read as a deeper node, so what has
    been read once is written and read again without a change. Positions,
    ranges, tokens and options are always read back. -/
theorem documents_round_trip :
    (∀ n : Node, n.NumbersReadBack →
      (n.depth ≤ 127 → Node.ofDocument n.document = .ok n) ∧
      (127 < n.depth → Node.ofDocument n.document = .error .tooDeep)) ∧
    Fault.tooDeep.faultClass = .form ∧
    (∀ (i : Int) (fits : FitsWord i), (Number.integer i fits).ReadsBack) ∧
    (∀ (text : String) (n : Node), Node.ofDocument text = .ok n →
      n.depth ≤ 127 ∧ (n.NumbersReadBack → Node.ofDocument n.document = .ok n)) ∧
    (∀ p : Position, Position.ofDocument p.document = .ok p) ∧
    (∀ r : Range, Range.ofDocument r.document = .ok r) ∧
    (∀ t : Token, Token.ofDocument t.document = .ok t) ∧
    (∀ o : Options, Options.ofDocument o.document = .ok o) := by
  have hnodes : ∀ n : Node, n.NumbersReadBack →
      (n.depth ≤ 127 → Node.ofDocument n.document = .ok n) ∧
      (127 < n.depth → Node.ofDocument n.document = .error .tooDeep) := fun n hn =>
    parse_within Node.reader n.document n.depth n (n.reads_node hn room)
  refine ⟨hnodes, rfl, readsBack_integer, fun text n hparse => ?_, fun p => ?_, fun r => ?_,
    fun t => ?_, fun o => ?_⟩
  -- What has been read is not too deep, so its document is not refused.
  · have hdepth : n.depth ≤ 127 :=
      ensures_of_parse _ _ (Node.ensures_reader room) text n hparse
    exact ⟨hdepth, fun hn => (hnodes n hn).1 hdepth⟩
  · exact (parse_within Position.reader _ 1 p (p.reads_position room)).1 (by decide)
  · exact (parse_within Range.reader _ 2 r (r.reads_range room)).1 (by decide)
  · exact (parse_within Token.reader _ 2 t (t.reads_token room)).1 (by decide)
  · exact (parse_within Options.reader _ 1 o (o.reads_options room)).1 (by decide)

namespace Json.Value

/-- A value in so many lists. -/
def nested (v : Value) : Nat → Value
  | 0 => v
  | count + 1 => .array [v.nested count]

theorem height_nested (v : Value) (count : Nat) :
    (v.nested count).height = count + v.height := by
  induction count with
  | zero => exact (Nat.zero_add _).symm
  | succ count ih =>
      rw [nested, height, itemsHeight, itemsHeight, ih]
      omega

theorem inOrder_nested (v : Value) (hv : v.InOrder) (count : Nat) : (v.nested count).InOrder := by
  induction count with
  | zero => exact hv
  | succ count ih => exact ⟨ih, True.intro⟩

theorem numbersReadBack_nested (v : Value) (hv : v.NumbersReadBack) (count : Nat) :
    (v.nested count).NumbersReadBack := by
  induction count with
  | zero => exact hv
  | succ count ih => exact ⟨ih, True.intro⟩

end Json.Value

/-- A node with an annotation in 125 lists is read back, from its document and
    from what it is read as; with one list more it is refused. -/
theorem documents_round_trip_at_the_boundary :
    let one : Value := .number (.integer 1 (by decide))
    let node (count : Nat) : Node :=
      ⟨.noop, "", ⟨.nowhere, .nowhere⟩,
        ⟨[("deep", one.nested count)], nofun, one.inOrder_nested True.intro count, True.intro⟩,
        [], none⟩
    (node 125).depth = 127 ∧ (node 126).depth = 128 ∧
      Node.ofDocument (node 125).document = .ok (node 125) ∧
      Node.ofDocument (node 126).document = .error .tooDeep := by
  intro one node
  rcases documents_round_trip with ⟨hnodes, _, hintegers, htexts, _⟩
  have hone : one.NumbersReadBack := hintegers 1 (by decide)
  have hnumbers : ∀ count, (node count).NumbersReadBack := fun count =>
    ⟨⟨one.numbersReadBack_nested hone count, True.intro⟩, True.intro⟩
  -- The annotation is in two objects, those of the node and of the annotations.
  have hdepth : ∀ count, 1 ≤ count → (node count).depth = 2 + count := by
    intro count hcount
    have hheight : (one.nested count).height = count := one.height_nested count
    rw [Node.depth_eq]
    dsimp only [node, Meta.height]
    rw [Value.membersHeight, Value.membersHeight, hheight, Node.depths]
    omega
  have hlow : (node 125).depth ≤ 127 := Nat.le_of_eq (hdepth 125 (by decide))
  have hhigh : 127 < (node 126).depth := Nat.le_of_eq (hdepth 126 (by decide)).symm
  have hread := (hnodes (node 125) (hnumbers 125)).1 hlow
  exact ⟨hdepth 125 (by decide), hdepth 126 (by decide),
    (htexts _ (node 125) hread).2 (hnumbers 125),
    (hnodes (node 126) (hnumbers 126)).2 hhigh⟩

end Descent
