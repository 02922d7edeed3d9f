import Descent.Proofs.Json.Depth
import Descent.Proofs.Wire.Source
import Descent.Wire.Tree

/-!
# Round Trips of Nodes

A node is read back from its document if there is room for its depth, and is
refused as too deep otherwise. The depth is that of the document and not of
the tree alone: a node holds a range and a range holds positions, so three
containers are always open at once; an annotation of some height stands in
the object of its node and in that of the annotations; and a child stands in
its parent and in the list of children.

The proof is an induction on the tree for any room. What a node does is told
once, for any children that are read back with the room that is left
(`reads_of_children`); its fields are read in the order in which they were
written, so the first one without room decides.

## Main definitions

* `Meta.height`, `Node.depth`: How much room a document needs.
* `Node.NumbersReadBack`: All numbers in a tree are read back.
* `Node.childrenReader`: The reader for the children of a node.

## Theorems

* `reads_meta`: Annotations are read back if there is room.
* `reads_of_children`: A node is read back if its children are.
* `reads_node`: A node is read back exactly if there is room for its depth.
-/

namespace Descent

open Json Reader

namespace Meta

/-- The greatest height of an annotation. -/
def height (m : Meta) : Nat := Value.membersHeight m.entries

/-- All numbers in the annotations are read back. -/
def NumbersReadBack (m : Meta) : Prop := Value.MembersReadBack m.entries

theorem entries_insert (m : Meta) (name : String) (value : Value) :
    (m.insert name value).entries = putMember name value.sorted m.entries := rfl

/-- Entries in order and behind those there are added as they are. -/
theorem entries_insertAll (m : Meta) (entries : List (String × Value))
    (horder : Value.MembersInOrder entries) (hbehind : ∀ d ∈ m.entries, ∀ e ∈ entries, d.1 < e.1) :
    (m.insertAll entries).entries = m.entries ++ entries := by
  induction entries generalizing m with
  | nil => exact (List.append_nil _).symm
  | cons e rest ih =>
      rcases e with ⟨name, value⟩
      rcases horder with ⟨hleast, hvalue, hrest⟩
      have hlast : ∀ d ∈ m.entries, d.1 < name := fun d hd =>
        hbehind d hd (name, value) List.mem_cons_self
      -- The value is sorted already and its name past all others, so it is
      -- appended as it is.
      have hinsert : (m.insert name value).entries = m.entries ++ [(name, value)] := by
        rw [entries_insert, Value.sorted_of_inOrder value hvalue, Value.putMember_eq_append hlast]
      have hnext : ∀ d ∈ (m.insert name value).entries, ∀ e ∈ rest, d.1 < e.1 := by
        intro d hd e he
        rw [hinsert] at hd
        rcases List.mem_append.1 hd with hold | hnew
        · exact hbehind d hold e (List.mem_cons_of_mem _ he)
        · rw [List.mem_singleton.1 hnew]
          exact hleast e he
      have htail := ih (m.insert name value) hrest hnext
      rw [hinsert, List.append_assoc] at htail
      exact htail

theorem ofEntries_entries (m : Meta) : ofEntries m.entries = m := by
  refine Meta.ext ?_
  exact entries_insertAll empty m.entries m.inOrder nofun

/-- Annotations are read back if there is room for an object around the
    highest of them. -/
theorem reads_meta (room : Nat) (m : Meta) (hm : m.NumbersReadBack) :
    Reads (reader room) m.document (within (1 + m.height) room m) := by
  have hentries : Reads (mapOf (if room = 0 then none else some (value (room - 1)))) m.document
      (within (1 + m.height) room m.entries) := by
    rw [document, Value.text, Value.memberTexts_eq_map]
    cases room with
    | zero =>
        rw [within_of_lt _ 0 _ (by omega)]
        exact reads_mapOf_none _
    | succ room =>
        have hmap := reads_mapOf (value room) m.entries Value.text
          (fun v => within v.height room v) (reads_members room m.entries m.inOrder hm)
        rw [foldlM_within room m.entries [] m.inOrder nofun] at hmap
        rw [within_succ]
        exact hmap
  -- What has been read is in order, so taking it as annotations changes
  -- nothing.
  refine hentries.bind_within _ m (fun rest => ?_)
  rw [pure_apply, m.ofEntries_entries]

end Meta

namespace NodeKind

/-- A kind is read back, and needs no room for that. -/
theorem reads_kind (room : Nat) (kind : NodeKind) :
    Reads (reader room) kind.document (.ok kind) :=
  reads_variant name all _ kind kind.ofName?_name

end NodeKind

namespace Node

mutual

/-- How many containers of the document of a node are in each other: the
    three of a node with its range and a position, or more if annotations or
    children are deeper. -/
def depth : Node → Nat
  | ⟨_, _, _, info, params, _⟩ => max 3 (max (2 + info.height) (2 + depths params))

/-- The greatest depth of nodes. -/
def depths : List Node → Nat
  | [] => 0
  | node :: rest => max node.depth (depths rest)

end

theorem depth_eq (n : Node) :
    n.depth = max 3 (max (2 + n.info.height) (2 + depths n.params)) := by
  cases n
  rfl

mutual

/-- All numbers in the annotations of a node and its children are read
    back. -/
def NumbersReadBack : Node → Prop
  | ⟨_, _, _, info, params, _⟩ => info.NumbersReadBack ∧ AllReadBack params

/-- The same for a list of nodes. -/
def AllReadBack : List Node → Prop
  | [] => True
  | node :: rest => node.NumbersReadBack ∧ AllReadBack rest

end

/-- The reader for the children of a node with so much room inside it. -/
def childrenReader : Nat → Reader (List Node)
  | 0 => listOf none
  | room + 1 => listOf (some (reader room))

theorem reader_succ (room : Nat) :
    reader (room + 1) = readerOf (some (fields room (childrenReader room))) := by
  cases room with
  | zero => rfl
  | succ room => rfl

theorem documents_eq_map (nodes : List Node) : documents nodes = nodes.map document := by
  induction nodes with
  | nil => rfl
  | cons n rest ih => rw [documents, ih, List.map_cons]

theorem isVisible_document (n : Node) : IsVisible n.document := by
  cases n
  exact isVisible_objectText _

/-- Children are read back if each of them is with the room that is left. -/
theorem reads_children (room : Nat) (nodes : List Node)
    (hnodes : ∀ room, ∀ n ∈ nodes, Reads (reader room) n.document (within n.depth room n)) :
    Reads (childrenReader room) (listText (documents nodes))
      (within (1 + depths nodes) room nodes) := by
  rw [documents_eq_map]
  cases room with
  | zero =>
      rw [within_of_lt _ 0 _ (by omega)]
      exact reads_listOf_none _
  | succ room =>
      -- The bracket takes one level, and each child has the room that is left.
      have hlist := reads_listOf (reader room) nodes document (fun n => within n.depth room n)
        (fun n _ => n.isVisible_document) (hnodes room)
      rw [mapM_within depth depths rfl (fun _ _ => rfl)] at hlist
      rw [within_succ]
      exact hlist

/-- The fields of a node with their texts, the last but one read by the
    reader for its children. -/
def written (room : Nat) (n : Node) (hinfo : n.info.NumbersReadBack)
    (hparams : Reads (childrenReader room) (listText (documents n.params))
      (within (1 + depths n.params) room n.params)) : List (WrittenField Draft) :=
  [⟨(fields room (childrenReader room)).get ⟨0, by simp [fields]⟩, n.kind.document,
      fun d => .ok { d with kind := some n.kind }, fun _ => (n.kind.reads_kind room).map _⟩,
    ⟨(fields room (childrenReader room)).get ⟨1, by simp [fields]⟩, stringText n.value,
      fun d => .ok { d with value := some n.value }, fun _ => (reads_string n.value).map _⟩,
    ⟨(fields room (childrenReader room)).get ⟨2, by simp [fields]⟩, n.range.document,
      fun d => (within 2 room n.range).map fun r => { d with range := some r },
      fun _ => (n.range.reads_range room).map _⟩,
    ⟨(fields room (childrenReader room)).get ⟨3, by simp [fields]⟩, n.info.document,
      fun d => (within (1 + n.info.height) room n.info).map fun m => { d with info := some m },
      fun _ => (n.info.reads_meta room hinfo).map _⟩,
    ⟨(fields room (childrenReader room)).get ⟨4, by simp [fields]⟩,
      listText (documents n.params),
      fun d => (within (1 + depths n.params) room n.params).map fun ns =>
        { d with params := some ns },
      fun _ => hparams.map _⟩,
    ⟨(fields room (childrenReader room)).get ⟨5, by simp [fields]⟩,
      optionText stringText n.typeName,
      fun d => .ok { d with typeName := some n.typeName },
      fun _ => (reads_string? n.typeName).map _⟩]

/-- What a node is written as, with all its fields read. -/
def draft (n : Node) : Draft :=
  ⟨some n.kind, some n.value, some n.range, some n.info, some n.params, some n.typeName⟩

/-- The last step of a node puts its fields together. -/
theorem taken_draft (n : Node) (rest : List Char) :
    (do return ⟨← taken "kind" n.draft.kind, ← taken "value" n.draft.value,
        ← taken "range" n.draft.range, n.draft.info.getD .empty, n.draft.params.getD [],
        n.draft.typeName.getD none⟩ : Reader Node) rest = .ok (n, rest) := by
  cases n
  rfl

/-- A node is read back if its children are. Of its fields the range, the
    annotations and the children need room, and the first of them that does
    not get it decides. -/
theorem reads_of_children (room : Nat) (n : Node) (hinfo : n.info.NumbersReadBack)
    (hparams : ∀ room, ∀ m ∈ n.params, Reads (reader room) m.document (within m.depth room m)) :
    Reads (reader room) n.document (within n.depth room n) := by
  have hdepth : n.depth = 1 + max 2 (max (1 + n.info.height) (1 + depths n.params)) := by
    rw [depth_eq]
    omega
  have hdocument : n.document = objectText
      [("kind", n.kind.document), ("value", stringText n.value), ("range", n.range.document),
        ("meta", n.info.document), ("params", listText (documents n.params)),
        ("type", optionText stringText n.typeName)] := by
    cases n
    rfl
  rw [hdepth, hdocument]
  cases room with
  | zero =>
      refine Reads.bind_within (a := n.draft) ?_ _ n n.taken_draft
      rw [within_of_lt _ 0 _ (by omega)]
      exact reads_recordOf_none _ _ _
  | succ room =>
      have hfields := reads_recordOf "Node" (fields room (childrenReader room))
        ⟨none, none, none, none, none, none⟩
        (n.written room hinfo (reads_children room n.params hparams)) rfl
        (show ["kind", "value", "range", "meta", "params", "type"].Nodup by decide)
      have houtcome : (n.written room hinfo (reads_children room n.params hparams)).foldlM
          WrittenField.step ⟨none, none, none, none, none, none⟩ >>=
            completed (fields room (childrenReader room)) =
          within (max 2 (max (1 + n.info.height) (1 + depths n.params))) room n.draft := by
        -- The kind and the value are always read. Then come the three that need
        -- room, in turn.
        by_cases hrange : 2 ≤ room
        · by_cases hheight : 1 + n.info.height ≤ room
          · by_cases hchildren : 1 + depths n.params ≤ room
            · simp only [written, within_of_le _ room _ hrange, within_of_le _ room _ hheight,
                within_of_le _ room _ hchildren]
              rw [within_of_le _ room n.draft (by omega)]
              rfl
            · simp only [written, within_of_le _ room _ hrange, within_of_le _ room _ hheight,
                within_of_lt (1 + depths n.params) room _ (by omega)]
              rw [within_of_lt _ room n.draft (by omega)]
              rfl
          · simp only [written, within_of_le _ room _ hrange,
              within_of_lt (1 + n.info.height) room _ (by omega)]
            rw [within_of_lt _ room n.draft (by omega)]
            rfl
        · simp only [written, within_of_lt 2 room _ (by omega)]
          rw [within_of_lt _ room n.draft (by omega)]
          rfl
      rw [houtcome] at hfields
      rw [reader_succ, within_succ]
      exact hfields.bind_within _ n n.taken_draft

mutual

/-- A node is read back exactly if there is room for its depth, and otherwise
    it is too deep. The induction is on the tree, for any room. -/
theorem reads_node : (n : Node) → n.NumbersReadBack →
    ∀ room, Reads (reader room) n.document (within n.depth room n)
  | ⟨kind, value, range, info, params, typeName⟩, hn => fun room =>
    reads_of_children room ⟨kind, value, range, info, params, typeName⟩ hn.1
      (reads_nodes params hn.2)

theorem reads_nodes : (nodes : List Node) → AllReadBack nodes →
    ∀ room, ∀ n ∈ nodes, Reads (reader room) n.document (within n.depth room n)
  | [], _ => fun _ => nofun
  | n :: rest, hnodes => fun room =>
    List.forall_mem_cons.2 ⟨reads_node n hnodes.1 room, reads_nodes rest hnodes.2 room⟩

end

end Node

end Descent
