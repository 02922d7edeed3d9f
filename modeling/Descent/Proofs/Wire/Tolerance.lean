import Descent.Proofs.Wire.Compact
import Descent.Proofs.Wire.Rewriting
import Descent.Proofs.Wire.RoundTrip

/-!
# What a Reader Tolerates

A document that was written may be rewritten in many ways and still be read as
what was written: with its members in another order, with blanks, with members
that are no fields, without what may be left out. This is put together from
three parts. What is written has a tree and is read back. What is read from a
text depends on its tree alone, so blanks do not matter. And steps of
rewriting keep what is read from a tree.

There are two limits. One is that of all reading back: the numbers in the
annotations must be read back from their texts. For doubles this is not always
so, since reading scales a significand by a power of ten and rounds twice, and
the last digit may be lost on the way. The other is that nothing required may
be missing and no field may come twice, wherever in the document.

## Theorems

* `documents_tolerate_rewriting`: Rewritten documents are read as what was
  written, and flawed ones are not read.
* `document_with_lost_digit`: A node that is not read back.
-/

namespace Descent

open Json Reader

/-- What is read from a text in a place depends on its tree alone. -/
theorem Place.parse_eq_outcome (p : Place) (d : Doc) (text : String) (htext : d.IsSpelled text) :
    (p.reader room).parse text = d.outcome (p.reader room) :=
  (p.settles_reader room d).parse text htext

/-- A text that is read may be rewritten. -/
theorem Place.parse_of_rewrites (p : Place) (d d' : Doc)
    (hsteps : Relation.ReflTransGen (Rewrite p room) d d') (text text' : String)
    (htext : d.IsSpelled text) (htext' : d'.IsSpelled text') (x : p.Content)
    (hx : (p.reader room).parse text = .ok x) : (p.reader room).parse text' = .ok x := by
  rw [p.parse_eq_outcome d text htext] at hx
  rw [p.parse_eq_outcome d' text' htext']
  exact keeps_of_rewrites hsteps x hx

/-- A text with a flaw is refused. -/
theorem Place.parse_of_flawed (p : Place) (d : Doc) (hflawed : Flawed p d) (text : String)
    (htext : d.IsSpelled text) : ∃ fault, (p.reader room).parse text = .error fault := by
  rw [p.parse_eq_outcome d text htext]
  exact exists_error_of_ne_ok _ (hflawed.ne_ok room)

namespace Options

/-- These options with the fields that are not there at their standard. -/
def kept (o : Options) (isNamed isColoured : Bool) : Options :=
  ⟨if isNamed then o.filename else none, if isColoured then o.colour else .auto⟩

theorem rewrite_filename (back : List (Literal × Doc)) :
    Rewrite .options room (.object ((Literal.ofString "filename", .null) :: back))
      (.object back) :=
  @Rewrite.drop .options 126 [] back _ "filename" .null (Literal.reading_ofString _)
    List.mem_cons_self

theorem rewrite_colour (front : List (Literal × Doc)) :
    Rewrite .options room
      (.object (front ++ [(Literal.ofString "color", .string (Literal.ofString "auto"))]))
      (.object (front ++ [])) :=
  @Rewrite.drop .options 126 front [] _ "color" _ (Literal.reading_ofString _)
    (List.mem_cons_of_mem _ List.mem_cons_self)

/-- Fields that are at their standard may go. -/
theorem rewrites_tree (o : Options) (isNamed isColoured : Bool) :
    Relation.ReflTransGen (Rewrite .options room) ((o.kept isNamed isColoured).tree true true)
      (o.tree isNamed isColoured) := by
  cases isNamed with
  | true =>
      cases isColoured with
      | true => exact .refl
      | false => exact .single (rewrite_colour [(_, Doc.ofOption o.filename)])
  | false =>
      cases isColoured with
      | true => exact .single (rewrite_filename _)
      | false => exact .tail (.single (rewrite_filename _)) (rewrite_colour [])

end Options

/-- A document that was written, with numbers that are read back and with room
    for it, is read as what was written also if it is rewritten: its tree by
    any number of steps and its text with any blanks. Without a required field
    or with a field that comes twice a document is refused, wherever in it
    that is. Options tolerate the same, and may go without any of their
    fields. -/
theorem documents_tolerate_rewriting :
    (∀ n : Node, n.NumbersReadBack → n.depth ≤ 127 →
      (∃ d : Doc, d.IsCompact n.document) ∧
      ∀ d : Doc, d.IsCompact n.document →
        ∀ d', Relation.ReflTransGen (Rewrite .node 127) d d' →
          ∀ text, d'.IsSpelled text → Node.ofDocument text = .ok n) ∧
    (∀ d : Doc, Flawed .node d →
      ∀ text, d.IsSpelled text → ∃ fault, Node.ofDocument text = .error fault) ∧
    (∀ o : Options, (o.tree true true).IsCompact o.document ∧
      ∀ (isNamed isColoured : Bool) (d' : Doc),
        Relation.ReflTransGen (Rewrite .options 127) (o.tree isNamed isColoured) d' →
          ∀ text, d'.IsSpelled text → Options.ofDocument text =
            .ok ⟨if isNamed then o.filename else none, if isColoured then o.colour else .auto⟩) ∧
    (∀ d : Doc, Flawed .options d →
      ∀ text, d.IsSpelled text → ∃ fault, Options.ofDocument text = .error fault) := by
  refine ⟨fun n hn hdepth => ⟨n.exists_tree hn, fun d hd d' hsteps text htext => ?_⟩,
    Place.parse_of_flawed .node,
    fun o => ⟨o.isCompact_tree, fun isNamed isColoured d' hsteps text htext => ?_⟩,
    Place.parse_of_flawed .options⟩
  · have hread := (parse_within Node.reader n.document n.depth n (n.reads_node hn room)).1 hdepth
    exact Place.parse_of_rewrites .node d d' hsteps n.document text hd.isSpelled htext n hread
  · have hread := (parse_within Options.reader _ 1 _
      ((o.kept isNamed isColoured).reads_options room)).1 (by decide)
    exact Place.parse_of_rewrites .options _ d' ((o.rewrites_tree isNamed isColoured).trans hsteps)
      _ text (o.kept isNamed isColoured).isCompact_tree.isSpelled htext _ hread

/-! ## A document in disorder -/

namespace Disorder

/-- A member under its key as it is written. -/
def member (name : String) (d : Doc) : Literal × Doc := (Literal.ofString name, d)

/-- A name as it is written. -/
def name (s : String) : Doc := .string (Literal.ofString s)

/-- One digit. -/
def digit (d : Char) (hd : isDigit d = true) : Digits := ⟨[d], by simp, by simpa using hd⟩

/-- The tree of the position that stands for none. -/
def position : Doc :=
  let zero : Doc := .number ⟨false, digit '0' rfl, .inl rfl, none, none⟩
  .object [member "line" zero, member "column" zero, member "line_text" (name "")]

/-- The node with one annotation. -/
def node : Node :=
  ⟨.noop, "", ⟨.nowhere, .nowhere⟩,
    ⟨[("a", .boolean true)], nofun, True.intro, True.intro⟩, [], none⟩

/-- The tree of the node as it is written. -/
def written : Doc :=
  .object [member "kind" (name "Noop"), member "value" (name ""),
    member "range" (.object [member "start" position, member "end" position]),
    member "meta" (.object [member "a" (.boolean true)]), member "params" (.array []),
    member "type" .null]

/-- A number that no double can hold. -/
def huge : Doc :=
  .number ⟨false, digit '1' rfl, .inr (by decide), none,
    some ⟨false, none, ⟨['9', '9', '9'], by simp, List.all_eq_true.mp rfl⟩⟩⟩

/-- The tree in another order, with a member that is no field, an annotation
    that comes twice, and without children and type. -/
def rewritten : Doc :=
  .object [member "type_annotation" huge,
    member "meta" (.object [member "a" .null, member "a" (.boolean true)]),
    member "range" (.object [member "end" position, member "start" position]),
    member "value" (name ""), member "kind" (name "Noop")]

theorem spaced_flatMap (lexemes : List (List Char)) :
    Spaced lexemes (lexemes.flatMap (' ' :: ·)) := by
  induction lexemes with
  | nil => exact .nil
  | cons lexeme rest ih =>
      have hblank : IsGap [' '] := by simp [IsGap, isBlank]
      exact .cons hblank ih

theorem isCompact_position : position.IsCompact Position.nowhere.document :=
  Doc.isCompact_object _ _ (.cons (Doc.isMember "line" rfl) (.cons (Doc.isMember "column" rfl)
    (.cons (Doc.isMember "line_text" (Doc.isCompact_string "")) .nil)))

theorem isCompact_written : written.IsCompact node.document :=
  Doc.isCompact_object _ _ (.cons (Doc.isMember "kind" (Doc.isCompact_string "Noop"))
    (.cons (Doc.isMember "value" (Doc.isCompact_string ""))
      (.cons (Doc.isMember "range" (Doc.isCompact_object _ _
          (.cons (Doc.isMember "start" isCompact_position)
            (.cons (Doc.isMember "end" isCompact_position) .nil))))
        (.cons (Doc.isMember "meta" (Doc.isCompact_object _ _
            (.cons (Doc.isMember "a" rfl) .nil)))
          (.cons (Doc.isMember "params" (Doc.isCompact_array [] [] .nil))
            (.cons (Doc.isMember "type" Doc.isCompact_null) .nil))))))

/-- Type and children go, the members trade places, in the range as well, and
    two members come in. -/
theorem rewrites_written : Relation.ReflTransGen (Rewrite .node 127) written rewritten := by
  let kind := member "kind" (name "Noop")
  let value := member "value" (name "")
  let start := member "start" position
  let stop := member "end" position
  let old := member "a" .null
  let new := member "a" (.boolean true)
  let range := member "range" (.object [start, stop])
  let turned := member "range" (.object [stop, start])
  let info := member "meta" (.object [new])
  let doubled := member "meta" (.object [old, new])
  have htype := @Rewrite.drop .node 126
    [kind, value, range, info, member "params" (.array [])] [] _ "type" .null
    (Literal.reading_ofString _) (by simp [Place.omissible])
  have hparams := @Rewrite.drop .node 126 [kind, value, range, info] [] _ "params" (.array [])
    (Literal.reading_ofString _) (by simp [Place.omissible])
  have hinner := @Rewrite.permute .range 125 [start, stop] [stop, start] rfl (List.Perm.swap _ _ _)
  have hrange := @Rewrite.member .node .range 126 [kind, value] [info] _ "range" _ _
    (Literal.reading_ofString _) (.inl (by simp [Place.places])) hinner
  have hshadow := @Rewrite.shadow .notes 125 [] [new] _ "a" .null rfl
    (Literal.reading_ofString _) ⟨new, List.mem_cons_self, Literal.reading_ofString _⟩ rfl
    (by decide)
  have hinfo := @Rewrite.member .node .notes 126 [kind, value, turned] [] _ "meta" _ _
    (Literal.reading_ofString _) (.inl (by simp [Place.places])) hshadow
  have hswap := @Rewrite.permute .node 126 _ _ rfl
    (List.reverse_perm [kind, value, turned, doubled]).symm
  have hinsert := @Rewrite.insert .node 126 [] [doubled, turned, value, kind] _ "type_annotation"
    huge rfl (Literal.reading_ofString _) (by simp [Place.names])
  exact .head htype (.head hparams (.head hrange (.head hinfo (.head hswap (.single hinsert)))))

end Disorder

/-- A document in disorder, with a blank in front of every lexeme, is read as
    it was written. Without any members it is not, while options may go without
    any, if only none comes twice. -/
theorem documents_tolerate_rewriting_in_disorder :
    Node.ofDocument (String.ofList (Disorder.rewritten.lexemes.flatMap (' ' :: ·) ++ ['\n'])) =
      .ok Disorder.node ∧
    (∃ fault, Node.ofDocument "\x7b\x7d" = .error fault) ∧
    Options.ofDocument "\x7b\x7d" = .ok ⟨none, .auto⟩ ∧
    ∃ fault, Options.ofDocument "\x7b\"color\":null,\"color\":null\x7d" = .error fault := by
  rcases documents_tolerate_rewriting with ⟨hnodes, hflawed, hoptions, htwice⟩
  have hnumbers : Disorder.node.NumbersReadBack := ⟨⟨True.intro, True.intro⟩, True.intro⟩
  have hspelled : Disorder.rewritten.IsSpelled
      (String.ofList (Disorder.rewritten.lexemes.flatMap (' ' :: ·) ++ ['\n'])) :=
    ⟨_, ['\n'], String.toList_ofList, Disorder.spaced_flatMap _, by simp [IsGap, isBlank]⟩
  have hempty : (Doc.object []).IsSpelled "\x7b\x7d" := (Doc.isCompact_object [] [] .nil).isSpelled
  have hmissing : Flawed .node (.object []) :=
    .missing "kind" (by simp [Place.required]) (by simp)
  -- A colour that comes twice.
  let colour := Disorder.member "color" .null
  have hcolour : Doc.IsMember colour ("color", "null") := Doc.isMember "color" Doc.isCompact_null
  have hcolours : (Doc.object [colour, colour]).IsSpelled
      "\x7b\"color\":null,\"color\":null\x7d" :=
    (Doc.isCompact_object _ _ (.cons hcolour (.cons hcolour .nil))).isSpelled
  have hrepeated : Flawed .options (.object [colour, colour]) :=
    @Flawed.repeated .options [] [] [] colour colour "color" (by simp [Place.names])
      (Literal.reading_ofString _) (Literal.reading_ofString _)
  refine ⟨?_, hflawed _ hmissing _ hempty, ?_, htwice _ hrepeated _ hcolours⟩
  · exact (hnodes Disorder.node hnumbers (by decide)).2 _ Disorder.isCompact_written _
      Disorder.rewrites_written _ hspelled
  · exact (hoptions .standard).2 false false _ .refl _ hempty

/-! ## A document that is not read back -/

/-- A node with a double that is read as the one next to it. -/
def Node.withLostDigit : Node :=
  ⟨.noop, "", ⟨.nowhere, .nowhere⟩,
    ⟨[("x", .number (.real (Float.ofScientific 31245270191439438 true 15)))], nofun, True.intro,
      True.intro⟩, [], none⟩

/-- Not every node is read back from its document, with room for it or not. -/
theorem document_with_lost_digit :
    Node.withLostDigit.depth ≤ 127 ∧
      Node.ofDocument Node.withLostDigit.document ≠ .ok Node.withLostDigit := by
  have hagrees : Node.withLostDigit.agrees Node.withLostDigit = true := by decide +kernel
  have hread : ((Node.ofDocument Node.withLostDigit.document).map
      (·.agrees Node.withLostDigit)).toOption = some false := by decide +kernel
  refine ⟨by decide, fun hsame => ?_⟩
  rw [hsame] at hread
  have hother : Node.withLostDigit.agrees Node.withLostDigit = false := Option.some.inj hread
  rw [hagrees] at hother
  cases hother

end Descent
