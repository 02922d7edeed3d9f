import Mathlib.Data.List.Forall2
import Descent.Proofs.Wire.Places
import Descent.Proofs.Wire.Source

/-!
# The Trees of Written Documents

Every document that is written has a tree, if its numbers are read back: the
tree is made like the text, with a lexeme for each string and number and
without any blanks. For numbers it is enough that they are read back, since
what is read as a number is spelled as one, so nothing has to be known of how
the shortest decimal of a double is found.

## Main definitions

* `Doc.IsCompact`: The text of a tree without blanks.
* `Options.tree`: The tree of options, or of some of their fields.

## Theorems

* `isCompact_array`, `isCompact_object`: Containers are made of their parts.
* `Value.exists_tree`, `Node.exists_tree`: Written documents have trees.
-/

namespace Descent

open Json Reader

namespace Json

namespace Doc

/-- The text is that of the tree without blanks. -/
def IsCompact (d : Doc) (text : String) : Prop := d.lexemes.flatten = text.toList

theorem IsCompact.isSpelled {d : Doc} {text : String} (hd : d.IsCompact text) :
    d.IsSpelled text :=
  ⟨d.lexemes.flatten, [], by rw [hd, List.append_nil], spaced_flatten d.lexemes, isGap_nil⟩

theorem isCompact_null : Doc.null.IsCompact "null" := rfl

theorem isCompact_string (s : String) :
    (Doc.string (Literal.ofString s)).IsCompact (stringText s) := by
  rw [IsCompact, lexemes, List.flatten_singleton, Literal.chars_ofString]

/-- The tree of an optional string. -/
def ofOption : Option String → Doc
  | none => .null
  | some s => .string (Literal.ofString s)

theorem isCompact_ofOption (s : Option String) :
    (ofOption s).IsCompact (optionText stringText s) := by
  cases s with
  | none => exact isCompact_null
  | some s => exact isCompact_string s

theorem exists_number (n : Number) (hn : n.ReadsBack) : ∃ d : Doc, d.IsCompact n.text := by
  rcases numeral_of_number _ n hn with ⟨m, hm, _⟩
  exact ⟨.number m, by rw [IsCompact, lexemes, List.flatten_singleton, hm]⟩

/-! ## Containers -/

theorem flatten_itemLexemes (ds : List Doc) (texts : List String)
    (hds : List.Forall₂ IsCompact ds texts) (isFirst : Bool) :
    (itemLexemes isFirst ds).flatten = commaText isFirst texts := by
  induction hds generalizing isFirst with
  | nil => cases isFirst <;> rfl
  | cons hd _ ih =>
      rw [itemLexemes, List.flatten_append, List.flatten_append, ih, hd]
      cases isFirst <;> rfl

theorem isCompact_array (ds : List Doc) (texts : List String)
    (hds : List.Forall₂ IsCompact ds texts) : (Doc.array ds).IsCompact (listText texts) := by
  have htext := listText_append texts []
  rw [List.append_nil] at htext
  rw [IsCompact, htext, lexemes, List.flatten_cons, List.flatten_append,
    flatten_itemLexemes ds texts hds]
  rfl

/-- A member is written under its key. -/
def IsMember (m : Literal × Doc) (written : String × String) : Prop :=
  m.1 = Literal.ofString written.1 ∧ m.2.IsCompact written.2

theorem isMember (name : String) {d : Doc} {text : String} (hd : d.IsCompact text) :
    IsMember (Literal.ofString name, d) (name, text) := ⟨rfl, hd⟩

theorem flatten_memberLexemes (ms : List (Literal × Doc)) (written : List (String × String))
    (hms : List.Forall₂ IsMember ms written) (isFirst : Bool) :
    (memberLexemes isFirst ms).flatten =
      commaText isFirst (written.map fun m => memberText m.1 m.2) := by
  induction hms generalizing isFirst with
  | nil => cases isFirst <;> rfl
  | @cons m w _ _ hm _ ih =>
      have htext := memberText_append w.1 w.2 []
      rw [List.append_nil, List.append_nil] at htext
      rw [memberLexemes, List.flatten_append, List.flatten_append, List.flatten_cons,
        List.flatten_cons, ih, hm.1, hm.2, Literal.chars_ofString]
      cases isFirst <;> simp [commaLexemes, commaText, htext]

theorem isCompact_object (ms : List (Literal × Doc)) (written : List (String × String))
    (hms : List.Forall₂ IsMember ms written) : (Doc.object ms).IsCompact (objectText written) := by
  have htext := objectText_append written []
  rw [List.append_nil] at htext
  rw [IsCompact, htext, lexemes, List.flatten_cons, List.flatten_append,
    flatten_memberLexemes ms written hms]
  rfl

end Doc

namespace Value

mutual

/-- A value whose numbers are read back has a tree. -/
theorem exists_tree : (v : Value) → v.NumbersReadBack → ∃ d : Doc, d.IsCompact v.text
  | .null, _ => ⟨.null, rfl⟩
  | .boolean true, _ => ⟨.boolean true, rfl⟩
  | .boolean false, _ => ⟨.boolean false, rfl⟩
  | .number n, hv => Doc.exists_number n hv
  | .string s, _ => ⟨_, Doc.isCompact_string s⟩
  | .array items, hv => by
      rcases exists_trees items hv with ⟨ds, hds⟩
      exact ⟨.array ds, Doc.isCompact_array ds _ hds⟩
  | .object members, hv => by
      rcases exists_members members hv with ⟨ms, hms⟩
      exact ⟨.object ms, Doc.isCompact_object ms _ hms⟩

theorem exists_trees : (items : List Value) → ItemsReadBack items →
    ∃ ds : List Doc, List.Forall₂ Doc.IsCompact ds (itemTexts items)
  | [], _ => ⟨[], .nil⟩
  | item :: rest, hitems => by
      rcases exists_tree item hitems.1 with ⟨d, hd⟩
      rcases exists_trees rest hitems.2 with ⟨ds, hds⟩
      exact ⟨d :: ds, .cons hd hds⟩

theorem exists_members : (members : List (String × Value)) → MembersReadBack members →
    ∃ ms : List (Literal × Doc), List.Forall₂ Doc.IsMember ms (memberTexts members)
  | [], _ => ⟨[], .nil⟩
  | (key, value) :: rest, hmembers => by
      rcases exists_tree value hmembers.1 with ⟨d, hd⟩
      rcases exists_members rest hmembers.2 with ⟨ms, hms⟩
      exact ⟨(Literal.ofString key, d) :: ms, .cons (Doc.isMember key hd) hms⟩

end

end Value

end Json

/-! ## Positions and ranges -/

/-- A natural number of 64 bits has a tree. -/
theorem exists_count (n : UInt64) : ∃ d : Doc, d.IsCompact (toString n.toNat) :=
  Doc.exists_number (.integer n.toNat (fitsWord_toNat n)) (readsBack_integer _ _)

theorem Position.exists_tree (p : Position) : ∃ d : Doc, d.IsCompact p.document := by
  rcases exists_count p.line with ⟨line, hline⟩
  rcases exists_count p.column with ⟨column, hcolumn⟩
  exact ⟨_, Doc.isCompact_object _ _ (.cons (Doc.isMember "line" hline)
    (.cons (Doc.isMember "column" hcolumn)
      (.cons (Doc.isMember "line_text" (Doc.isCompact_string p.lineText)) .nil)))⟩

theorem Range.exists_tree (r : Range) : ∃ d : Doc, d.IsCompact r.document := by
  rcases r.start.exists_tree with ⟨start, hstart⟩
  rcases r.stop.exists_tree with ⟨stop, hstop⟩
  exact ⟨_, Doc.isCompact_object _ _ (.cons (Doc.isMember "start" hstart)
    (.cons (Doc.isMember "end" hstop) .nil))⟩

/-! ## Nodes -/

namespace Node

mutual

/-- A node whose numbers are read back has a tree. -/
theorem exists_tree : (n : Node) → n.NumbersReadBack → ∃ d : Doc, d.IsCompact n.document
  | ⟨kind, value, range, info, params, typeName⟩, hn => by
      rcases range.exists_tree with ⟨place, hplace⟩
      rcases Value.exists_tree (.object info.entries) hn.1 with ⟨annotations, hannotations⟩
      rcases exists_trees params hn.2 with ⟨children, hchildren⟩
      exact ⟨_, Doc.isCompact_object _ _
        (.cons (Doc.isMember "kind" (Doc.isCompact_string kind.name))
          (.cons (Doc.isMember "value" (Doc.isCompact_string value))
            (.cons (Doc.isMember "range" hplace) (.cons (Doc.isMember "meta" hannotations)
              (.cons (Doc.isMember "params" (Doc.isCompact_array children _ hchildren))
                (.cons (Doc.isMember "type" (Doc.isCompact_ofOption typeName)) .nil))))))⟩

theorem exists_trees : (nodes : List Node) → AllReadBack nodes →
    ∃ ds : List Doc, List.Forall₂ Doc.IsCompact ds (documents nodes)
  | [], _ => ⟨[], .nil⟩
  | n :: rest, hnodes => by
      rcases exists_tree n hnodes.1 with ⟨d, hd⟩
      rcases exists_trees rest hnodes.2 with ⟨ds, hds⟩
      exact ⟨d :: ds, .cons hd hds⟩

end

end Node

/-! ## Options -/

namespace Options

/-- The tree of those fields of options that are there. -/
def tree (o : Options) (isNamed isColoured : Bool) : Doc :=
  .object
    ((if isNamed then [(Literal.ofString "filename", Doc.ofOption o.filename)] else []) ++
      (if isColoured then
        [(Literal.ofString "color", Doc.string (Literal.ofString o.colour.name))] else []))

theorem isCompact_tree (o : Options) : (o.tree true true).IsCompact o.document :=
  Doc.isCompact_object _ _ (.cons (Doc.isMember "filename" (Doc.isCompact_ofOption o.filename))
    (.cons (Doc.isMember "color" (Doc.isCompact_string o.colour.name)) .nil))

end Options

end Descent
