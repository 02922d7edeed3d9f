import Descent.Node.Outline
import Descent.Proofs.Text.Quotes

/-!
# What an Outline Lets Recover

An outline shows a tree to a reader, who sees from the indents which node
belongs to which. This module says that the reader is never misled: two trees
with one outline have the same kinds, values and types and the same children
in the same order. Only what an outline leaves out, ranges and annotations,
may differ.

A value is free text and may imitate the line of another node. It cannot
break a line, though, since it is quoted. Types are shown as they are, so this
is asked of them: a type with a line break could imitate a node. With the
lines told apart, each line is told from its front: the indent ends in front of
the kind, the kind at a blank, and what comes next is either a quote or a
colon.

The tree is told from its lines as they follow each other. The lines of a node
are its own and those of its children, which are further out than it. So the
children end where a line is not further out, and this place is the same in
two outlines that agree up to there.

## Main definitions

* `Node.walk`: The nodes of a tree with their depths, a node before its
  children.
* `Node.lineAt`: The line of a node at a depth.
* `Node.Alike`: Trees that differ in ranges and annotations only.
* `Node.TypesOnOneLine`: No type in a tree has a line break.

## Theorems

* `outline_eq_join`: An outline has one line for each node.
* `headline_inj`, `lineAt_inj`: What a line tells.
* `alike_of_lines`: What the lines of a tree tell, whatever stands behind.
* `outline_tells_tree`: Trees with one outline are alike.
-/

namespace Descent

open Text

namespace Node

mutual

/-- The nodes of a tree whose root is so deep, with their depths. -/
def walkAt (depth : Nat) : Node → List (Nat × Node)
  | ⟨kind, value, range, info, params, typeName⟩ =>
    (depth, ⟨kind, value, range, info, params, typeName⟩) :: walksAt (depth + 1) params

/-- The nodes of trees, one tree after the other. -/
def walksAt (depth : Nat) : List Node → List (Nat × Node)
  | [] => []
  | node :: rest => walkAt depth node ++ walksAt depth rest

end

/-- The nodes of a tree with their depths, a node before its children. -/
def walk (n : Node) : List (Nat × Node) := walkAt 0 n

/-- The line of a node at a depth, without its break. -/
def lineAt (place : Nat × Node) : String :=
  margin place.1 ++ headline place.2.kind place.2.value place.2.typeName

mutual

/-- Trees with the same kinds, values, types and children. -/
def Alike : Node → Node → Prop
  | ⟨kind, value, _, _, params, typeName⟩, ⟨kind', value', _, _, params', typeName'⟩ =>
    kind = kind' ∧ value = value' ∧ typeName = typeName' ∧ AllAlike params params'

/-- Lists of trees that are alike one by one. -/
def AllAlike : List Node → List Node → Prop
  | [], [] => True
  | n :: ns, m :: ms => n.Alike m ∧ AllAlike ns ms
  | _, _ => False

end

/-- No type in the tree has a line break. -/
def TypesOnOneLine (n : Node) : Prop :=
  ∀ place ∈ n.walk, ∀ name, place.2.typeName = some name → IsOneLine name

/-! ## The lines of an outline -/

mutual

theorem outlineAt_eq_join (depth : Nat) :
    (n : Node) → outlineAt depth n = String.join ((walkAt depth n).map (lineAt · ++ "\n"))
  | ⟨kind, value, range, info, params, typeName⟩ => by
    rw [outlineAt, walkAt, List.map_cons, String.join_cons,
      outlinesAt_eq_join (depth + 1) params]
    rfl

theorem outlinesAt_eq_join (depth : Nat) :
    (ns : List Node) → outlinesAt depth ns = String.join ((walksAt depth ns).map (lineAt · ++ "\n"))
  | [] => rfl
  | n :: rest => by
    rw [outlinesAt, walksAt, List.map_append, String.join_append, outlineAt_eq_join depth n,
      outlinesAt_eq_join depth rest]

end

/-- An outline has one line for each node. -/
theorem outline_eq_join (n : Node) : n.outline = String.join (n.walk.map (lineAt · ++ "\n")) :=
  outlineAt_eq_join 0 n

/-! ## What a line tells -/

/-- The value as a line shows it. -/
def valueText (value : String) : String :=
  if value.isEmpty then "" else " " ++ quoted value

/-- The type as a line shows it. -/
def typeText : Option String → String
  | some name => " : " ++ name
  | none => ""

theorem headline_eq (kind : NodeKind) (value : String) (typeName : Option String) :
    headline kind value typeName = kind.name ++ (valueText value ++ typeText typeName) := by
  cases typeName with
  | none => exact String.append_assoc ..
  | some name => exact String.append_assoc ..

theorem typeText_inj (typeName typeName' : Option String)
    (hsame : typeText typeName = typeText typeName') : typeName = typeName' := by
  cases typeName with
  | none =>
      cases typeName' with
      | none => rfl
      | some name' => simp [typeText] at hsame
  | some name =>
      cases typeName' with
      | none => simp [typeText] at hsame
      | some name' =>
          rw [typeText, typeText, String.append_right_inj] at hsame
          rw [hsame]

/-- A line without a value is not one with a value, whatever its type is. -/
theorem typeText_ne (value : String) (typeName typeName' : Option String) :
    typeText typeName ≠ " " ++ quoted value ++ typeText typeName' := by
  intro hsame
  have hchars := congrArg String.toList hsame
  cases typeName with
  | none => simp [typeText] at hchars
  | some name => simp [typeText, quoted] at hchars

/-- Behind its kind a line tells the value and the type. -/
theorem valueText_append_inj (value value' : String) (typeName typeName' : Option String)
    (hsame : valueText value ++ typeText typeName = valueText value' ++ typeText typeName') :
    value = value' ∧ typeName = typeName' := by
  unfold valueText at hsame
  by_cases hempty : value.isEmpty = true
  · by_cases hempty' : value'.isEmpty = true
    · rw [if_pos hempty, if_pos hempty', String.empty_append, String.empty_append] at hsame
      rw [String.isEmpty_iff] at hempty hempty'
      exact ⟨hempty.trans hempty'.symm, typeText_inj _ _ hsame⟩
    · rw [if_pos hempty, if_neg hempty', String.empty_append] at hsame
      exact absurd hsame (typeText_ne _ _ _)
  · by_cases hempty' : value'.isEmpty = true
    · rw [if_neg hempty, if_pos hempty', String.empty_append] at hsame
      exact absurd hsame.symm (typeText_ne _ _ _)
    · rw [if_neg hempty, if_neg hempty', String.append_assoc, String.append_assoc,
        String.append_right_inj] at hsame
      rcases quoted_append_inj _ _ _ _ hsame with ⟨hvalue, htype⟩
      exact ⟨hvalue, typeText_inj _ _ htype⟩

theorem isAlpha_of_mem_name (kind : NodeKind) : ∀ c ∈ kind.name.toList, c.isAlpha = true :=
  List.all_eq_true.1 (by cases kind <;> decide)

/-- Behind the kind there is a blank or nothing. -/
theorem not_isAlpha_head (value : String) (typeName : Option String) :
    ∀ c, (valueText value ++ typeText typeName).toList.head? = some c → c.isAlpha = false := by
  intro c hc
  have hblank : c = ' ' := by
    unfold valueText at hc
    by_cases hempty : value.isEmpty = true
    · cases typeName with
      | none => simp [hempty, typeText] at hc
      | some name => simpa [hempty, typeText, eq_comm] using hc
    · simpa [hempty, eq_comm] using hc
  rw [hblank]
  rfl

theorem name_inj (kind kind' : NodeKind) (hsame : kind.name = kind'.name) : kind = kind' := by
  have hfound := kind.ofName?_name
  rw [hsame, kind'.ofName?_name, Option.some.injEq] at hfound
  exact hfound.symm

/-- A line tells the kind, the value and the type of its node. -/
theorem headline_inj (kind kind' : NodeKind) (value value' : String)
    (typeName typeName' : Option String)
    (hsame : headline kind value typeName = headline kind' value' typeName') :
    kind = kind' ∧ value = value' ∧ typeName = typeName' := by
  rw [headline_eq, headline_eq] at hsame
  have hchars : kind.name.toList ++ (valueText value ++ typeText typeName).toList =
      kind'.name.toList ++ (valueText value' ++ typeText typeName').toList := by
    rw [← String.toList_append, ← String.toList_append, hsame]
  rcases split_at_run Char.isAlpha _ _ _ _ (isAlpha_of_mem_name kind) (isAlpha_of_mem_name kind')
    (not_isAlpha_head value typeName) (not_isAlpha_head value' typeName') hchars with
    ⟨hname, hbehind⟩
  exact ⟨name_inj _ _ (String.toList_inj.1 hname),
    valueText_append_inj _ _ _ _ (String.toList_inj.1 hbehind)⟩

/-! ## Indents -/

/-- The blanks in front of a line. -/
def indent (line : String) : List Char := line.toList.takeWhile (· == ' ')

theorem head_headline (kind : NodeKind) (value : String) (typeName : Option String) :
    ∀ c, (headline kind value typeName).toList.head? = some c → (c == ' ') = false := by
  intro c hc
  have hne : kind.name ≠ "" := by cases kind <;> decide
  cases hname : kind.name.toList with
  | nil => exact absurd (String.toList_eq_nil_iff.1 hname) hne
  | cons d rest =>
      rw [headline_eq, String.toList_append, hname, List.cons_append, List.head?_cons,
        Option.some.injEq] at hc
      have halpha : d.isAlpha = true := isAlpha_of_mem_name kind d (by simp [hname])
      rw [← hc]
      -- A blank is not a letter.
      refine beq_eq_false_iff_ne.2 (fun hblank => ?_)
      rw [hblank] at halpha
      cases halpha

theorem eq_blank_of_mem_margin (depth : Nat) :
    ∀ c ∈ (margin depth).toList, (c == ' ') = true := by
  intro c hc
  rw [margin, String.toList_ofList] at hc
  rw [List.eq_of_mem_replicate hc]
  rfl

/-- A line is indented by two blanks for each level, and by no more. -/
theorem indent_lineAt (place : Nat × Node) :
    indent (lineAt place) = List.replicate (2 * place.1) ' ' := by
  rw [indent, lineAt, String.toList_append,
    takeWhile_run (· == ' ') _ _ (eq_blank_of_mem_margin _) (head_headline _ _ _), margin,
    String.toList_ofList]

theorem length_indent_lineAt (place : Nat × Node) :
    (indent (lineAt place)).length = 2 * place.1 := by
  rw [indent_lineAt, List.length_replicate]

/-- At one depth a line tells all of its node that it shows. -/
theorem lineAt_inj (depth : Nat) (n m : Node) (hsame : lineAt (depth, n) = lineAt (depth, m)) :
    n.kind = m.kind ∧ n.value = m.value ∧ n.typeName = m.typeName := by
  rw [lineAt, lineAt, String.append_right_inj] at hsame
  exact headline_inj _ _ _ _ _ _ hsame

theorem isOneLine_lineAt (place : Nat × Node)
    (htype : ∀ name, place.2.typeName = some name → IsOneLine name) :
    IsOneLine (lineAt place) := by
  have hkind : IsOneLine place.2.kind.name := by
    intro hmem
    cases isAlpha_of_mem_name _ _ hmem
  have hvalue : IsOneLine (valueText place.2.value) := by
    unfold valueText
    by_cases hempty : place.2.value.isEmpty = true
    · rw [if_pos hempty]
      simp [IsOneLine]
    · rw [if_neg hempty, isOneLine_append]
      exact ⟨by simp [IsOneLine], isOneLine_quoted _⟩
  have hname : IsOneLine (typeText place.2.typeName) := by
    cases hsome : place.2.typeName with
    | none => simp [IsOneLine, typeText]
    | some name =>
        rw [typeText, isOneLine_append]
        exact ⟨by simp [IsOneLine], htype name hsome⟩
  rw [lineAt, headline_eq, isOneLine_append, isOneLine_append, isOneLine_append]
  exact ⟨isOneLine_replicate _ ' ' (by decide), hkind, hvalue, hname⟩

/-! ## What the lines tell together -/

/-- The lines do not go on with a line that is so far out. -/
def EndsBefore (depth : Nat) (lines : List String) : Prop :=
  ∀ line, lines.head? = some line → (indent line).length < 2 * depth

theorem endsBefore_succ (depth : Nat) (ns : List Node) (lines : List String)
    (hlines : EndsBefore depth lines) :
    EndsBefore (depth + 1) ((walksAt depth ns).map lineAt ++ lines) := by
  intro line hline
  cases ns with
  | nil =>
      have := hlines line hline
      omega
  | cons n rest =>
      cases n
      rw [walksAt, walkAt, List.cons_append, List.map_cons, List.cons_append, List.head?_cons,
        Option.some.injEq] at hline
      rw [← hline, length_indent_lineAt]
      omega

/-- Lines that end in front of a depth do not begin with a node there. -/
theorem not_endsBefore_walksAt (depth : Nat) (n : Node) (ns : List Node) (lines : List String) :
    ¬ EndsBefore depth ((walksAt depth (n :: ns)).map lineAt ++ lines) := by
  intro hends
  cases n
  rw [walksAt, walkAt, List.cons_append, List.map_cons, List.cons_append] at hends
  have := hends _ rfl
  rw [length_indent_lineAt] at this
  omega

mutual

/-- The lines of a node tell the node and where they end, if what stands behind
    them is not further out than the node. The induction is on one of the two
    trees: its first line is that of the other tree, and the rest is the lines
    of the children in both. -/
theorem alike_of_lines (depth : Nat) : (n m : Node) → (lines lines' : List String) →
    EndsBefore (depth + 1) lines → EndsBefore (depth + 1) lines' →
    (walkAt depth n).map lineAt ++ lines = (walkAt depth m).map lineAt ++ lines' →
    n.Alike m ∧ lines = lines'
  | ⟨_, _, _, _, params, _⟩, ⟨_, _, _, _, params', _⟩, lines, lines', hends, hends', hsame => by
    rw [walkAt, walkAt, List.map_cons, List.map_cons, List.cons_append, List.cons_append,
      List.cons.injEq] at hsame
    rcases lineAt_inj depth _ _ hsame.1 with ⟨hkind, hvalue, htype⟩
    rcases allAlike_of_lines (depth + 1) params params' lines lines' hends hends' hsame.2 with
      ⟨hparams, hlines⟩
    exact ⟨⟨hkind, hvalue, htype, hparams⟩, hlines⟩

theorem allAlike_of_lines (depth : Nat) : (ns ms : List Node) → (lines lines' : List String) →
    EndsBefore depth lines → EndsBefore depth lines' →
    (walksAt depth ns).map lineAt ++ lines = (walksAt depth ms).map lineAt ++ lines' →
    AllAlike ns ms ∧ lines = lines'
  | [], [], _, _, _, _, hsame => ⟨trivial, hsame⟩
  -- One of the two has ended, and the other goes on at this depth.
  | [], m :: ms, lines, lines', hends, _, hsame => by
    rw [walksAt, List.map_nil, List.nil_append] at hsame
    rw [hsame] at hends
    exact absurd hends (not_endsBefore_walksAt depth m ms lines')
  | n :: ns, [], lines, lines', _, hends', hsame => by
    rw [walksAt.eq_1, List.map_nil, List.nil_append] at hsame
    rw [← hsame] at hends'
    exact absurd hends' (not_endsBefore_walksAt depth n ns lines)
  | n :: ns, m :: ms, lines, lines', hends, hends', hsame => by
    rw [walksAt, walksAt, List.map_append, List.map_append, List.append_assoc,
      List.append_assoc] at hsame
    rcases alike_of_lines depth n m _ _ (endsBefore_succ depth ns lines hends)
      (endsBefore_succ depth ms lines' hends') hsame with ⟨hfirst, hbehind⟩
    rcases allAlike_of_lines depth ns ms lines lines' hends hends' hbehind with ⟨hrest, hlines⟩
    exact ⟨⟨hfirst, hrest⟩, hlines⟩

end

mutual

theorem outlineAt_of_alike (depth : Nat) :
    (n m : Node) → n.Alike m → outlineAt depth n = outlineAt depth m
  | ⟨_, _, _, _, params, _⟩, ⟨_, _, _, _, params', _⟩, ⟨hkind, hvalue, htype, hparams⟩ => by
    rw [outlineAt, outlineAt, hkind, hvalue, htype,
      outlinesAt_of_allAlike (depth + 1) params params' hparams]

theorem outlinesAt_of_allAlike (depth : Nat) :
    (ns ms : List Node) → AllAlike ns ms → outlinesAt depth ns = outlinesAt depth ms
  | [], [], _ => rfl
  | n :: ns, m :: ms, ⟨hfirst, hrest⟩ => by
    rw [outlinesAt, outlinesAt, outlineAt_of_alike depth n m hfirst,
      outlinesAt_of_allAlike depth ns ms hrest]

end

/-- The lines of an outline are those of its nodes, and behind the last break
    there is nothing. -/
theorem linesOf_outline (n : Node) (hn : n.TypesOnOneLine) :
    linesOf n.outline = n.walk.map lineAt ++ [""] := by
  have hlines : ∀ line ∈ n.walk.map lineAt, IsOneLine line := by
    intro line hline
    rcases List.mem_map.1 hline with ⟨place, hplace, rfl⟩
    exact isOneLine_lineAt place (hn place hplace)
  have hjoin := linesOf_join (n.walk.map lineAt) "" hlines
  rw [List.map_map, String.append_empty] at hjoin
  rw [outline_eq_join]
  exact hjoin

/-- If no type breaks a line, an outline has exactly one line for each node, a
    node before its children, and the line of a node is indented by two blanks
    for each level. Two trees have the same outline exactly if they have the
    same kinds, values, types and children, whatever their values are. -/
theorem outline_tells_tree (n m : Node) (hn : n.TypesOnOneLine) (hm : m.TypesOnOneLine) :
    (n.outline = m.outline ↔ n.Alike m) ∧
      n.outline = String.join (n.walk.map (lineAt · ++ "\n")) ∧
      linesOf n.outline = n.walk.map lineAt ++ [""] ∧
      ∀ place ∈ n.walk, IsOneLine (lineAt place) ∧
        (lineAt place).toList.takeWhile (· == ' ') = List.replicate (2 * place.1) ' ' := by
  refine ⟨⟨fun hsame => ?_, outlineAt_of_alike 0 n m⟩, n.outline_eq_join, n.linesOf_outline hn,
    fun place hplace => ⟨isOneLine_lineAt place (hn place hplace), indent_lineAt place⟩⟩
  have hlines := congrArg linesOf hsame
  rw [n.linesOf_outline hn, m.linesOf_outline hm] at hlines
  have hends : EndsBefore 1 [""] := by
    intro line hline
    cases Option.some.inj hline
    exact Nat.zero_lt_two
  exact (alike_of_lines 0 n m [""] [""] hends hends hlines).1

/-- A value that looks like the line of a child does not pass for one: the
    child has a line of its own, and the value stays on the line of its node. -/
theorem outline_tells_tree_from_impostor :
    let child : Node := ⟨.noop, "", ⟨.nowhere, .nowhere⟩, .empty, [], some "b"⟩
    let parent : Node := ⟨.block, "a", ⟨.nowhere, .nowhere⟩, .empty, [child], none⟩
    let impostor : Node :=
      ⟨.block, "a\"\n  Noop : b", ⟨.nowhere, .nowhere⟩, .empty, [], none⟩
    parent.TypesOnOneLine ∧ impostor.TypesOnOneLine ∧ parent.outline ≠ impostor.outline ∧
      linesOf parent.outline = ["Block \"a\"", "  Noop : b", ""] ∧
      linesOf impostor.outline = ["Block \"a\\\"\\n  Noop : b\"", ""] := by
  intro child parent impostor
  have hparent : parent.TypesOnOneLine := by
    simp [TypesOnOneLine, walk, walkAt, walksAt, parent, child, IsOneLine]
  have himpostor : impostor.TypesOnOneLine := by
    simp [TypesOnOneLine, walk, walkAt, walksAt, impostor]
  rcases outline_tells_tree parent impostor hparent himpostor with ⟨hiff, _, hlines, _⟩
  rcases outline_tells_tree impostor parent himpostor hparent with ⟨_, _, hlines', _⟩
  refine ⟨hparent, himpostor, ?_, hlines.trans (by decide +kernel),
    hlines'.trans (by decide +kernel)⟩
  intro hsame
  have hvalue : parent.value = impostor.value := (hiff.1 hsame).2.1
  exact absurd hvalue (by decide)

end Node

end Descent
