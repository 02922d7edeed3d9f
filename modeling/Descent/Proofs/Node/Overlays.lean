import Descent.Proofs.Cursor.Outcome
import Descent.Proofs.Node.Annotations

/-!
# Wishes for a Node

What is asked for in a node is asked for wish by wish, and the order of the
wishes matters in different ways. Of values, of types and of annotations with
one name the last wish counts; children add up, however they were given; and
where nothing was asked for, the open node keeps what it has. Children are
not merged with those of the open node: any at all replace them.

`Tells` says what has been asked for after a list of wishes. One more wish is
one step of it (`tells_add`), and a list of them is as many steps
(`tells_foldl`). The parts are determined by what they tell, so wishes that
tell the same may be exchanged. Which wishes can disturb each other is their
slot; a wish is told by its slot alone (`Tells.of_rearranged`).

## Main definitions

* `Slot`, `Part.slot`: What a wish is about.
* `Part.value?`, `Part.typeName?`, `Part.info?`, `Part.children`: What a wish
  says about one thing.
* `Part.Rearranged`: The same wishes, each slot in its order.
* `NodeParts.Tells`: What has been asked for, by the wishes.
* `OpenNode.LaidOver`: An open node as it should be after the wishes.

## Theorems

* `tells_add`, `tells_foldl`: What one more wish asks for, and many.
* `Tells.of_rearranged`: Only the order inside a slot counts.
* `laidOver_apply`, `eq_of_laidOver`: What becomes of an open node.
* `apply_apply`: Laying the same parts over once more changes nothing.
* `parts_win_call_by_call`: Wishes win over the open node, each in its way.
-/

namespace Descent

open Json

/-- What a wish is about. Two wishes that are about different things do not
    disturb each other. -/
inductive Slot where
  | value
  | info (name : String)
  | params
  | typeName
  deriving DecidableEq

namespace Part

/-- One child and many are about the same thing. -/
def slot : Part → Slot
  | .value _ => .value
  | .info name _ => .info name
  | .param _ => .params
  | .params _ => .params
  | .typeName _ => .typeName

/-- The value that is asked for. -/
def value? : Part → Option String
  | .value s => some s
  | _ => none

/-- The type that is asked for. -/
def typeName? : Part → Option String
  | .typeName s => some s
  | _ => none

/-- The annotation that is asked for under a name. -/
def info? (name : String) : Part → Option Value
  | .info other v => if other = name then some v else none
  | _ => none

/-- The children that are asked for. -/
def children : Part → List Node
  | .param n => [n]
  | .params ns => ns
  | _ => []

/-- The same wishes in another order, in which the wishes of one slot still
    come one after the other as they did. -/
def Rearranged (wishes wishes' : List Part) : Prop :=
  ∀ slot : Slot, wishes.filter (·.slot = slot) = wishes'.filter (·.slot = slot)

end Part

/-- An open node as it should be after the wishes were laid over another. -/
structure OpenNode.LaidOver (wishes : List Part) (o o' : OpenNode) : Prop where
  start : o'.start = o.start
  value : o'.value = (wishes.filterMap Part.value?).getLast?.getD o.value
  typeName : o'.typeName = (wishes.filterMap Part.typeName?).getLast?.or o.typeName
  /-- An annotation is kept with its objects in key order. -/
  info : ∀ name, o'.info.get? name =
    ((wishes.filterMap (Part.info? name)).getLast?.map Value.sorted).or (o.info.get? name)
  params : o'.params =
    if wishes.flatMap Part.children = [] then o.params else wishes.flatMap Part.children

namespace NodeParts

/-- What has been asked for by these wishes. -/
structure Tells (parts : NodeParts) (wishes : List Part) : Prop where
  value : parts.value = (wishes.filterMap Part.value?).getLast?
  typeName : parts.typeName = (wishes.filterMap Part.typeName?).getLast?
  info : ∀ name, parts.info.get? name =
    (wishes.filterMap (Part.info? name)).getLast?.map Value.sorted
  params : parts.params = wishes.flatMap Part.children

/-! ## One wish after the other -/

theorem getLast?_filterMap_concat {α β : Type} (f : α → Option β) (as : List α) (a : α) :
    ((as ++ [a]).filterMap f).getLast? = (f a).or (as.filterMap f).getLast? := by
  rw [List.filterMap_append, List.getLast?_append]
  cases hfa : f a with
  | none => simp [hfa]
  | some b => simp [hfa]

/-- One more wish. It is the last one of its slot, and tells nothing about the
    others. -/
theorem tells_add (parts : NodeParts) (wishes : List Part) (wish : Part)
    (hparts : parts.Tells wishes) : (parts.add wish).Tells (wishes ++ [wish]) := by
  rcases hparts with ⟨hvalue, htype, hinfo, hparams⟩
  refine ⟨?_, ?_, fun name => ?_, ?_⟩
  · rw [getLast?_filterMap_concat, ← hvalue]
    cases wish <;> rfl
  · rw [getLast?_filterMap_concat, ← htype]
    cases wish <;> rfl
  · rw [getLast?_filterMap_concat, Option.map_or, ← hinfo name]
    cases wish with
    | info other v =>
        change (parts.info.insert other v).get? name = _
        rw [Meta.get?_insert, Part.info?]
        by_cases hname : name = other
        · rw [if_pos hname, if_pos hname.symm]
          rfl
        · rw [if_neg hname, if_neg (Ne.symm hname)]
          rfl
    | _ => rfl
  · rw [List.flatMap_append, List.flatMap_singleton, ← hparams]
    cases wish with
    | param n => rfl
    | params ns => rfl
    | _ => exact (List.append_nil _).symm

/-- All further wishes, by induction on them. -/
theorem tells_foldl (parts : NodeParts) (done wishes : List Part) (hparts : parts.Tells done) :
    (wishes.foldl add parts).Tells (done ++ wishes) := by
  induction wishes generalizing parts done with
  | nil =>
      rw [List.append_nil]
      exact hparts
  | cons wish rest ih =>
      rw [List.append_cons]
      exact ih (parts.add wish) (done ++ [wish]) (tells_add parts done wish hparts)

theorem tells_ofList (wishes : List Part) : (ofList wishes).Tells wishes :=
  tells_foldl none [] wishes ⟨rfl, rfl, fun _ => rfl, rfl⟩

theorem eq_of_tells {parts parts' : NodeParts} {wishes : List Part} (hparts : parts.Tells wishes)
    (hparts' : parts'.Tells wishes) : parts = parts' := by
  have hinfo : parts.info = parts'.info :=
    Meta.eq_of_get? _ _ (fun name => (hparts.info name).trans (hparts'.info name).symm)
  cases parts
  cases parts'
  rw [mk.injEq]
  exact ⟨hparts.value.trans hparts'.value.symm, hinfo, hparts.params.trans hparts'.params.symm,
    hparts.typeName.trans hparts'.typeName.symm⟩

/-! ## Wishes in another order -/

theorem filterMap_slot {β : Type} (f : Part → Option β) (slot : Slot)
    (hf : ∀ wish, wish.slot ≠ slot → f wish = .none) (wishes : List Part) :
    (wishes.filter (·.slot = slot)).filterMap f = wishes.filterMap f := by
  have hview : (fun wish => if (decide (wish.slot = slot)) = true then f wish else .none) = f := by
    funext wish
    by_cases hslot : wish.slot = slot
    · simp [hslot]
    · simp [hslot, hf wish hslot]
  rw [List.filterMap_filter, hview]

theorem flatMap_slot (wishes : List Part) :
    (wishes.filter (·.slot = .params)).flatMap Part.children = wishes.flatMap Part.children := by
  induction wishes with
  | nil => rfl
  | cons wish rest ih => cases wish <;> simpa [Part.slot, Part.children] using ih

/-- Only the order inside a slot counts. -/
theorem Tells.of_rearranged {parts : NodeParts} {wishes wishes' : List Part}
    (hslots : Part.Rearranged wishes wishes') (hparts : parts.Tells wishes) :
    parts.Tells wishes' := by
  have hview : ∀ {β : Type} (f : Part → Option β) (slot : Slot),
      (∀ wish, wish.slot ≠ slot → f wish = .none) →
        wishes.filterMap f = wishes'.filterMap f := by
    intro β f slot hf
    rw [← filterMap_slot f slot hf wishes, hslots slot, filterMap_slot f slot hf wishes']
  refine ⟨?_, ?_, fun name => ?_, ?_⟩
  · rw [hparts.value, hview Part.value? .value]
    intro wish hslot
    cases wish <;> simp_all [Part.slot, Part.value?]
  · rw [hparts.typeName, hview Part.typeName? .typeName]
    intro wish hslot
    cases wish <;> simp_all [Part.slot, Part.typeName?]
  · rw [hparts.info name, hview (Part.info? name) (.info name)]
    intro wish hslot
    cases wish <;> simp_all [Part.slot, Part.info?]
  · rw [hparts.params, ← flatMap_slot wishes, hslots, flatMap_slot]

theorem ofList_of_rearranged (wishes wishes' : List Part)
    (hslots : Part.Rearranged wishes wishes') : ofList wishes = ofList wishes' :=
  eq_of_tells ((tells_ofList wishes).of_rearranged hslots) (tells_ofList wishes')

/-! ## Over an open node -/

theorem laidOver_apply {parts : NodeParts} {wishes : List Part} (hparts : parts.Tells wishes)
    (o : OpenNode) : OpenNode.LaidOver wishes o (parts.apply o) where
  start := rfl
  value := by rw [apply, hparts.value]
  typeName := by
    rw [apply, hparts.typeName]
    cases (wishes.filterMap Part.typeName?).getLast? <;> rfl
  info name := by rw [apply, Meta.get?_merge, hparts.info name]
  params := by simp only [apply, hparts.params, List.isEmpty_iff]

theorem eq_of_laidOver {wishes : List Part} {o p q : OpenNode}
    (hp : OpenNode.LaidOver wishes o p) (hq : OpenNode.LaidOver wishes o q) : p = q := by
  have hinfo : p.info = q.info :=
    Meta.eq_of_get? _ _ (fun name => (hp.info name).trans (hq.info name).symm)
  cases p
  cases q
  rw [OpenNode.mk.injEq]
  exact ⟨hp.value.trans hq.value.symm, hp.start.trans hq.start.symm, hinfo,
    hp.params.trans hq.params.symm, hp.typeName.trans hq.typeName.symm⟩

theorem apply_apply (parts : NodeParts) (o : OpenNode) :
    parts.apply (parts.apply o) = parts.apply o := by
  have hvalue : parts.value.getD (parts.value.getD o.value) = parts.value.getD o.value := by
    cases parts.value <;> rfl
  have htype : (parts.typeName <|> parts.typeName <|> o.typeName) =
      (parts.typeName <|> o.typeName) := by
    cases parts.typeName <;> rfl
  have hparams : (if parts.params.isEmpty then
        if parts.params.isEmpty then o.params else parts.params
      else parts.params) = if parts.params.isEmpty then o.params else parts.params := by
    split <;> rfl
  simp only [apply, hvalue, htype, hparams, Meta.merge_merge]

end NodeParts

/-- What any list of wishes makes of any open node is the one open node that
    starts where that one does, and in which of values, of types and of
    annotations with one name the last wish counts, all children stand in the
    order in which they were asked for, and everything that was not asked for
    is as it was. The wishes may be rearranged as long as those of one slot
    keep their order, and may be laid over once more. A node that is made with
    them at a cursor has these fields, over those of the node opened there. -/
theorem parts_win_call_by_call :
    (∀ (wishes : List Part) (o o' : OpenNode),
      (NodeParts.ofList wishes).apply o = o' ↔ OpenNode.LaidOver wishes o o') ∧
    (∀ (wishes : List Part) (o : OpenNode) (name : String) (v : Value),
      (wishes.filterMap (Part.info? name)).getLast? = some v → v.InOrder →
        ((NodeParts.ofList wishes).apply o).info.get? name = some v) ∧
    (∀ wishes wishes' : List Part, Part.Rearranged wishes wishes' →
      NodeParts.ofList wishes = NodeParts.ofList wishes') ∧
    (∀ (parts : NodeParts) (o : OpenNode), parts.apply (parts.apply o) = parts.apply o) ∧
    (∀ (σ : Type) [TokenFeed σ] (c : Cursor σ) (wishes : List Part) (kind : NodeKind),
      let n := (c.makeNode (NodeParts.ofList wishes) kind).result
      n.kind = kind ∧ OpenNode.LaidOver wishes (c.startNode none) n.reopen ∧
        n.range.stop = c.stopPosition) := by
  have hlaid : ∀ (wishes : List Part) (o : OpenNode),
      OpenNode.LaidOver wishes o ((NodeParts.ofList wishes).apply o) := fun wishes o =>
    NodeParts.laidOver_apply (NodeParts.tells_ofList wishes) o
  refine ⟨fun wishes o o' => ⟨?_, ?_⟩, ?_, NodeParts.ofList_of_rearranged,
    NodeParts.apply_apply, ?_⟩
  · rintro rfl
    exact hlaid wishes o
  · exact NodeParts.eq_of_laidOver (hlaid wishes o)
  · intro wishes o name v hlast horder
    rw [(hlaid wishes o).info name, hlast, Option.map_some, Value.sorted_of_inOrder v horder]
    rfl
  · intro σ _ c wishes kind n
    have hn : n = ((NodeParts.ofList wishes).apply (c.startNode none)).close kind c.stopPosition :=
      c.result_makeNode _ kind
    rw [hn]
    exact ⟨rfl, hlaid wishes (c.startNode none), rfl⟩

/-- Two annotations with one name and three children, given one by one and
    together, over a node with a child of its own; and the same wishes with the
    annotations behind the children. -/
theorem parts_win_call_by_call_in_disorder :
    let leaf : String → Node := fun value =>
      ({ OpenNode.blank with value := value } : OpenNode).close .noop .nowhere
    let wishes : List Part := [.info "k" .null, .param (leaf "a"), .info "k" (.boolean true),
      .params [leaf "b", leaf "c"]]
    let wishes' : List Part := [.param (leaf "a"), .params [leaf "b", leaf "c"], .info "k" .null,
      .info "k" (.boolean true)]
    let o : OpenNode := { OpenNode.blank with value := "x", params := [leaf "d"] }
    NodeParts.ofList wishes = NodeParts.ofList wishes' ∧
      ((NodeParts.ofList wishes').apply o).params = [leaf "a", leaf "b", leaf "c"] ∧
      ((NodeParts.ofList wishes').apply o).value = "x" ∧
      ((NodeParts.ofList wishes').apply o).info.get? "k" = some (.boolean true) := by
  intro leaf wishes wishes' o
  rcases parts_win_call_by_call with ⟨hlaid, hlast, hrearranged, _, _⟩
  have hslots : Part.Rearranged wishes wishes' := by
    intro slot
    cases slot with
    | info name => by_cases hname : "k" = name <;> simp [wishes, wishes', Part.slot, hname]
    | _ => rfl
  have hover := (hlaid wishes' o _).1 rfl
  exact ⟨hrearranged wishes wishes' hslots, hover.params, hover.value,
    hlast wishes' o "k" (.boolean true) rfl trivial⟩

end Descent
