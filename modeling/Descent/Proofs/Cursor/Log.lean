import Descent.Proofs.Cursor.Outcome

/-!
# The Log of the Cursor

What the operations of the cursor leave in the log, in closed form. A match
logs where the cursor has come to, a miss logs what was missed, and a
diagnostic logs itself behind it. Closing a node logs the node, with a
warning in front of it if the node ends before it starts.

Everything logged can be read off the result: the event of a diagnostic is
made of the diagnostic, and the events of a closed node of the node.

## Main definitions

* `Diagnostic.event`: The event that says a diagnostic was built.
* `Node.closing`: The events that say a node was closed.

## Theorems

* `events_mismatch`, `events_invertedRange`: A diagnostic logs itself.
* `events_eat`, `events_expect_of_accepts`, `events_expect_of_not_isOn`,
  `events_leaf_of_kind`, `events_leaf_of_not_isOn`: The log of a match.
* `events_endNode`, `events_endNodeAt`: The log of a node that is closed.
-/

namespace Descent

/-- The event that says a diagnostic was built. -/
def Diagnostic.event (d : Diagnostic) : Event :=
  .reported d.problem.code d.message d.filename

/-- The events that say a node was closed at the cursor. -/
def Node.closing (n : Node) : List Event :=
  (if n.range.isOrdered then [] else [.inverted n.kind n.range.start n.range.stop]) ++
    [.closed n.kind n.range.start n.range.stop]

namespace Cursor

variable {σ : Type}

theorem events_mismatch (c : Cursor σ) (expected : Expectation) :
    (c.mismatch expected).events = [(c.mismatch expected).result.event] := by
  cases expected with
  | oneOf values => rfl
  | ofKind kind => rfl
  | unspecified => rfl

theorem events_invertedRange (c : Cursor σ) (start stop : Position) :
    (c.invertedRange start stop).events = [(c.invertedRange start stop).result.event] := rfl

theorem events_endNodeAt (c : Cursor σ) (o : OpenNode) (kind : NodeKind) (stop : Position) :
    (c.endNodeAt o kind stop).events =
      if o.start.precedes stop then [] else [(c.invertedRange o.start stop).result.event] := by
  unfold endNodeAt
  by_cases hordered : o.start.precedes stop = true
  · rw [if_pos hordered, if_pos hordered]
    rfl
  -- A refusal reports itself and nothing else.
  · rw [if_neg hordered, if_neg hordered, Logged.events_bind, events_invertedRange]
    rfl

variable [TokenFeed σ]

theorem events_eat (c : Cursor σ) (expected : Expectation) :
    (c.eat expected).events =
      if c.isOn expected then [.advanced c.next.token] else [.missed expected] := by
  unfold eat
  by_cases hon : c.isOn expected = true
  · rw [if_pos hon, if_pos hon]
    rfl
  · rw [if_neg hon, if_neg hon]
    rfl

theorem events_expect_of_accepts (c : Cursor σ) (expected : Expectation) (token : Token)
    (htoken : c.token = some token) (haccepts : expected.accepts token = true) :
    (c.expect expected).events = [.advanced c.next.token] := by
  have hon : c.isOn expected = true := (c.isOn_iff expected).2 ⟨token, htoken, haccepts⟩
  unfold expect
  rw [Logged.events_bind, events_eat, result_eat, if_pos hon, if_pos hon]
  simp only [htoken, Logged.events_pure, List.append_nil]

theorem events_expect_of_not_isOn (c : Cursor σ) (expected : Expectation)
    (hoff : c.isOn expected = false) :
    (c.expect expected).events = [.missed expected, (c.mismatch expected).result.event] := by
  unfold expect
  rw [Logged.events_bind, events_eat, result_eat, hoff]
  -- The miss comes first, then the report of it.
  simp only [Bool.false_eq_true, if_false, Logged.events_bind, Logged.events_pure,
    events_mismatch, List.append_nil, List.cons_append, List.nil_append]

theorem events_endNode (c : Cursor σ) (o : OpenNode) (kind : NodeKind) :
    (c.endNode o kind).events = (o.close kind c.stopPosition).closing := by
  unfold endNode Node.closing Range.isOrdered
  by_cases hordered : o.start.precedes c.stopPosition = true
  · simp [OpenNode.close, hordered]
  · simp [OpenNode.close, hordered]

theorem events_leaf_of_kind (c : Cursor σ) (leaf : Leaf) (token : Token)
    (htoken : c.token = some token) (hkind : token.kind = leaf.tokenKind) :
    (c.leaf leaf).events = .advanced c.next.token :: (c.next.leafNode leaf token).closing := by
  have haccepts : (Expectation.ofKind leaf.tokenKind).accepts token = true := by
    simp [Expectation.accepts, hkind]
  unfold Cursor.leaf
  rw [Logged.events_bind, c.events_expect_of_accepts _ token htoken haccepts,
    c.result_expect_of_accepts _ token htoken haccepts]
  simp only [Logged.events_bind, Logged.events_pure, events_endNode, List.append_nil,
    List.singleton_append]
  rfl

theorem events_leaf_of_not_isOn (c : Cursor σ) (leaf : Leaf)
    (hoff : c.isOn (.ofKind leaf.tokenKind) = false) :
    (c.leaf leaf).events =
      [.missed (.ofKind leaf.tokenKind),
        (c.mismatch (.ofKind leaf.tokenKind)).result.event] := by
  unfold Cursor.leaf
  rw [Logged.events_bind, c.events_expect_of_not_isOn _ hoff, c.result_expect_of_not_isOn _ hoff]
  exact List.append_nil _

end Cursor

end Descent
