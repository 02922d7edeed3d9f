import Descent.Cursor.Build

/-!
# Outcomes of Matching and Closing

What is left in hand after a match, or when a node is closed. The operations
of the cursor are written as a log of events with a result at its end; most
arguments about a parse do not care for the log and want the result alone.
Here each operation gets its result in closed form: a match leaves the cursor
behind its token, a miss leaves it exactly where it was, and a node is closed
where the cursor is.

`eat` is decided by a test, so its outcome is an equation. The other two
also hand something over, so theirs are a choice of two: `expect_cases` and
`leaf_cases` say everything that can happen, and later proofs take them
apart with `rcases` and never look at the definitions.

## Theorems

* `isOn_iff`: The current token meets an expectation.
* `result_eat`: Eating moves on exactly if the token fits.
* `result_expect_of_accepts`, `result_expect_of_not_isOn`: The two ways an
  insistence can end.
* `expect_cases`: There is no third.
* `stopPosition_cases`: Where a node that is closed now ends.
* `result_endNode`, `result_makeNode`: Closing a node there gives one.
* `result_leaf_of_kind`, `result_leaf_of_not_isOn`: The two ways a leaf can
  end.
* `leaf_cases`: There is no third.
-/

namespace Descent

namespace Cursor

variable {σ : Type}

theorem isOn_iff (c : Cursor σ) (expected : Expectation) :
    c.isOn expected = true ↔ ∃ token, c.token = some token ∧ expected.accepts token = true := by
  unfold isOn
  cases htoken : c.token with
  | none => simp
  | some token => simp

variable [TokenFeed σ]

theorem result_eat (c : Cursor σ) (expected : Expectation) :
    (c.eat expected).result = if c.isOn expected then (true, c.next) else (false, c) := by
  unfold eat
  by_cases hon : c.isOn expected = true
  · rw [if_pos hon, if_pos hon]
    rfl
  · rw [if_neg hon, if_neg hon]
    rfl

theorem result_expect_of_accepts (c : Cursor σ) (expected : Expectation) (token : Token)
    (htoken : c.token = some token) (haccepts : expected.accepts token = true) :
    (c.expect expected).result = (.ok token, c.next) := by
  have hon : c.isOn expected = true := (c.isOn_iff expected).2 ⟨token, htoken, haccepts⟩
  unfold expect
  rw [Logged.result_bind, result_eat, if_pos hon]
  simp only [htoken, Logged.result_pure]

theorem result_expect_of_not_isOn (c : Cursor σ) (expected : Expectation)
    (hoff : c.isOn expected = false) :
    (c.expect expected).result = (.error (c.mismatch expected).result, c) := by
  unfold expect
  rw [Logged.result_bind, result_eat, hoff]
  rfl

/-- An insistence hands over the token it was on and moves past it, or it
    leaves the cursor alone and gives a diagnostic. -/
theorem expect_cases (c : Cursor σ) (expected : Expectation) :
    (∃ token, c.token = some token ∧ expected.accepts token = true ∧
      (c.expect expected).result = (.ok token, c.next)) ∨
    (c.isOn expected = false ∧
      (c.expect expected).result = (.error (c.mismatch expected).result, c)) := by
  by_cases hon : c.isOn expected = true
  · rcases (c.isOn_iff expected).1 hon with ⟨token, htoken, haccepts⟩
    have hresult := c.result_expect_of_accepts expected token htoken haccepts
    exact Or.inl ⟨token, htoken, haccepts, hresult⟩
  -- No token, or one that does not fit: nothing has moved.
  · have hoff : c.isOn expected = false := by simpa using hon
    exact Or.inr ⟨hoff, c.result_expect_of_not_isOn expected hoff⟩

/-! ## Closing nodes -/

/-- Where a node that is closed now ends. -/
theorem stopPosition_cases (c : Cursor σ) :
    c.stopPosition = match c.token, c.last? with
      | some next, _ => next.start
      | none, some last => last.start
      | none, none => ⟨0, 0, ""⟩ := by
  unfold stopPosition
  cases c.token with
  | some next => rfl
  | none =>
      cases c.last? with
      | some last => rfl
      | none => rfl

theorem stopPosition_of_token (c : Cursor σ) (token : Token) (htoken : c.token = some token) :
    c.stopPosition = token.start := by
  rw [stopPosition_cases, htoken]

theorem result_endNode (c : Cursor σ) (o : OpenNode) (kind : NodeKind) :
    (c.endNode o kind).result = o.close kind c.stopPosition := by
  unfold endNode
  -- The warning is in the log alone.
  by_cases hordered : o.start.precedes c.stopPosition = true
  · simp [hordered]
  · simp [hordered]

theorem result_makeNode (c : Cursor σ) (parts : NodeParts) (kind : NodeKind) :
    (c.makeNode parts kind).result = (parts.apply (c.startNode none)).close kind c.stopPosition :=
  c.result_endNode _ kind

/-- The node that a leaf makes of its token, once the cursor is behind it. -/
def leafNode (behind : Cursor σ) (leaf : Leaf) (token : Token) : Node :=
  ((leaf.parts token).apply (OpenNode.ofSeed (some token))).close leaf.nodeKind
    behind.stopPosition

theorem result_leaf_of_kind (c : Cursor σ) (leaf : Leaf) (token : Token)
    (htoken : c.token = some token) (hkind : token.kind = leaf.tokenKind) :
    (c.leaf leaf).result = (.ok (c.next.leafNode leaf token), c.next) := by
  have haccepts : (Expectation.ofKind leaf.tokenKind).accepts token = true := by
    simp [Expectation.accepts, hkind]
  -- Behind the token the node is closed like any other.
  unfold Cursor.leaf
  rw [Logged.result_bind, c.result_expect_of_accepts _ token htoken haccepts]
  simp only [Logged.result_bind, Logged.result_pure, result_endNode]
  rfl

theorem result_leaf_of_not_isOn (c : Cursor σ) (leaf : Leaf)
    (hoff : c.isOn (.ofKind leaf.tokenKind) = false) :
    (c.leaf leaf).result = (.error (c.mismatch (.ofKind leaf.tokenKind)).result, c) := by
  unfold Cursor.leaf
  rw [Logged.result_bind, c.result_expect_of_not_isOn _ hoff]
  rfl

/-- A leaf takes its token and becomes a node, or it takes nothing and gives
    a diagnostic. -/
theorem leaf_cases (c : Cursor σ) (leaf : Leaf) :
    (∃ token, c.token = some token ∧ token.kind = leaf.tokenKind ∧
      (c.leaf leaf).result = (.ok (c.next.leafNode leaf token), c.next)) ∨
    (c.isOn (.ofKind leaf.tokenKind) = false ∧
      (c.leaf leaf).result = (.error (c.mismatch (.ofKind leaf.tokenKind)).result, c)) := by
  by_cases hon : c.isOn (.ofKind leaf.tokenKind) = true
  · rcases (c.isOn_iff _).1 hon with ⟨token, htoken, haccepts⟩
    have hkind : token.kind = leaf.tokenKind := by simpa [Expectation.accepts] using haccepts
    exact Or.inl ⟨token, htoken, hkind, c.result_leaf_of_kind leaf token htoken hkind⟩
  · have hoff : c.isOn (.ofKind leaf.tokenKind) = false := by simpa using hon
    exact Or.inr ⟨hoff, c.result_leaf_of_not_isOn leaf hoff⟩

end Cursor

end Descent
