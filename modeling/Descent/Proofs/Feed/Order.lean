import Descent.Proofs.Feed.Pulls

/-!
# Feeds in Order

Most feeds hand out their tokens in the order of the text and know which one
they gave last. Of such a feed the last token alone says how far the text has
been given, whatever gaps are among its answers and whether or not it has run
dry: this is its frontier, and it never moves back.

The definition compares each token with the one given last before it, and
with nothing further back. That is enough by transitivity, and it covers a
feed that has been used before it comes to a parse. `steady_of_sorted` gives
the familiar form for a fresh feed.

## Main definitions

* `TokenFeed.Steady`: A feed in order that knows its last token.
* `TokenFeed.frontier`: How far the text has been given after so many pulls.

## Theorems

* `steady_of_sorted`: A fresh feed whose tokens are in order is steady.
* `steady_ofList`: A buffer over a sorted list is steady.
* `frontier_mono`: The frontier never moves back.
* `frontier_of_answer`: A token that is given is the new frontier.
-/

namespace Descent

namespace TokenFeed

variable {σ : Type} [TokenFeed σ]

/-- A feed that gives its tokens in order and knows which one it gave last. -/
structure Steady (feed : σ) : Prop where
  /-- The last token given is the one last given. -/
  remembers : ∀ n, last? (behind feed (n + 1)) = (answer feed n <|> last? (behind feed n))
  /-- No token starts before the one given last. -/
  ordered : ∀ n latest token, last? (behind feed n) = some latest →
    answer feed n = some token → latest.start.precedes token.start = true

/-- How far the text has been given after so many pulls. -/
def frontier (feed : σ) (n : Nat) : Position :=
  ((last? (behind feed n)).map (·.start)).getD .nowhere

/-- The last token of a fresh feed is one of its answers. -/
theorem exists_answer_of_last? (feed : σ) (hfresh : last? feed = none)
    (hremembers : ∀ n, last? (behind feed (n + 1)) = (answer feed n <|> last? (behind feed n)))
    (n : Nat) (latest : Token) (hlatest : last? (behind feed n) = some latest) :
    ∃ m, m < n ∧ answer feed m = some latest := by
  induction n with
  | zero =>
      rw [behind, hfresh] at hlatest
      cases hlatest
  | succ k ih =>
      rw [hremembers] at hlatest
      -- Either this pull gave the last token, or it gave nothing and an older
      -- one is still the last.
      cases hanswer : answer feed k with
      | some token =>
          rw [hanswer] at hlatest
          exact ⟨k, by omega, hanswer.trans hlatest⟩
      | none =>
          rw [hanswer] at hlatest
          rcases ih hlatest with ⟨m, hm, hmlatest⟩
          exact ⟨m, by omega, hmlatest⟩

theorem steady_of_sorted (feed : σ) (hfresh : last? feed = none)
    (hremembers : ∀ n, last? (behind feed (n + 1)) = (answer feed n <|> last? (behind feed n)))
    (hsorted : ∀ m n earlier later, m < n → answer feed m = some earlier →
      answer feed n = some later → earlier.start.precedes later.start = true) : Steady feed where
  remembers := hremembers
  ordered n latest token hlatest htoken := by
    rcases exists_answer_of_last? feed hfresh hremembers n latest hlatest with ⟨m, hm, hmlatest⟩
    exact hsorted m n latest token hm hmlatest htoken

theorem frontier_of_answer (feed : σ) (hsteady : Steady feed) (n : Nat) (token : Token)
    (hanswer : answer feed n = some token) : frontier feed (n + 1) = token.start := by
  rw [frontier, hsteady.remembers, hanswer]
  rfl

theorem frontier_of_gap (feed : σ) (hsteady : Steady feed) (n : Nat)
    (hanswer : answer feed n = none) : frontier feed (n + 1) = frontier feed n := by
  rw [frontier, hsteady.remembers, hanswer]
  rfl

theorem frontier_le_succ (feed : σ) (hsteady : Steady feed) (n : Nat) :
    (frontier feed n).precedes (frontier feed (n + 1)) = true := by
  cases hanswer : answer feed n with
  | none =>
      rw [frontier_of_gap feed hsteady n hanswer]
      exact Position.precedes_refl _
  | some token =>
      rw [frontier_of_answer feed hsteady n token hanswer, frontier]
      -- The first token of all follows the position that precedes everything.
      cases hlatest : last? (behind feed n) with
      | none => exact Position.nowhere_precedes _
      | some latest => exact hsteady.ordered n latest token hlatest hanswer

theorem frontier_mono (feed : σ) (hsteady : Steady feed) (m n : Nat) (hle : m ≤ n) :
    (frontier feed m).precedes (frontier feed n) = true := by
  induction hle with
  | refl => exact Position.precedes_refl _
  | step _ ih => exact Position.precedes_trans ih (frontier_le_succ feed hsteady _)

end TokenFeed

namespace TokenBuffer

open TokenFeed

theorem remembers_ofList (tokens : List Token) (n : Nat) :
    TokenFeed.last? (behind (ofList tokens) (n + 1)) =
      (answer (ofList tokens) n <|> TokenFeed.last? (behind (ofList tokens) n)) := by
  have hnext : TokenFeed.last? (behind (ofList tokens) (n + 1)) =
      tokens[min tokens.length (n + 1) - 1]? := last?_behind_ofList tokens n
  rw [hnext, answer_ofList]
  by_cases hleft : n < tokens.length
  -- A token is left, so the pull gives it and the counter points behind it.
  · rw [show min tokens.length (n + 1) - 1 = n by omega, List.getElem?_eq_getElem hleft]
    rfl
  · rw [List.getElem?_eq_none (by omega : tokens.length ≤ n)]
    -- The buffer had stopped already, so the pull has changed nothing.
    cases n with
    | zero =>
        rw [List.getElem?_eq_none (by omega)]
        rfl
    | succ k =>
        have hlast : TokenFeed.last? (behind (ofList tokens) (k + 1)) =
            tokens[min tokens.length (k + 1) - 1]? := last?_behind_ofList tokens k
        rw [hlast, show min tokens.length (k + 1 + 1) - 1 = min tokens.length (k + 1) - 1 by omega]
        rfl

theorem steady_ofList (tokens : List Token)
    (hsorted : tokens.Pairwise fun t u => t.start.precedes u.start = true) :
    Steady (ofList tokens) := by
  refine steady_of_sorted _ rfl (remembers_ofList tokens) (fun m n earlier later hmn hm hn => ?_)
  rw [answer_ofList] at hm hn
  rcases List.getElem?_eq_some_iff.1 hm with ⟨hmlt, rfl⟩
  rcases List.getElem?_eq_some_iff.1 hn with ⟨hnlt, rfl⟩
  exact List.pairwise_iff_getElem.1 hsorted m n hmlt hnlt hmn

end TokenBuffer

end Descent
