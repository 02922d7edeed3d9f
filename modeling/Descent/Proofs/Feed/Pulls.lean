import Descent.Feed

/-!
# Pulling from a Feed

A feed is known by what it answers. `TokenFeed.behind` is the feed after so
many pulls and `TokenFeed.answer` what the pull after that gives, so a feed
with its state hidden is a sequence of answers, gaps and all. Laws about runs
count pulls and speak of answers; which state the feed is in never matters to
them.

A buffer answers with the tokens of its list in their order and with nothing
from then on. Its counter stops at the length of the list, however often it
is pulled.

## Main definitions

* `TokenFeed.behind`: The feed after so many pulls.
* `TokenFeed.answer`: The answer to the pull after so many others.
* `Metered`: A feed that counts its pulls and is otherwise the same.

## Theorems

* `Metered.behind_ofFeed`: The counter counts, and the feed is not disturbed.
* `tokens_behind_ofList`, `given_behind_ofList`: A buffer after so many pulls.
* `answer_ofList`: A buffer answers with its tokens in order.
* `last?_eq`: The last token given stands just in front of the counter.
-/

namespace Descent

namespace TokenFeed

variable {σ : Type} [TokenFeed σ]

/-- The feed after so many pulls. -/
def behind (feed : σ) : Nat → σ
  | 0 => feed
  | n + 1 => (TokenFeed.next (behind feed n)).2

/-- The answer to the pull after so many others. -/
def answer (feed : σ) (n : Nat) : Option Token :=
  (TokenFeed.next (behind feed n)).1

end TokenFeed

/-- A feed that counts its pulls. -/
structure Metered (σ : Type) where
  feed : σ
  count : Nat

namespace Metered

open TokenFeed

variable {σ : Type} [TokenFeed σ]

/-- A feed with its counter at zero. -/
def ofFeed (feed : σ) : Metered σ := ⟨feed, 0⟩

instance : TokenFeed (Metered σ) where
  next m := ((TokenFeed.next m.feed).1, ⟨(TokenFeed.next m.feed).2, m.count + 1⟩)
  last? m := TokenFeed.last? m.feed

theorem behind_ofFeed (feed : σ) (n : Nat) : behind (ofFeed feed) n = ⟨behind feed n, n⟩ := by
  induction n with
  | zero => rfl
  | succ k ih =>
      rw [behind, ih]
      rfl

end Metered

namespace TokenBuffer

open TokenFeed

theorem tokens_next (b : TokenBuffer) : b.next.2.tokens = b.tokens := by
  unfold next
  by_cases hleft : b.given < b.tokens.length
  · rw [dif_pos hleft]
  · rw [dif_neg hleft]

theorem given_next (b : TokenBuffer) : b.next.2.given = min b.tokens.length (b.given + 1) := by
  have hle := b.given_le
  unfold next
  by_cases hleft : b.given < b.tokens.length
  · rw [dif_pos hleft]
    change b.given + 1 = _
    omega
  -- At the end the counter is at the length already.
  · rw [dif_neg hleft]
    change b.given = _
    omega

theorem answer_next (b : TokenBuffer) : b.next.1 = b.tokens[b.given]? := by
  unfold next
  by_cases hleft : b.given < b.tokens.length
  · rw [dif_pos hleft, List.getElem?_eq_getElem hleft]
  · rw [dif_neg hleft, List.getElem?_eq_none (by omega)]

theorem tokens_behind_ofList (tokens : List Token) (n : Nat) :
    (behind (ofList tokens) n).tokens = tokens := by
  induction n with
  | zero => rfl
  | succ k ih => exact (tokens_next _).trans ih

theorem given_behind_ofList (tokens : List Token) (n : Nat) :
    (behind (ofList tokens) n).given = min tokens.length n := by
  induction n with
  | zero => exact (Nat.min_zero _).symm
  | succ k ih =>
      -- A pull adds one up to the length, so the smaller of the two moves on
      -- with it.
      have hnext := given_next (behind (ofList tokens) k)
      rw [tokens_behind_ofList, ih] at hnext
      have hstep : (behind (ofList tokens) (k + 1)).given =
          min tokens.length (min tokens.length k + 1) := hnext
      rw [hstep]
      omega

theorem answer_ofList (tokens : List Token) (n : Nat) :
    answer (ofList tokens) n = tokens[n]? := by
  have hanswer : answer (ofList tokens) n = tokens[min tokens.length n]? := by
    have hnext := answer_next (behind (ofList tokens) n)
    rw [tokens_behind_ofList, given_behind_ofList] at hnext
    exact hnext
  rw [hanswer]
  -- Past the end the counter has stopped, but so have the tokens.
  by_cases hleft : n < tokens.length
  · rw [Nat.min_eq_right (by omega)]
  · rw [List.getElem?_eq_none (by omega), List.getElem?_eq_none (by omega)]

theorem last?_eq (b : TokenBuffer) (hgiven : 0 < b.given ∨ b.tokens = []) :
    b.last? = b.tokens[b.given - 1]? := by
  unfold last?
  cases hb : b.given with
  | zero =>
      rcases hgiven with hpos | hnil
      · omega
      -- Without tokens both sides are nothing.
      · rw [hnil]
        rfl
  | succ k => rfl

theorem last?_behind_ofList (tokens : List Token) (n : Nat) :
    (behind (ofList tokens) (n + 1)).last? = tokens[min tokens.length (n + 1) - 1]? := by
  have hlast := last?_eq (behind (ofList tokens) (n + 1))
  rw [tokens_behind_ofList, given_behind_ofList] at hlast
  refine hlast ?_
  -- After a pull the counter is at zero only if there was nothing to give.
  by_cases hnil : tokens = []
  · exact Or.inr hnil
  · have hpos := List.length_pos_iff.2 hnil
    left
    omega

end TokenBuffer

end Descent
