import Descent.Token

/-!
# Token Feeds

Where tokens come from. A feed hands out one token at a time and remembers
the last one it gave. What it does at the end of the input is its own affair:
it may give nothing from then on, repeat a mark for ever, or even go on after
a gap.

## Main definitions

* `TokenFeed`: What every feed can do.
* `TokenBuffer`: A feed over a list of tokens.
* `Script`: A feed that follows a list of answers, gaps among them.

## Theorems

* `TokenBuffer.given_add_remaining`: No token of a buffer is lost or doubled.
-/

namespace Descent

/-- A source of tokens with a state of type `σ`. -/
class TokenFeed (σ : Type) where
  /-- Gives a token, or nothing, and the state behind it. -/
  next : σ → Option Token × σ
  /-- The last token given. -/
  last? : σ → Option Token

/-- A list of tokens and how many of them have been given. -/
structure TokenBuffer where
  tokens : List Token
  given : Nat
  given_le : given ≤ tokens.length := by omega

namespace TokenBuffer

/-- A buffer of which nothing has been given. -/
def ofList (tokens : List Token) : TokenBuffer :=
  ⟨tokens, 0, Nat.zero_le _⟩

/-- The number of tokens that have not been given. -/
def remaining (b : TokenBuffer) : Nat :=
  b.tokens.length - b.given

/-- Gives the next token, as long as there is one. -/
def next (b : TokenBuffer) : Option Token × TokenBuffer :=
  if h : b.given < b.tokens.length then
    (some b.tokens[b.given], ⟨b.tokens, b.given + 1, h⟩)
  else (none, b)

/-- The last token given, also after the end. -/
def last? (b : TokenBuffer) : Option Token :=
  match b.given with
  | 0 => none
  | given + 1 => b.tokens[given]?

instance : TokenFeed TokenBuffer := ⟨next, last?⟩

/-- No token is lost or doubled. -/
theorem given_add_remaining (b : TokenBuffer) : b.given + b.remaining = b.tokens.length := by
  have := b.given_le
  simp only [remaining]
  omega

end TokenBuffer

/-- A feed that gives the answers of a list one by one. An answer may be
    missing without ending the feed. -/
structure Script where
  answers : List (Option Token)
  /-- Whether the final answer is given again and again. -/
  repeatsFinal : Bool
  /-- Whether the feed knows the last token it gave. -/
  remembers : Bool
  latest : Option Token

namespace Script

/-- A script at its beginning. -/
def ofList (answers : List (Option Token)) (repeatsFinal remembers : Bool) : Script :=
  ⟨answers, repeatsFinal, remembers, none⟩

/-- Gives the next answer, and nothing behind the final one unless it
    repeats. -/
def next (s : Script) : Option Token × Script :=
  match s.answers with
  | [] => (none, s)
  | answer :: rest =>
    let left := if s.repeatsFinal && rest.isEmpty then s.answers else rest
    (answer, { s with answers := left, latest := answer <|> s.latest })

/-- The last token given, if the feed remembers it. -/
def last? (s : Script) : Option Token :=
  if s.remembers then s.latest else none

instance : TokenFeed Script := ⟨next, last?⟩

end Script

end Descent
