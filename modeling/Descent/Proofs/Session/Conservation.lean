import Descent.Proofs.Feed.Pulls
import Descent.Proofs.Session.Moves

/-!
# Conservation of Tokens

The cursor holds one token in front of its feed, so the feed is always one
pull ahead of the parse. A run that has moved on `a` times has pulled `1 + a`
times, failed matches and all other commands included, and the current token
is the answer to the last pull. The only other way to a current token is that
the caller writes one, and that lasts until the next pull.

`Cursor.Follows` says this of one moment. It holds of a fresh cursor, a move
keeps it with the count adjusted, and so it holds behind every run.

The tokens that a run spends, those it was on when it moved on, are then the
answers of the feed in their order: none is lost and none comes twice.

## Main definitions

* `Move.keep`: What is left of a written token behind a move.
* `Session.written`: The token written since the last pull of a run.
* `Session.spent`: The tokens that were current whenever a run moved on.
* `Cursor.Follows`: The cursor is as many pulls into its feed as it should be.

## Theorems

* `follows_step`: A command keeps the cursor and its feed in step.
* `follows_after`: So does a run.
* `follows_take`: Without writes the cursor is on what the feed gave.
* `spent_eq`: A run without writes spends the answers of its feed.
* `token_of_consumed`: What an insistence hands over is the current token.
* `cursor_one_pull_ahead`: The count of pulls and what follows from it.
-/

namespace Descent

open TokenFeed

/-- What is left of a written token behind a move. -/
def Move.keep (written : Option (Option Token)) : Move → Option (Option Token)
  | .stay => written
  | .pull => none
  | .write token => some token

namespace Cursor

variable {σ : Type} [TokenFeed σ]

/-- The cursor has moved on `a` times from the start of `feed`, and what the
    caller has written since, if anything, is `written`. -/
def Follows (feed : σ) (a : Nat) (written : Option (Option Token)) (c : Cursor σ) : Prop :=
  c.place = (written.getD (answer feed a), behind feed (a + 1))

theorem follows_ofFeed (feed : σ) : Follows feed 0 none (ofFeed feed) := rfl

/-- A move keeps the cursor in step with its feed. -/
theorem follows_moved (feed : σ) (a : Nat) (written : Option (Option Token)) (c : Cursor σ)
    (move : Move) (hc : Follows feed a written c) :
    Follows feed (a + if move = .pull then 1 else 0) (move.keep written) (c.moved move) := by
  have hfeed : c.feed = behind feed (a + 1) := congrArg Prod.snd hc
  cases move with
  | stay => exact hc
  | pull =>
      unfold Follows
      simp only [place, moved, next, hfeed]
      rfl
  | write token =>
      unfold Follows
      simp only [place, moved, withToken, hfeed]
      rfl

theorem Follows.of_place {feed : σ} {a : Nat} {written : Option (Option Token)} {c d : Cursor σ}
    (hc : Follows feed a written c) (hplace : d.place = c.place) : Follows feed a written d :=
  hplace.trans hc

theorem Follows.token_eq {feed : σ} {a : Nat} {written : Option (Option Token)} {c : Cursor σ}
    (hc : Follows feed a written c) : c.token = written.getD (answer feed a) :=
  congrArg Prod.fst hc

theorem Follows.feed_eq {feed : σ} {a : Nat} {written : Option (Option Token)} {c : Cursor σ}
    (hc : Follows feed a written c) : c.feed = behind feed (a + 1) :=
  congrArg Prod.snd hc

end Cursor

namespace Session

variable {σ : Type} [TokenFeed σ]

/-- The token written since the last pull of a run, if one was. -/
def written (s : Session σ) (commands : List Command) : Option (Option Token) :=
  (s.moves commands).foldl Move.keep none

/-- The tokens that were current whenever a run moved on. -/
def spent (s : Session σ) : List Command → List (Option Token)
  | [] => []
  | command :: rest =>
    let answered := (s.step command).result
    if command.move answered.1 = .pull then s.cursor.token :: spent answered.2 rest
    else spent answered.2 rest

/-- A command keeps the cursor in step with its feed. -/
theorem follows_step (feed : σ) (a : Nat) (kept : Option (Option Token)) (s : Session σ)
    (command : Command) (hs : Cursor.Follows feed a kept s.cursor) :
    Cursor.Follows feed (a + if command.move (s.step command).result.1 = .pull then 1 else 0)
      ((command.move (s.step command).result.1).keep kept) (s.step command).result.2.cursor :=
  (Cursor.follows_moved feed a kept s.cursor _ hs).of_place (s.place_step command)

/-- Behind every run the cursor is in step with its feed. -/
theorem follows_after (feed : σ) (a : Nat) (kept : Option (Option Token)) (s : Session σ)
    (commands : List Command) (hs : Cursor.Follows feed a kept s.cursor) :
    Cursor.Follows feed (a + s.pulls commands) ((s.moves commands).foldl Move.keep kept)
      (s.after commands).cursor := by
  induction commands generalizing s a kept with
  | nil => exact hs
  | cons command rest ih =>
      -- The command moves the cursor, and the rest of the run goes on from
      -- there.
      have hrest := ih _ _ _ (s.follows_step feed a kept command hs)
      rw [pulls_cons, moves_cons, List.foldl_cons, ← Nat.add_assoc]
      exact hrest

/-- The same from the start of the feed. -/
theorem follows_after_ofFeed (feed : σ) (s : Session σ) (commands : List Command)
    (hs : s.cursor = Cursor.ofFeed feed) :
    Cursor.Follows feed (s.pulls commands) (s.written commands) (s.after commands).cursor := by
  have hstart : Cursor.Follows feed 0 none s.cursor := hs ▸ Cursor.follows_ofFeed feed
  have hafter := follows_after feed 0 none s commands hstart
  rw [Nat.zero_add] at hafter
  exact hafter

/-- A command that writes no token leaves none behind. -/
theorem keep_move_none (command : Command) (answer : Answer)
    (hwrites : command.writesToken = false) : (command.move answer).keep none = none := by
  cases command with
  | setToken token => cases hwrites
  -- A match that hit has pulled and one that missed has stayed; neither leaves
  -- a written token.
  | eat expected =>
      cases answer with
      | truth b => cases b <;> rfl
      | _ => rfl
  | expect expected save => cases answer <;> rfl
  | leaf leaf save => cases answer <;> rfl
  | _ => rfl

/-- A command that writes no token keeps the cursor on what its feed gave. -/
theorem follows_step_of_no_write (feed : σ) (a : Nat) (s : Session σ) (command : Command)
    (hs : Cursor.Follows feed a none s.cursor) (hwrites : command.writesToken = false) :
    Cursor.Follows feed (a + if command.move (s.step command).result.1 = .pull then 1 else 0) none
      (s.step command).result.2.cursor := by
  have hstep := s.follows_step feed a none command hs
  rw [keep_move_none command _ hwrites] at hstep
  exact hstep

theorem written_of_no_writes (s : Session σ) (commands : List Command)
    (hwrites : ∀ command ∈ commands, command.writesToken = false) :
    s.written commands = none := by
  unfold written
  induction commands generalizing s with
  | nil => rfl
  | cons command rest ih =>
      rw [List.forall_mem_cons] at hwrites
      rw [moves_cons, List.foldl_cons, keep_move_none command _ hwrites.1]
      exact ih _ hwrites.2

/-- A run that writes no token keeps the cursor on what its feed gave. -/
theorem follows_after_of_no_writes (feed : σ) (a : Nat) (s : Session σ) (commands : List Command)
    (hs : Cursor.Follows feed a none s.cursor)
    (hwrites : ∀ command ∈ commands, command.writesToken = false) :
    Cursor.Follows feed (a + s.pulls commands) none (s.after commands).cursor := by
  have hafter := follows_after feed a none s commands hs
  have hnone : (s.moves commands).foldl Move.keep none = none :=
    s.written_of_no_writes commands hwrites
  rw [hnone] at hafter
  exact hafter

/-- The same behind the first commands of a run from the start of the feed. -/
theorem follows_take (feed : σ) (s : Session σ) (commands : List Command)
    (hs : s.cursor = Cursor.ofFeed feed)
    (hwrites : ∀ command ∈ commands, command.writesToken = false) (i : Nat) :
    Cursor.Follows feed (s.pulls (commands.take i)) none (s.after (commands.take i)).cursor := by
  have hafter := follows_after_ofFeed feed s (commands.take i) hs
  rw [s.written_of_no_writes _ fun command hmem => hwrites command (List.mem_of_mem_take hmem)]
    at hafter
  exact hafter

/-- A run without writes spends the answers of its feed one after the
    other. -/
theorem spent_eq (feed : σ) (a : Nat) (s : Session σ) (commands : List Command)
    (hs : Cursor.Follows feed a none s.cursor)
    (hwrites : ∀ command ∈ commands, command.writesToken = false) :
    s.spent commands = (List.range' a (s.pulls commands)).map (answer feed) := by
  induction commands generalizing s a with
  | nil => rfl
  | cons command rest ih =>
      rw [List.forall_mem_cons] at hwrites
      have hrest := ih _ _ (s.follows_step_of_no_write feed a command hs hwrites.1) hwrites.2
      simp only [spent, pulls_cons]
      -- A pull spends the answer that was current, and the range begins with
      -- it.
      by_cases hpull : command.move (s.step command).result.1 = .pull
      · rw [if_pos hpull] at hrest
        rw [if_pos hpull, if_pos hpull, hrest, Nat.add_comm 1, List.range'_succ, List.map_cons,
          hs.token_eq]
        rfl
      · rw [if_neg hpull, Nat.add_zero] at hrest
        rw [if_neg hpull, if_neg hpull, hrest, Nat.zero_add]

/-- An insistence hands over the token that the cursor was on. -/
theorem token_of_consumed (s : Session σ) (expected : Expectation) (save : Option String)
    (token : Token) (hanswer : (s.step (.expect expected save)).result.1 = .consumed token) :
    s.cursor.token = some token := by
  simp only [step, Logged.result_bind] at hanswer
  rcases s.cursor.expect_cases expected with ⟨taken, htoken, _, hresult⟩ | ⟨_, hresult⟩
  · rw [hresult] at hanswer
    have hsame : taken = token := by
      simpa only [Logged.result_pure, Answer.consumed.injEq] using hanswer
    rw [← hsame]
    exact htoken
  -- A miss hands nothing over.
  · rw [hresult] at hanswer
    cases hanswer

/-! ## Counting pulls -/

/-- A run that has moved on `a` times has pulled its feed `1 + a` times, and
    the current token is the answer to the last pull unless the caller has
    written one since. Over a buffer this counts the tokens given, whatever
    is written; without writes the run spends the tokens of the buffer in
    their order and is on the token behind them. -/
theorem cursor_one_pull_ahead :
    (∀ (σ : Type) [TokenFeed σ] (feed : σ) (s : Session σ) (commands : List Command),
      s.cursor = Cursor.ofFeed feed →
        (s.after commands).cursor.feed = behind feed (1 + s.pulls commands) ∧
        (s.after commands).cursor.token =
          (s.written commands).getD (answer feed (s.pulls commands))) ∧
    (∀ (σ : Type) [TokenFeed σ] (feed : σ) (s : Session (Metered σ)) (commands : List Command),
      s.cursor = Cursor.ofFeed (Metered.ofFeed feed) →
        (s.after commands).cursor.feed.count = 1 + s.pulls commands) ∧
    (∀ (tokens : List Token) (s : Session TokenBuffer) (commands : List Command),
      s.cursor = Cursor.ofFeed (TokenBuffer.ofList tokens) →
        (s.after commands).cursor.feed.tokens = tokens ∧
        (s.after commands).cursor.feed.given = min tokens.length (1 + s.pulls commands) ∧
        (s.after commands).cursor.feed.given + (s.after commands).cursor.feed.remaining =
          tokens.length ∧
        (s.after commands).cursor.last? =
          tokens[(s.after commands).cursor.feed.given - 1]? ∧
        ((s.after commands).cursor.last? = none ↔ tokens = []) ∧
        ((∀ command ∈ commands, command.writesToken = false) →
          (s.after commands).cursor.token = tokens[s.pulls commands]? ∧
          s.spent commands = (List.range (s.pulls commands)).map (tokens[·]?) ∧
          ∀ (expected : Expectation) (save : Option String) (token : Token),
            ((s.after commands).step (.expect expected save)).result.1 = .consumed token →
              tokens[s.pulls commands]? = some token)) := by
  refine ⟨?_, ?_, ?_⟩
  · intro σ _ feed s commands hs
    have hafter := follows_after_ofFeed feed s commands hs
    exact ⟨by rw [hafter.feed_eq, Nat.add_comm], hafter.token_eq⟩
  · intro σ _ feed s commands hs
    have hafter := follows_after_ofFeed _ s commands hs
    rw [hafter.feed_eq, Metered.behind_ofFeed, Nat.add_comm]
  -- Over a buffer the state of the feed is known, and with it all its counters.
  · intro tokens s commands hs
    have hafter := follows_after_ofFeed _ s commands hs
    have hfeed := hafter.feed_eq
    have hgiven : (s.after commands).cursor.feed.given =
        min tokens.length (1 + s.pulls commands) := by
      rw [hfeed, TokenBuffer.given_behind_ofList, Nat.add_comm]
    have htokens : (s.after commands).cursor.feed.tokens = tokens := by
      rw [hfeed, TokenBuffer.tokens_behind_ofList]
    have hlast : (s.after commands).cursor.last? =
        tokens[(s.after commands).cursor.feed.given - 1]? := by
      rw [hgiven, Nat.add_comm 1, ← TokenBuffer.last?_behind_ofList, ← hfeed]
      rfl
    refine ⟨htokens, hgiven, ?_, hlast, ?_, fun hwrites => ?_⟩
    · rw [TokenBuffer.given_add_remaining, htokens]
    · rw [hlast, hgiven, List.getElem?_eq_none_iff]
      -- The last token is missing only from an empty buffer, since one pull has
      -- been made.
      constructor
      · intro hshort
        exact List.length_eq_zero_iff.1 (by omega)
      · intro hnil
        simp [hnil]
    · have htoken : (s.after commands).cursor.token = tokens[s.pulls commands]? := by
        rw [hafter.token_eq, s.written_of_no_writes commands hwrites, Option.getD_none,
          TokenBuffer.answer_ofList]
      refine ⟨htoken, ?_, fun expected save token hanswer => ?_⟩
      · have hanswers : answer (TokenBuffer.ofList tokens) = fun n => tokens[n]? :=
          funext (TokenBuffer.answer_ofList tokens)
        have hstart : Cursor.Follows (TokenBuffer.ofList tokens) 0 none s.cursor :=
          hs ▸ Cursor.follows_ofFeed _
        rw [spent_eq _ 0 s commands hstart hwrites, hanswers, List.range_eq_range']
      · rw [← htoken]
        exact (s.after commands).token_of_consumed expected save token hanswer

/-- Two names, a test that fails, one name taken and two more steps: three
    pulls on top of the first, of which the last gives nothing. -/
theorem cursor_one_pull_ahead_past_the_end :
    let tokens : List Token :=
      [⟨"a", .identifier, ⟨1, 0, "a b"⟩⟩, ⟨"b", .identifier, ⟨1, 2, "a b"⟩⟩]
    let commands : List Command :=
      [.eat (.ofKind .keyword), .expect (.ofKind .identifier) none, .next, .next]
    let s := ofCursor (Cursor.ofFeed (TokenBuffer.ofList tokens))
    let m := ofCursor (Cursor.ofFeed (Metered.ofFeed (TokenBuffer.ofList tokens)))
    s.pulls commands = 3 ∧
      (s.after commands).cursor.feed = behind (TokenBuffer.ofList tokens) 4 ∧
      (m.after commands).cursor.feed.count = 4 ∧
      (s.after commands).cursor.feed.given = 2 ∧
      (s.after commands).cursor.token = none ∧
      s.spent commands = tokens.map some ++ [none] := by
  intro tokens commands s m
  have hs : s.cursor = Cursor.ofFeed (TokenBuffer.ofList tokens) := rfl
  have hm : m.cursor = Cursor.ofFeed (Metered.ofFeed (TokenBuffer.ofList tokens)) := rfl
  have hpulls : s.pulls commands = 3 := by decide
  have hcount : m.pulls commands = 3 := by decide
  have hwrites : ∀ command ∈ commands, command.writesToken = false := by
    simp [commands, Command.writesToken]
  rcases cursor_one_pull_ahead with ⟨hfeeds, hmeters, hbuffers⟩
  have hfeed := hfeeds TokenBuffer _ s commands hs
  have hmeter := hmeters TokenBuffer _ m commands hm
  rcases hbuffers tokens s commands hs with ⟨_, hgiven, _, _, _, hrun⟩
  rcases hrun hwrites with ⟨htoken, hspent, _⟩
  rw [hpulls] at hfeed hgiven htoken hspent
  rw [hcount] at hmeter
  exact ⟨hpulls, hfeed.1, hmeter, hgiven, htoken, hspent⟩

end Session

end Descent
