import Descent.Proofs.Cursor.Outcome
import Descent.Session

/-!
# Moves of a Session

A session obeys some thirty commands, but to the cursor only three things can
happen: it stays, it pulls the next token out of its feed, or the caller
writes a token over the current one. Which of the three a command was can be
told from outside, from the command and the answer it got, and that is how
`Command.move` tells it. It never looks at the cursor.

`place_step` closes the gap: what happened to the token and the feed is what
the command and its answer say. It is the only proof that goes through the
commands one by one; every law about runs of a session rests on it and is an
induction over the moves.

A session is driven by a list of commands, so a run is as long as its list
and the state behind a part of it is the session behind a shorter list. The
first lemmas are about that.

## Main definitions

* `Move`: What can happen to the cursor.
* `Command.move`: The move that a command and its answer stand for.
* `Cursor.moved`: The cursor behind a move.
* `Cursor.place`: The token and the feed of a cursor, without its settings.
* `Session.transcript`: The commands of a run with what came of them.
* `Session.answers`: The answers of a run.
* `Session.moves`: The moves of a run.
* `Session.pulls`: How often a run has moved on.

## Theorems

* `after_append`: The session behind two runs in a row.
* `answer_eq`: Who answers a command of a run.
* `exists_step_of_mem_transcript`: Every entry of a transcript is a step.
* `place_step`: A command does to the cursor what its answer says.
* `moves_append`: The moves of two runs in a row.
* `pulls_take_mono`: A longer run has not moved on less.
-/

namespace Descent

/-- What can happen to the cursor. -/
inductive Move where
  | stay
  | pull
  /-- The caller writes the current token. -/
  | write (token : Option Token)
  deriving DecidableEq

/-- What a command with this answer did to the cursor. Moving on always pulls;
    matching pulls if it hands something over or answers yes. -/
def Command.move : Command → Answer → Move
  | .next, _ => .pull
  | .eat _, .truth true => .pull
  | .expect _ _, .consumed _ => .pull
  | .leaf _ _, .node _ => .pull
  | .setToken written, _ => .write written
  | _, _ => .stay

/-- Whether a command writes the current token. -/
def Command.writesToken : Command → Bool
  | .setToken _ => true
  | _ => false

namespace Cursor

variable {σ : Type}

/-- The token and the feed of a cursor, without its settings. -/
def place (c : Cursor σ) : Option Token × σ := (c.token, c.feed)

/-- The cursor behind a move. -/
def moved [TokenFeed σ] (c : Cursor σ) : Move → Cursor σ
  | .stay => c
  | .pull => c.next
  | .write token => c.withToken token

end Cursor

namespace Session

variable {σ : Type}

/-! ## Steps that leave the cursor alone -/

theorem place_keepResult (s : Session σ) (save : Option String) (result : Except Diagnostic Node) :
    (s.keepResult save result).2.cursor.place = s.cursor.place := by
  cases result with
  | ok node => rfl
  | error d => rfl

theorem place_writeLatest (s : Session σ) (write : Diagnostic → String) :
    (s.writeLatest write).2.cursor.place = s.cursor.place := by
  unfold writeLatest
  cases s.latest with
  | none => rfl
  | some d => rfl

/-- A step on an open node leaves the cursor alone if it does so on every
    open node. -/
theorem place_withOpen (s : Session σ) (name : String)
    (step : OpenNode → Session σ → Logged (Answer × Session σ))
    (hstep : ∀ o s', s'.cursor.place = s.cursor.place →
      (step o s').result.2.cursor.place = s.cursor.place) :
    (s.withOpen name step).result.2.cursor.place = s.cursor.place := by
  unfold withOpen
  cases s.openNodes.get? name with
  | none => rfl
  | some o => exact hstep o _ rfl

variable [TokenFeed σ]

/-! ## Runs in parts -/

/-- The commands of a run, each with what came of it: its answer and the
    session behind it, and the events on the way. -/
def transcript (s : Session σ) (commands : List Command) :
    List (Command × Logged (Answer × Session σ)) :=
  commands.zip (s.run commands)

/-- The answers of a run, one to each command. -/
def answers (s : Session σ) (commands : List Command) : List Answer :=
  (s.run commands).map (·.result.1)

/-- The moves of a run, one for each command. -/
def moves (s : Session σ) (commands : List Command) : List Move :=
  commands.zipWith Command.move (s.answers commands)

/-- How often a run has moved on. -/
def pulls (s : Session σ) (commands : List Command) : Nat :=
  (s.moves commands).count .pull

theorem after_append (s : Session σ) (first second : List Command) :
    s.after (first ++ second) = (s.after first).after second := by
  induction first generalizing s with
  | nil => rfl
  | cons command rest ih => exact ih _

theorem length_run (s : Session σ) (commands : List Command) :
    (s.run commands).length = commands.length := by
  induction commands generalizing s with
  | nil => rfl
  | cons command rest ih => simp only [run, List.length_cons, ih]

@[simp]
theorem length_answers (s : Session σ) (commands : List Command) :
    (s.answers commands).length = commands.length := by
  rw [answers, List.length_map, length_run]

theorem answers_append (s : Session σ) (first second : List Command) :
    s.answers (first ++ second) = s.answers first ++ (s.after first).answers second := by
  simp only [answers, run_append, List.map_append]

/-- The session behind one command more. -/
theorem after_take_succ (s : Session σ) (commands : List Command) (i : Nat) (command : Command)
    (hcommand : commands[i]? = some command) :
    s.after (commands.take (i + 1)) = ((s.after (commands.take i)).step command).result.2 := by
  -- The last of the commands is the one at the index.
  rw [List.take_add_one, hcommand, after_append]
  rfl

/-- Each command is answered by the session behind those in front of it. -/
theorem answer_eq (s : Session σ) (commands : List Command) (i : Nat) (command : Command)
    (answer : Answer) (hcommand : commands[i]? = some command)
    (hanswer : (s.answers commands)[i]? = some answer) :
    ((s.after (commands.take i)).step command).result.1 = answer := by
  induction commands generalizing s i with
  | nil => cases hcommand
  | cons first rest ih =>
      cases i with
      | zero =>
          cases hcommand
          exact Option.some.inj hanswer
      | succ k => exact ih _ k hcommand hanswer

@[simp]
theorem transcript_cons (s : Session σ) (command : Command) (rest : List Command) :
    s.transcript (command :: rest) =
      (command, s.step command) :: (s.step command).result.2.transcript rest := rfl

/-- What comes of a command in a run is what comes of it in some session. -/
theorem exists_step_of_mem_transcript (s : Session σ) (commands : List Command)
    (command : Command) (answered : Logged (Answer × Session σ))
    (hmem : (command, answered) ∈ s.transcript commands) :
    ∃ before : Session σ, answered = before.step command := by
  induction commands generalizing s with
  | nil => cases hmem
  | cons first rest ih =>
      rw [transcript_cons, List.mem_cons] at hmem
      rcases hmem with hfirst | hrest
      · cases hfirst
        exact ⟨s, rfl⟩
      · exact ih _ hrest

@[simp]
theorem moves_cons (s : Session σ) (command : Command) (rest : List Command) :
    s.moves (command :: rest) =
      command.move (s.step command).result.1 :: (s.step command).result.2.moves rest := rfl

theorem moves_append (s : Session σ) (first second : List Command) :
    s.moves (first ++ second) = s.moves first ++ (s.after first).moves second := by
  rw [moves, answers_append, List.zipWith_append (s.length_answers first).symm]
  rfl

theorem pulls_cons (s : Session σ) (command : Command) (rest : List Command) :
    s.pulls (command :: rest) =
      (if command.move (s.step command).result.1 = .pull then 1 else 0) +
        (s.step command).result.2.pulls rest := by
  rw [pulls, moves_cons, List.count_cons, Nat.add_comm]
  simp only [pulls, beq_iff_eq]

theorem pulls_append (s : Session σ) (first second : List Command) :
    s.pulls (first ++ second) = s.pulls first + (s.after first).pulls second := by
  rw [pulls, moves_append, List.count_append]
  rfl

theorem pulls_take_mono (s : Session σ) (commands : List Command) (i j : Nat) (hle : i ≤ j) :
    s.pulls (commands.take i) ≤ s.pulls (commands.take j) := by
  -- The longer run goes on where the shorter one stops.
  have hsplit : commands.take j = commands.take i ++ (commands.drop i).take (j - i) := by
    rw [← List.take_add, Nat.add_sub_cancel' hle]
  rw [hsplit, pulls_append]
  omega

/-! ## One command -/

/-- A command does to the token and the feed what its answer says. -/
theorem place_step (s : Session σ) (command : Command) :
    (s.step command).result.2.cursor.place =
      (s.cursor.moved (command.move (s.step command).result.1)).place := by
  cases command with
  -- Questions, settings and openings compute; the rest is decided by what is
  -- found.
  | next => rfl
  | token | last | isAtEnd | filename | options | form isExpanded => rfl
  | setFilename filename => rfl
  | setFormatter formatter => rfl
  | setToken token => rfl
  | saveToken name => rfl
  | isOn expected => rfl
  | startNode seed save => rfl
  | complain complaint => rfl
  | setOptions document =>
      simp only [step]
      cases Options.ofDocument document with
      | ok options => rfl
      | error fault => rfl
  -- The three matches move if the token fits and answer so.
  | eat expected =>
      simp only [step, Logged.result_bind, Logged.result_pure, Cursor.result_eat]
      by_cases hon : s.cursor.isOn expected = true
      · rw [if_pos hon]
        rfl
      · rw [if_neg hon]
        rfl
  | expect expected save =>
      rcases s.cursor.expect_cases expected with ⟨token, _, _, hresult⟩ | ⟨_, hresult⟩
      · simp only [step, Logged.result_bind, hresult]
        rfl
      · simp only [step, Logged.result_bind, hresult]
        rfl
  | leaf leaf save =>
      rcases s.cursor.leaf_cases leaf with ⟨token, _, _, hresult⟩ | ⟨_, hresult⟩
      · simp only [step, Logged.result_bind, hresult]
        rfl
      · simp only [step, Logged.result_bind, hresult]
        rfl
  -- All that is done to open and closed nodes is done beside the cursor.
  | edit node edit =>
      refine s.place_withOpen node _ (fun o s' hs' => ?_)
      cases hedit : s'.editNode o edit with
      | ok o' => exact hs'
      | error name => exact hs'
  | apply node parts =>
      simp only [step]
      cases s.partsNamed parts with
      | ok parts => exact s.place_withOpen node _ (fun o s' hs' => hs')
      | error name => rfl
  | endNode node kind save => exact s.place_withOpen node _ (fun o s' hs' => hs')
  | endNodeAt node kind stop save =>
      refine s.place_withOpen node _ (fun o s' hs' => ?_)
      rw [Logged.result_bind]
      exact (s'.place_keepResult save _).trans hs'
  | close node kind stop save => exact s.place_withOpen node _ (fun o s' hs' => hs')
  | makeNode parts kind save =>
      simp only [step]
      cases s.partsNamed parts with
      | ok parts => rfl
      | error name => rfl
  | makeNodeAt parts kind stop save =>
      simp only [step]
      cases s.partsNamed parts with
      | ok parts => exact s.place_keepResult save _
      | error name => rfl
  | reopen node save =>
      simp only [step]
      cases s.nodes.get? node with
      | none => rfl
      | some n => rfl
  | compare node other =>
      simp only [step]
      cases s.nodes.get? node with
      | none => rfl
      | some n =>
          cases s.nodes.get? other with
          | none => rfl
          | some m => rfl
  | showNode node =>
      simp only [step]
      cases s.nodes.get? node with
      | none => rfl
      | some n => rfl
  | write inColour => exact s.place_writeLatest _
  | print mode => exact s.place_writeLatest _

end Session

end Descent
