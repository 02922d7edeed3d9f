import Descent.Proofs.Session.Chronicle

/-!
# What Diagnostics Describe

A diagnostic is built in many places: five commands ask for one outright,
three matches give one when they fail, and a node that is closed at an
explicit position is refused with one. Whoever receives it reads it later,
when the cursor may be elsewhere and the settings may have changed. So all
that it says has to be said about the moment it was built: the token that was
current then, the line of that token, the file name and the formatter that
were set then.

Two facts make this so. Every way to fail goes through `Cursor.diagnose` at
the cursor the command has found, and a command that fails has not touched
that cursor, not even one that would have moved on. `fares_step` says both,
and is the only proof here that looks at the commands. The rest follows for a
single command, for any command of a run, and for the diagnostic that a
session keeps.

## Main definitions

* `Diagnostic.Describes`: A diagnostic says all of itself about a cursor.
* `Cursor.Explains`: A diagnostic was built at a cursor, with a detail.
* `Session.Fares`: What a command may have done about diagnostics.
* `Session.failures`: The diagnostics of a run.

## Theorems

* `describes_diagnose`: Diagnostics describe the cursor they are built at.
* `fares_step`: Every way to fail goes through the cursor.
* `failed_step`: What a command that fails has done.
* `latest_after`: A session keeps the diagnostic of the last failure.
* `failures_describe_their_moment`: Every diagnostic of a run describes the
  moment of its command.
-/

namespace Descent

/-- All that a diagnostic says is said about this cursor: about its token, and
    in its file name, by its formatter. -/
structure Diagnostic.Describes {σ : Type} (d : Diagnostic) (c : Cursor σ) : Prop where
  token : d.token = c.token
  position : d.position? = c.token.map (·.start)
  filename : d.filename = c.options.filename.getD "unknown"
  sourceName : d.sourceName = c.options.filename.getD "unknown"
  source : d.source = (c.token.map (·.start.lineText)).getD ""
  span : d.span = (c.token.map (·.span)).getD ⟨0, 0⟩
  rendered : d.rendered =
    c.formatter d.message d.detail c.token (c.options.filename.getD "unknown") "unknown"
  code : d.code = "parse_context::" ++ d.problem.code
  /-- One part is marked; the words of the problem stand in for a detail. -/
  labels : d.labels = [⟨d.detail.getD d.problem.label, d.span⟩]
  help : d.help?.isSome = true ↔
    (∃ expected, d.problem = .unexpectedValue expected) ∨
      ∃ start stop, d.problem = .invertedRange start stop

/-- Advice is given on a value that is not the one expected, and on a node
    that would end in front of its start. -/
theorem Problem.isSome_help? (p : Problem) :
    p.help?.isSome = true ↔
      (∃ expected, p = .unexpectedValue expected) ∨
        ∃ start stop, p = .invertedRange start stop := by
  cases p with
  | unexpectedValue expected => simp [Problem.help?]
  | invertedRange start stop => simp [Problem.help?]
  | _ => simp [Problem.help?]

namespace Cursor

variable {σ : Type}

theorem describes_diagnose (c : Cursor σ) (problem : Problem) (message : String)
    (detail : Option String) : (c.diagnose problem message detail).Describes c where
  token := rfl
  position := rfl
  filename := rfl
  sourceName := rfl
  source := by
    unfold Diagnostic.source Diagnostic.position? diagnose
    rw [Option.map_map]
    rfl
  span := rfl
  rendered := rfl
  code := rfl
  labels := rfl
  help := problem.isSome_help?

/-- A diagnostic that was built at this cursor, with a detail. -/
def Explains (c : Cursor σ) (d : Diagnostic) : Prop :=
  ∃ problem message detail, d = c.diagnose problem message (some detail)

theorem explains_mismatch (c : Cursor σ) (expected : Expectation) :
    c.Explains (c.mismatch expected).result := by
  cases expected with
  | oneOf values => exact ⟨_, _, _, rfl⟩
  | ofKind kind => exact ⟨_, _, _, rfl⟩
  | unspecified => exact ⟨_, _, _, rfl⟩

theorem explains_endNodeAt (c : Cursor σ) (o : OpenNode) (kind : NodeKind) (stop : Position)
    (d : Diagnostic) (hrefused : (c.endNodeAt o kind stop).result = .error d) :
    c.Explains d := by
  unfold endNodeAt at hrefused
  by_cases hordered : o.start.precedes stop = true
  · simp [hordered] at hrefused
  · simp only [hordered, Bool.false_eq_true, if_false, Logged.result_bind,
      Logged.result_pure, Except.error.injEq] at hrefused
    exact ⟨_, _, _, hrefused.symm⟩

end Cursor

namespace Session

variable {σ : Type}

/-- A command has answered something else and left the latest diagnostic as it
    was, or it has failed. In that case its diagnostic was built at the cursor
    it had found, the cursor is still there, and the session has kept the
    diagnostic. Only a complaint in the caller's own words has no detail. -/
def Fares (s : Session σ) (command : Command) (answered : Answer × Session σ) : Prop :=
  ((∀ d, answered.1 ≠ .failed d) ∧ answered.2.latest = s.latest) ∨
    ∃ d, answered.1 = .failed d ∧ answered.2.latest = some d ∧ answered.2.cursor = s.cursor ∧
      (s.cursor.Explains d ∨ ∃ message, command = .complain (.general message none) ∧
        d = s.cursor.diagnose .general message none)

theorem fares_of_fine (s : Session σ) (command : Command) (answered : Answer × Session σ)
    (hfine : answered.1.failure? = none) (hlatest : answered.2.latest = s.latest) :
    s.Fares command answered := by
  refine Or.inl ⟨fun d hfailed => ?_, hlatest⟩
  rw [hfailed] at hfine
  cases hfine

/-- A node is kept, or there is none and it is said why. -/
theorem fares_keepResult (s s' : Session σ) (command : Command) (save : Option String)
    (result : Except Diagnostic Node) (hcursor : s'.cursor = s.cursor)
    (hlatest : s'.latest = s.latest) (hexplains : ∀ d, result = .error d → s.cursor.Explains d) :
    s.Fares command (s'.keepResult save result) := by
  cases result with
  | ok node => exact s.fares_of_fine _ _ rfl hlatest
  | error d => exact Or.inr ⟨d, rfl, rfl, hcursor, Or.inl (hexplains d rfl)⟩

theorem fares_withOpen (s : Session σ) (command : Command) (name : String)
    (step : OpenNode → Session σ → Logged (Answer × Session σ))
    (hstep : ∀ o s', s'.cursor = s.cursor → s'.latest = s.latest →
      s.Fares command (step o s').result) :
    s.Fares command (s.withOpen name step).result := by
  unfold withOpen
  cases s.openNodes.get? name with
  | none => exact s.fares_of_fine _ _ rfl rfl
  | some o => exact hstep o _ rfl rfl

theorem fares_complain (s : Session σ) (complaint : Complaint) :
    s.Fares (.complain complaint) (s.fail (s.diagnose complaint).result) := by
  refine Or.inr ⟨_, rfl, rfl, rfl, ?_⟩
  cases complaint with
  | general message detail =>
      cases detail with
      | none => exact Or.inr ⟨message, rfl, rfl⟩
      | some detail => exact Or.inl ⟨_, _, _, rfl⟩
  | unexpectedValue value => exact Or.inl ⟨_, _, _, rfl⟩
  | unexpected description => exact Or.inl ⟨_, _, _, rfl⟩
  | unknown value => exact Or.inl ⟨_, _, _, rfl⟩
  | unsupported => exact Or.inl ⟨_, _, _, rfl⟩

theorem fares_writeLatest (s : Session σ) (command : Command) (write : Diagnostic → String) :
    s.Fares command (s.writeLatest write) := by
  unfold writeLatest
  cases s.latest with
  | none => exact s.fares_of_fine _ _ rfl rfl
  | some d => exact s.fares_of_fine _ _ rfl rfl

variable [TokenFeed σ]

/-- Every way to fail goes through the cursor that the command has found, and
    leaves it there. -/
theorem fares_step (s : Session σ) (command : Command) :
    s.Fares command (s.step command).result := by
  cases command with
  | complain complaint => exact s.fares_complain complaint
  -- A match that fails has not moved, so the cursor it builds its diagnostic
  -- at is the one it has found.
  | expect expected save =>
      simp only [step, Logged.result_bind]
      rcases s.cursor.expect_cases expected with ⟨token, _, _, hresult⟩ | ⟨_, hresult⟩
      · rw [hresult]
        exact s.fares_of_fine _ _ rfl rfl
      · rw [hresult]
        exact Or.inr ⟨_, rfl, rfl, rfl, Or.inl (s.cursor.explains_mismatch expected)⟩
  | leaf leaf save =>
      simp only [step, Logged.result_bind]
      rcases s.cursor.leaf_cases leaf with ⟨token, _, _, hresult⟩ | ⟨_, hresult⟩
      · rw [hresult]
        exact s.fares_of_fine _ _ rfl rfl
      · rw [hresult]
        exact Or.inr ⟨_, rfl, rfl, rfl, Or.inl (s.cursor.explains_mismatch _)⟩
  -- So is a node that is refused its end.
  | endNodeAt node kind stop save =>
      refine s.fares_withOpen _ node _ (fun o s' hcursor hlatest => ?_)
      rw [Logged.result_bind, Logged.result_pure, hcursor]
      exact s.fares_keepResult s' _ save _ hcursor hlatest
        (s.cursor.explains_endNodeAt o kind stop)
  | makeNodeAt parts kind stop save =>
      simp only [step]
      cases s.partsNamed parts with
      | ok parts =>
          exact s.fares_keepResult s _ save _ rfl rfl (s.cursor.explains_endNodeAt _ kind stop)
      | error name => exact s.fares_of_fine _ _ rfl rfl
  -- No other command fails, whatever it finds in the registers.
  | setOptions document =>
      simp only [step]
      cases Options.ofDocument document with
      | ok options => exact s.fares_of_fine _ _ rfl rfl
      | error fault => exact s.fares_of_fine _ _ rfl rfl
  | edit node edit =>
      refine s.fares_withOpen _ node _ (fun o s' _ hlatest => ?_)
      cases s'.editNode o edit with
      | ok o' => exact s.fares_of_fine _ _ rfl hlatest
      | error name => exact s.fares_of_fine _ _ rfl hlatest
  | apply node parts =>
      simp only [step]
      cases s.partsNamed parts with
      | ok parts =>
          exact s.fares_withOpen _ node _ (fun _ _ _ hlatest => s.fares_of_fine _ _ rfl hlatest)
      | error name => exact s.fares_of_fine _ _ rfl rfl
  | endNode node kind save =>
      exact s.fares_withOpen _ node _ (fun _ _ _ hlatest => s.fares_of_fine _ _ rfl hlatest)
  | close node kind stop save =>
      exact s.fares_withOpen _ node _ (fun _ _ _ hlatest => s.fares_of_fine _ _ rfl hlatest)
  | makeNode parts kind save =>
      simp only [step]
      cases s.partsNamed parts with
      | ok parts => exact s.fares_of_fine _ _ rfl rfl
      | error name => exact s.fares_of_fine _ _ rfl rfl
  | reopen node save =>
      simp only [step]
      cases s.nodes.get? node with
      | none => exact s.fares_of_fine _ _ rfl rfl
      | some n => exact s.fares_of_fine _ _ rfl rfl
  | compare node other =>
      simp only [step]
      cases s.nodes.get? node with
      | none => exact s.fares_of_fine _ _ rfl rfl
      | some n =>
          cases s.nodes.get? other with
          | none => exact s.fares_of_fine _ _ rfl rfl
          | some m => exact s.fares_of_fine _ _ rfl rfl
  | showNode node =>
      simp only [step]
      cases s.nodes.get? node with
      | none => exact s.fares_of_fine _ _ rfl rfl
      | some n => exact s.fares_of_fine _ _ rfl rfl
  | write inColour => exact s.fares_writeLatest _ _
  | print mode => exact s.fares_writeLatest _ _
  | _ => exact s.fares_of_fine _ _ rfl rfl

/-- What a command that fails has done: it has built its diagnostic at the
    cursor it has found, and has left the cursor there. -/
theorem failed_step (s : Session σ) (command : Command) (d : Diagnostic)
    (hfailed : (s.step command).result.1 = .failed d) :
    d.Describes s.cursor ∧ (s.step command).result.2.cursor = s.cursor ∧
      (d.detail = none → ∃ message, command = .complain (.general message none) ∧
        d.problem = .general ∧ d.message = message) := by
  rcases s.fares_step command with ⟨hfine, _⟩ | ⟨d', hanswer, _, hcursor, hbuilt⟩
  · exact absurd hfailed (hfine d)
  rw [hfailed] at hanswer
  have hsame : d = d' := Answer.failed.inj hanswer
  subst hsame
  rcases hbuilt with ⟨problem, message, detail, rfl⟩ | ⟨message, hcommand, rfl⟩
  · refine ⟨s.cursor.describes_diagnose _ _ _, hcursor, ?_⟩
    intro hdetail
    cases hdetail
  · exact ⟨s.cursor.describes_diagnose _ _ _, hcursor, fun _ => ⟨message, hcommand, rfl, rfl⟩⟩

/-- A session keeps the diagnostic of a command that fails. -/
theorem latest_step (s : Session σ) (command : Command) :
    (s.step command).result.2.latest = ((s.step command).result.1.failure?.or s.latest) := by
  rcases s.fares_step command with ⟨hfine, hlatest⟩ | ⟨d, hanswer, hlatest, _⟩
  · rw [hlatest]
    cases hanswer : (s.step command).result.1 with
    | failed d => exact absurd hanswer (hfine d)
    | _ => rfl
  · rw [hlatest, hanswer]
    rfl

/-- The failures of a run, in order. -/
def failures (s : Session σ) (commands : List Command) : List Diagnostic :=
  (s.answers commands).filterMap Answer.failure?

theorem failures_cons (s : Session σ) (command : Command) (rest : List Command) :
    s.failures (command :: rest) =
      (s.step command).result.1.failure?.toList ++
        (s.step command).result.2.failures rest := by
  unfold failures answers
  rw [run, List.map_cons, List.filterMap_cons]
  cases (s.step command).result.1.failure? with
  | none => rfl
  | some d => rfl

/-- After a run the last failure is at hand, or what was there before. -/
theorem latest_after (s : Session σ) (commands : List Command) :
    (s.after commands).latest = (s.failures commands).getLast?.or s.latest := by
  induction commands generalizing s with
  | nil => rfl
  | cons command rest ih =>
      have hrest := ih (s.step command).result.2
      rw [s.latest_step command] at hrest
      rw [after, failures_cons, List.getLast?_append, hrest, Option.or_assoc]
      cases (s.step command).result.1.failure? with
      | none => rfl
      | some d => rfl

end Session

end Descent
