import Mathlib.Data.List.Forall2
import Descent.Proofs.Session.Moves

/-!
# Presentation Has No Say

How problems are presented is a matter of settings, and settings can be
changed at any moment of a parse. None of this may be felt by the parse. Two
sessions that differ in their settings alone, and in the diagnostic that was
kept last, are told apart by nothing but what they show of a diagnostic: the
name of the file and the rendered text.

The two sessions need not be changed in step. Each may be given settings
where the other is given none, so their commands agree only after those about
presentation have been struck out. The argument strikes them out on one side
at a time. A command about presentation leaves the substance of its session
alone, any other does the same to all sessions of one substance, and so every
run agrees with the run that has been struck out. Two runs that strike out to
the same commands then agree with each other.

An answer is compared by what is left of it when all that is for show has
been taken off. That makes agreement an equation, with nothing to prove about
the relation itself; what the equation says is spelled out at the end.

## Main definitions

* `Command.isPresentation`: Whether a command sets or shows presentation.
* `Diagnostic.stripped`, `Answer.stripped`: Without anything for show.
* `Diagnostic.Agrees`, `Answer.Agrees`: The same but for what is for show.
* `Session.substance`: All of a session that a parse can feel.
* `Session.responses`: The answers of a run that are not about presentation.

## Theorems

* `Answer.agrees_of_stripped`: What it takes for answers to agree.
* `substance_of_isPresentation`: Presentation leaves the substance alone.
* `outcome_step_presented`: A command feels only the substance.
* `responses_struck`: A run agrees with itself without presentation.
* `settings_never_felt`: Runs that differ in presentation alone agree.
-/

namespace Descent

/-- Whether a command sets how problems are presented, or shows it. -/
def Command.isPresentation : Command → Bool
  | .setFilename _ | .setFormatter _ | .setOptions _ => true
  | .filename | .options | .form _ | .write _ | .print _ => true
  | _ => false

/-- A diagnostic without anything that is for show. -/
def Diagnostic.stripped (d : Diagnostic) : Diagnostic :=
  { d with filename := "", rendered := "" }

/-- Diagnostics that are the same but for the name of the file, which is also
    the name of the quoted source, and the rendered text. -/
structure Diagnostic.Agrees (d e : Diagnostic) : Prop where
  problem : d.problem = e.problem
  message : d.message = e.message
  detail : d.detail = e.detail
  token : d.token = e.token
  position : d.position? = e.position?
  category : d.problem.category = e.problem.category
  code : d.code = e.code
  help : d.help? = e.help?
  label : d.label = e.label
  span : d.span = e.span
  source : d.source = e.source
  /-- There is no other difference. -/
  rest : { d with filename := e.filename, rendered := e.rendered } = e

/-- All that a tool can ask of a diagnostic is in what is left when it is
    stripped. -/
theorem Diagnostic.agrees_of_stripped (d e : Diagnostic) (hsame : d.stripped = e.stripped) :
    d.Agrees e := by
  cases d with
  | mk problem message detail token filename rendered =>
    cases e with
    | mk problem' message' detail' token' filename' rendered' =>
      simp only [stripped, Diagnostic.mk.injEq] at hsame
      rcases hsame with ⟨rfl, rfl, rfl, rfl, _, _⟩
      exact ⟨rfl, rfl, rfl, rfl, rfl, rfl, rfl, rfl, rfl, rfl, rfl, rfl⟩

/-- An answer without anything that is for show. -/
def Answer.stripped : Answer → Answer
  | .failed d => .failed d.stripped
  | answer => answer

/-- Answers that are the same but for what a diagnostic has for show. -/
inductive Answer.Agrees : Answer → Answer → Prop
  | same (answer : Answer) : Agrees answer answer
  | failed {d e : Diagnostic} : d.Agrees e → Agrees (.failed d) (.failed e)

theorem Answer.stripped_cases (answer : Answer) :
    (∃ d, answer = .failed d) ∨ ((∀ d, answer ≠ .failed d) ∧ answer.stripped = answer) := by
  cases answer with
  | failed d => exact Or.inl ⟨d, rfl⟩
  | _ => exact Or.inr ⟨fun _ => nofun, rfl⟩

theorem Answer.agrees_of_stripped (a b : Answer) (hsame : a.stripped = b.stripped) :
    a.Agrees b := by
  rcases a.stripped_cases with ⟨d, rfl⟩ | ⟨ha, hbare⟩
  · rcases b.stripped_cases with ⟨e, rfl⟩ | ⟨hb, hbare⟩
    · exact .failed (d.agrees_of_stripped e (Answer.failed.inj hsame))
    -- A failure is left a failure, so it is like no other answer.
    · exact absurd (hbare.symm.trans hsame.symm) (hb _)
  · rcases b.stripped_cases with ⟨e, rfl⟩ | ⟨_, hbare'⟩
    · exact absurd (hbare.symm.trans hsame) (ha _)
    · rw [hbare, hbare'] at hsame
      rw [hsame]
      exact .same b

namespace Session

variable {σ : Type}

/-- All of a session that a parse can feel: its token, its feed and its
    registers. -/
def substance (s : Session σ) :
    (Option Token × σ) × Registers (Option Token) × Registers OpenNode × Registers Node :=
  (s.cursor.place, s.tokens, s.openNodes, s.nodes)

/-- The same session with other settings and another latest diagnostic. -/
def presented (s : Session σ) (options : Options) (formatter : Formatter)
    (latest : Option Diagnostic) : Session σ :=
  { s with cursor := { s.cursor with options, formatter }, latest }

/-- An answer and the session behind it, without anything for show. -/
def outcome (answered : Answer × Session σ) :
    Answer × (Option Token × σ) × Registers (Option Token) × Registers OpenNode ×
      Registers Node :=
  (answered.1.stripped, answered.2.substance)

/-- Sessions of one substance differ in their settings and their latest
    diagnostic. -/
theorem eq_presented (s t : Session σ) (hsame : t.substance = s.substance) :
    t = s.presented t.cursor.options t.cursor.formatter t.latest := by
  rcases s with ⟨⟨token, feed, options, formatter⟩, tokens, openNodes, nodes, latest⟩
  rcases t with ⟨⟨token', feed', options', formatter'⟩, tokens', openNodes', nodes', latest'⟩
  simp only [substance, Cursor.place, Prod.mk.injEq] at hsame
  rcases hsame with ⟨⟨rfl, rfl⟩, rfl, rfl, rfl⟩
  rfl

section Presented

variable (s : Session σ) (options : Options) (formatter : Formatter) (latest : Option Diagnostic)

theorem openNodes_presented :
    (s.presented options formatter latest).openNodes = s.openNodes := rfl

theorem nodes_presented : (s.presented options formatter latest).nodes = s.nodes := rfl

theorem nodesNamed_presented (names : List String) :
    (s.presented options formatter latest).nodesNamed names = s.nodesNamed names := by
  induction names with
  | nil => rfl
  | cons name rest ih =>
      simp only [nodesNamed, ih, nodes_presented]

theorem partsNamed_presented (parts : List PartCommand) :
    (s.presented options formatter latest).partsNamed parts = s.partsNamed parts := by
  have hpart : (s.presented options formatter latest).partNamed = s.partNamed := by
    funext part
    cases part with
    | params names => simp only [partNamed, nodesNamed_presented]
    | _ => rfl
  rw [partsNamed, hpart]
  rfl

theorem editNode_presented (o : OpenNode) (edit : Edit) :
    (s.presented options formatter latest).editNode o edit = s.editNode o edit := by
  rw [editNode, nodesNamed_presented]
  rfl

/-- A step on an open node has one outcome if it has one on every open
    node. -/
theorem outcome_withOpen_presented (name : String)
    (step step' : OpenNode → Session σ → Logged (Answer × Session σ))
    (hstep : ∀ o s', outcome (step o (presented s' options formatter latest)).result =
      outcome (step' o s').result) :
    outcome ((s.presented options formatter latest).withOpen name step).result =
      outcome (s.withOpen name step').result := by
  simp only [withOpen, openNodes_presented]
  cases s.openNodes.get? name with
  | none => rfl
  | some o => exact hstep o { s with openNodes := s.openNodes.erase name }

theorem stripped_mismatch_presented (expected : Expectation) :
    ((s.presented options formatter latest).cursor.mismatch expected).result.stripped =
      (s.cursor.mismatch expected).result.stripped := by
  cases expected with
  | oneOf values => rfl
  | ofKind kind => rfl
  | unspecified => rfl

/-- A failure has one outcome if it has one when its diagnostic is
    stripped. -/
theorem outcome_fail_presented (d e : Diagnostic) (hsame : d.stripped = e.stripped) :
    outcome ((s.presented options formatter latest).fail d) = outcome (s.fail e) :=
  Prod.ext (congrArg Answer.failed hsame) rfl

/-- Closing at an explicit end is refused in the same cases and for the same
    reason. -/
theorem outcome_endNodeAt_presented (o : OpenNode) (kind : NodeKind) (stop : Position)
    (save : Option String) :
    outcome ((s.presented options formatter latest).keepResult save
      ((s.presented options formatter latest).cursor.endNodeAt o kind stop).result) =
      outcome (s.keepResult save (s.cursor.endNodeAt o kind stop).result) := by
  simp only [Cursor.endNodeAt]
  by_cases hordered : o.start.precedes stop = true
  · rw [if_pos hordered, if_pos hordered]
    rfl
  · rw [if_neg hordered, if_neg hordered]
    exact s.outcome_fail_presented options formatter latest _ _ rfl

variable [TokenFeed σ]

/-- A command that is not about presentation feels only the substance. -/
theorem outcome_step_presented (command : Command) (hparse : command.isPresentation = false) :
    outcome ((s.presented options formatter latest).step command).result =
      outcome (s.step command).result := by
  cases command with
  | filename | options | form isExpanded | setFilename filename | setFormatter formatter
  | setOptions document | write inColour | print mode => cases hparse
  | next | token | last | isAtEnd => rfl
  | setToken token | saveToken name | isOn expected | startNode seed save => rfl
  | complain complaint =>
      cases complaint with
      | general message detail | unexpectedValue value | unexpected description | unknown value
      | unsupported => exact s.outcome_fail_presented options formatter latest _ _ rfl
  -- The three matches go by the token, which is the same.
  | eat expected =>
      simp only [step, Logged.result_bind, Logged.result_pure, Cursor.result_eat]
      by_cases hon : s.cursor.isOn expected = true
      · have hon' : (s.presented options formatter latest).cursor.isOn expected = true := hon
        rw [if_pos hon, if_pos hon']
        rfl
      · have hon' : ¬ (s.presented options formatter latest).cursor.isOn expected = true := hon
        rw [if_neg hon, if_neg hon']
        rfl
  | expect expected save =>
      rcases s.cursor.expect_cases expected with ⟨token, htoken, haccepts, hresult⟩ |
        ⟨hoff, hresult⟩
      · have hresult' := Cursor.result_expect_of_accepts
          (s.presented options formatter latest).cursor expected token htoken haccepts
        simp only [step, Logged.result_bind, hresult, hresult']
        rfl
      · have hresult' := Cursor.result_expect_of_not_isOn
          (s.presented options formatter latest).cursor expected hoff
        simp only [step, Logged.result_bind, hresult, hresult']
        exact s.outcome_fail_presented options formatter latest _ _
          (s.stripped_mismatch_presented options formatter latest expected)
  | leaf leaf save =>
      rcases s.cursor.leaf_cases leaf with ⟨token, htoken, hkind, hresult⟩ | ⟨hoff, hresult⟩
      · have hresult' := Cursor.result_leaf_of_kind
          (s.presented options formatter latest).cursor leaf token htoken hkind
        simp only [step, Logged.result_bind, hresult, hresult']
        rfl
      · have hresult' := Cursor.result_leaf_of_not_isOn
          (s.presented options formatter latest).cursor leaf hoff
        simp only [step, Logged.result_bind, hresult, hresult']
        exact s.outcome_fail_presented options formatter latest _ _
          (s.stripped_mismatch_presented options formatter latest _)
  -- Nodes are opened, changed and closed by what the registers hold.
  | edit node edit =>
      refine s.outcome_withOpen_presented options formatter latest node _ _ (fun o s' => ?_)
      rw [editNode_presented]
      cases s'.editNode o edit with
      | ok o' => rfl
      | error name => rfl
  | apply node parts =>
      simp only [step, partsNamed_presented]
      cases s.partsNamed parts with
      | ok wishes =>
          exact s.outcome_withOpen_presented options formatter latest node _ _ (fun o s' => rfl)
      | error name => rfl
  | endNode node kind save =>
      refine s.outcome_withOpen_presented options formatter latest node _ _ (fun o s' => ?_)
      rw [Logged.result_bind, Logged.result_bind, Cursor.result_endNode, Cursor.result_endNode]
      rfl
  | endNodeAt node kind stop save =>
      exact s.outcome_withOpen_presented options formatter latest node _ _ (fun o s' =>
        s'.outcome_endNodeAt_presented options formatter latest o kind stop save)
  | close node kind stop save =>
      exact s.outcome_withOpen_presented options formatter latest node _ _ (fun o s' => rfl)
  | makeNode parts kind save =>
      simp only [step, partsNamed_presented]
      cases s.partsNamed parts with
      | ok wishes =>
          simp only [Logged.result_bind, Cursor.makeNode, Cursor.result_endNode]
          rfl
      | error name => rfl
  | makeNodeAt parts kind stop save =>
      simp only [step, partsNamed_presented]
      cases s.partsNamed parts with
      | ok wishes => exact s.outcome_endNodeAt_presented options formatter latest _ kind stop save
      | error name => rfl
  | reopen node save =>
      simp only [step, nodes_presented]
      cases s.nodes.get? node with
      | none => rfl
      | some n => rfl
  | compare node other =>
      simp only [step, nodes_presented]
      cases s.nodes.get? node with
      | none => rfl
      | some n =>
          cases s.nodes.get? other with
          | none => rfl
          | some m => rfl
  | showNode node =>
      simp only [step, nodes_presented]
      cases s.nodes.get? node with
      | none => rfl
      | some n => rfl

end Presented

variable [TokenFeed σ]

/-- A command about presentation leaves the substance alone. -/
theorem substance_of_isPresentation (s : Session σ) (command : Command)
    (hshow : command.isPresentation = true) :
    (s.step command).result.2.substance = s.substance := by
  cases command with
  | filename | options | form isExpanded | setFilename filename | setFormatter formatter => rfl
  | setOptions document =>
      simp only [step]
      cases Options.ofDocument document with
      | ok options => rfl
      | error fault => rfl
  | write inColour | print mode =>
      simp only [step, writeLatest]
      cases s.latest with
      | none => rfl
      | some d => rfl
  | _ => cases hshow

/-- Sessions of one substance give one outcome to a command that is not about
    presentation. -/
theorem outcome_step (s t : Session σ) (command : Command) (hsame : t.substance = s.substance)
    (hparse : command.isPresentation = false) :
    outcome (t.step command).result = outcome (s.step command).result := by
  rw [s.eq_presented t hsame]
  exact s.outcome_step_presented _ _ _ command hparse

/-- The answers of a run to the commands that are not about presentation. -/
def responses (s : Session σ) (commands : List Command) : List Answer :=
  ((s.transcript commands).filter (!·.1.isPresentation)).map (·.2.result.1)

/-- A run responds like the run from which presentation has been struck out,
    and ends with the same substance. The induction strikes out one command
    after the other. -/
theorem responses_struck (s t : Session σ) (commands : List Command)
    (hsame : t.substance = s.substance) :
    (s.responses commands).map Answer.stripped =
      (t.answers (commands.filter (!·.isPresentation))).map Answer.stripped ∧
    (s.after commands).substance =
      (t.after (commands.filter (!·.isPresentation))).substance := by
  induction commands generalizing s t with
  | nil => exact ⟨rfl, hsame.symm⟩
  | cons command rest ih =>
      cases hshow : command.isPresentation with
      | true =>
          have hstep := s.substance_of_isPresentation command hshow
          rcases ih (s.step command).result.2 t (hsame.trans hstep.symm) with ⟨hrest, hafter⟩
          refine ⟨?_, ?_⟩
          · simpa [responses, hshow] using hrest
          · simpa [hshow, after] using hafter
      -- The command is answered on both sides, and alike.
      | false =>
          have hstep := s.outcome_step t command hsame hshow
          have hanswer : (t.step command).result.1.stripped =
            (s.step command).result.1.stripped := congrArg Prod.fst hstep
          have hbehind : (t.step command).result.2.substance =
            (s.step command).result.2.substance := congrArg Prod.snd hstep
          rcases ih _ _ hbehind with ⟨hrest, hafter⟩
          have hkept : (command :: rest).filter (!·.isPresentation) =
              command :: rest.filter (!·.isPresentation) := by simp [hshow]
          rw [hkept]
          refine ⟨?_, hafter⟩
          have hanswers : t.answers (command :: rest.filter (!·.isPresentation)) =
              (t.step command).result.1 ::
                (t.step command).result.2.answers (rest.filter (!·.isPresentation)) := rfl
          rw [hanswers, List.map_cons, hanswer, ← hrest]
          simp [responses, hshow]

/-! ## Two runs -/

/-- Two sessions may differ in their settings, and be given different settings
    at different moments, or be asked to show them. As long as they are given
    the same commands otherwise they answer these alike: with the same truth
    values, tokens, open nodes and nodes, and with diagnostics at the same
    commands that are the same but for the name of the file and the rendered
    text. Behind the runs they are on the same token, and their feeds are the
    same. -/
theorem settings_never_felt (s t : Session σ) (first second : List Command)
    (hsame : s.substance = t.substance)
    (hcommands : first.filter (!·.isPresentation) = second.filter (!·.isPresentation)) :
    List.Forall₂ Answer.Agrees (s.responses first) (t.responses second) ∧
    (s.after first).cursor.token = (t.after second).cursor.token ∧
    (s.after first).cursor.feed = (t.after second).cursor.feed ∧
    (s.after first).substance = (t.after second).substance := by
  -- Both runs agree with one and the same run without presentation.
  rcases s.responses_struck s first rfl with ⟨hfirst, hafter⟩
  rcases t.responses_struck s second hsame with ⟨hsecond, hafter'⟩
  rw [← hcommands] at hsecond hafter'
  have hstripped : (s.responses first).map Answer.stripped =
    (t.responses second).map Answer.stripped := hfirst.trans hsecond.symm
  have hsubstance := hafter.trans hafter'.symm
  refine ⟨?_, congrArg (·.1.1) hsubstance, congrArg (·.1.2) hsubstance, hsubstance⟩
  rw [← List.forall₂_eq_eq_eq, List.forall₂_map_left_iff, List.forall₂_map_right_iff]
    at hstripped
  exact hstripped.imp fun a b hab => a.agrees_of_stripped b hab

/-- One parse is given a name and a formatter in the middle, the other had a
    formatter of its own all along and is asked for its options: both
    complain of the same token in the same words, and show it differently. -/
theorem settings_never_felt_at_a_complaint :
    let tokens : List Token :=
      [⟨"a", .identifier, ⟨1, 0, "a +"⟩⟩, ⟨"+", .operator, ⟨1, 2, "a +"⟩⟩]
    let c := Cursor.ofFeed (TokenBuffer.ofList tokens)
    let s := ofCursor (c.withFormatter fun message _ _ _ _ => message)
    let t := ofCursor (c.withFormatter fun _ _ _ filename _ => filename)
    let first : List Command :=
      [.leaf .identifier (some "n"), .setFilename "main", .expect (.oneOf ["="]) none,
        .setFormatter (fun _ _ _ _ function => function), .next]
    let second : List Command :=
      [.options, .leaf .identifier (some "n"), .expect (.oneOf ["="]) none, .next]
    List.Forall₂ Answer.Agrees (s.responses first) (t.responses second) ∧
      (s.after first).cursor.feed = (t.after second).cursor.feed ∧
      (s.responses first).length = 3 ∧
      (s.after first).latest.map (·.rendered) = some "Expected: =" ∧
      (t.after second).latest.map (·.rendered) = some "unknown" ∧
      (s.after first).latest.map (·.filename) = some "main" := by
  intro tokens c s t first second
  have hagree := settings_never_felt s t first second rfl rfl
  exact ⟨hagree.1, hagree.2.2.1, rfl, by decide, by decide, by decide⟩

end Session

end Descent
