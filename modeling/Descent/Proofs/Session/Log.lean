import Descent.Proofs.Cursor.Log
import Descent.Proofs.Session.Moves

/-!
# The Log of a Session

The log of a command can be told from the command, its answer and the token
it left the cursor on; `Command.log` tells it. A move pulls and says where it
came to, a miss says what was missed, a failure says what was reported, and a
node that was closed at the cursor says so. Every other command is silent.

## Main definitions

* `Command.missed?`: The expectation that a command has missed.
* `Command.closes`: Whether a command closes nodes at the cursor.
* `Command.log`: The log of a command with its answer.

## Theorems

* `events_step`: The log of a command is what its answer tells.
* `isInverted_step`: A warning is about a node that is not ordered.
-/

namespace Descent

/-- The expectation that a command with this answer has missed. -/
def Command.missed? : Command → Answer → Option Expectation
  | .eat expected, .truth false => some expected
  | .expect expected _, .failed _ => some expected
  | .leaf wanted _, .failed _ => some (.ofKind wanted.tokenKind)
  | _, _ => none

/-- Whether a command closes nodes at the cursor. -/
def Command.closes : Command → Bool
  | .endNode .. | .makeNode .. | .leaf .. => true
  | _ => false

/-- What a command that closes nodes, or does not, says of its answer. -/
def Answer.log (closes : Bool) : Answer → List Event
  | .failed d => [d.event]
  | .node n => if closes then n.closing else []
  | _ => []

/-- The log of a command with this answer that left the cursor on this
    token. -/
def Command.log (command : Command) (answer : Answer) (token : Option Token) : List Event :=
  (if command.move answer = .pull then [.advanced token] else []) ++
    ((command.missed? answer).toList.map .missed ++ answer.log command.closes)

/-- Whether an event warns of a node that ends in front of its start. -/
def Event.isInverted : Event → Bool
  | .inverted .. => true
  | _ => false

theorem Node.isOrdered_of_closing (n : Node) (e : Event) (he : e ∈ n.closing)
    (hinverted : e.isInverted = true) : n.range.isOrdered = false := by
  unfold closing at he
  rcases List.mem_append.1 he with hwarning | hclosed
  · by_cases hordered : n.range.isOrdered = true
    · rw [if_pos hordered] at hwarning
      cases hwarning
    · simpa using hordered
  -- The other event says that the node was closed, which is no warning.
  · rw [List.mem_singleton.1 hclosed] at hinverted
    cases hinverted

/-- Of all events only those of a closed node can be such a warning. -/
theorem Command.isInverted_log (command : Command) (answer : Answer) (token : Option Token)
    (e : Event) (he : e ∈ command.log answer token) (hinverted : e.isInverted = true) :
    ∃ n, answer = .node n ∧ n.range.isOrdered = false := by
  rcases List.mem_append.1 he with hmoved | hrest
  -- Moving on says where it came to.
  · by_cases hpull : command.move answer = .pull
    · rw [if_pos hpull, List.mem_singleton] at hmoved
      rw [hmoved] at hinverted
      cases hinverted
    · rw [if_neg hpull] at hmoved
      cases hmoved
  -- A miss says what was missed, and the answer may say that a node was closed.
  · rcases List.mem_append.1 hrest with hmissed | hsaid
    · rcases List.mem_map.1 hmissed with ⟨expected, _, rfl⟩
      cases hinverted
    · cases answer with
      | node n =>
          refine ⟨n, rfl, n.isOrdered_of_closing e ?_ hinverted⟩
          simp only [Answer.log] at hsaid
          by_cases hcloses : command.closes = true
          · rw [if_pos hcloses] at hsaid
            exact hsaid
          · rw [if_neg hcloses] at hsaid
            cases hsaid
      | failed d =>
          rw [List.mem_singleton.1 hsaid] at hinverted
          cases hinverted
      | _ => cases hsaid

namespace Session

variable {σ : Type}

theorem events_diagnose (s : Session σ) (complaint : Complaint) :
    (s.diagnose complaint).events = [(s.diagnose complaint).result.event] := by
  cases complaint with
  | general message detail => rfl
  | unexpectedValue value => rfl
  | unexpected description => rfl
  | unknown value => rfl
  | unsupported => rfl

/-- What the log of a command should be, for a result with its events. -/
def LogTells (command : Command) (answered : Logged (Answer × Session σ)) : Prop :=
  answered.events = command.log answered.result.1 answered.result.2.cursor.token

theorem logTells_withOpen (s : Session σ) (command : Command) (name : String)
    (step : OpenNode → Session σ → Logged (Answer × Session σ))
    (hunknown : command.log (.unknownName name) s.cursor.token = [])
    (hstep : ∀ o s', LogTells command (step o s')) :
    LogTells command (s.withOpen name step) := by
  unfold withOpen
  cases s.openNodes.get? name with
  | none => exact hunknown.symm
  | some o => exact hstep o _

variable [TokenFeed σ]

/-- The log of a command is what its answer tells. -/
theorem events_step (s : Session σ) (command : Command) :
    (s.step command).events =
      command.log (s.step command).result.1 (s.step command).result.2.cursor.token := by
  cases command with
  | next | token | last | isAtEnd | filename | options | form isExpanded | setFilename filename
  | setFormatter formatter | setToken token | saveToken name | isOn expected
  | startNode seed save => rfl
  | complain complaint =>
      simp only [step, Logged.events_bind, Logged.result_bind, events_diagnose]
      rfl
  | setOptions document =>
      simp only [step]
      cases Options.ofDocument document with
      | ok options => rfl
      | error fault => rfl
  -- A match that hits logs where it came to; one that misses logs the miss and
  -- the report.
  | eat expected =>
      simp only [step, Logged.events_bind, Logged.result_bind, Cursor.events_eat,
        Cursor.result_eat]
      by_cases hon : s.cursor.isOn expected = true
      · rw [if_pos hon, if_pos hon]
        rfl
      · rw [if_neg hon, if_neg hon]
        rfl
  | expect expected save =>
      rcases s.cursor.expect_cases expected with ⟨token, htoken, haccepts, hresult⟩ |
        ⟨hoff, hresult⟩
      · simp only [step, Logged.events_bind, Logged.result_bind, hresult,
          s.cursor.events_expect_of_accepts expected token htoken haccepts]
        rfl
      · simp only [step, Logged.events_bind, Logged.result_bind, hresult,
          s.cursor.events_expect_of_not_isOn expected hoff]
        rfl
  | leaf leaf save =>
      rcases s.cursor.leaf_cases leaf with ⟨token, htoken, hkind, hresult⟩ | ⟨hoff, hresult⟩
      · simp only [step, Logged.events_bind, Logged.result_bind, hresult,
          s.cursor.events_leaf_of_kind leaf token htoken hkind]
        exact List.append_nil _
      · simp only [step, Logged.events_bind, Logged.result_bind, hresult,
          s.cursor.events_leaf_of_not_isOn leaf hoff]
        rfl
  | edit node edit =>
      refine s.logTells_withOpen _ node _ rfl (fun o s' => ?_)
      cases s'.editNode o edit with
      | ok o' => rfl
      | error name => rfl
  | apply node parts =>
      simp only [step]
      cases s.partsNamed parts with
      | ok wishes => exact s.logTells_withOpen _ node _ rfl (fun o s' => rfl)
      | error name => rfl
  -- Closing at the cursor says so, with a warning in front of it where one is
  -- due.
  | endNode node kind save =>
      refine s.logTells_withOpen _ node _ rfl (fun o s' => ?_)
      unfold LogTells
      rw [Logged.events_bind, Logged.result_bind, Cursor.events_endNode, Cursor.result_endNode]
      exact List.append_nil _
  -- Closing elsewhere is silent unless it is refused.
  | endNodeAt node kind stop save =>
      refine s.logTells_withOpen _ node _ rfl (fun o s' => ?_)
      unfold LogTells
      rw [Logged.events_bind, Logged.result_bind, Cursor.events_endNodeAt]
      unfold Cursor.endNodeAt
      by_cases hordered : o.start.precedes stop = true
      · rw [if_pos hordered, if_pos hordered]
        rfl
      · rw [if_neg hordered, if_neg hordered]
        rfl
  | close node kind stop save => exact s.logTells_withOpen _ node _ rfl (fun o s' => rfl)
  | makeNode parts kind save =>
      simp only [step]
      cases s.partsNamed parts with
      | ok wishes =>
          simp only [Logged.events_bind, Logged.result_bind, Cursor.makeNode,
            Cursor.events_endNode, Cursor.result_endNode]
          exact List.append_nil _
      | error name => rfl
  | makeNodeAt parts kind stop save =>
      simp only [step]
      cases s.partsNamed parts with
      | ok wishes =>
          simp only [Logged.events_bind, Logged.result_bind, Cursor.makeNodeAt,
            Cursor.events_endNodeAt]
          unfold Cursor.endNodeAt
          by_cases hordered : (wishes.apply (s.cursor.startNode none)).start.precedes stop = true
          · rw [if_pos hordered, if_pos hordered]
            rfl
          · rw [if_neg hordered, if_neg hordered]
            rfl
      | error name => rfl
  | reopen node save =>
      simp only [step]
      cases s.nodes.get? node with
      | none => rfl
      | some n => rfl
  | compare node other =>
      simp only [step]
      cases s.nodes.get? node with
      | none => rfl
      | some n =>
          cases s.nodes.get? other with
          | none => rfl
          | some m => rfl
  | showNode node =>
      simp only [step]
      cases s.nodes.get? node with
      | none => rfl
      | some n => rfl
  | write inColour =>
      simp only [step, writeLatest]
      cases s.latest with
      | none => rfl
      | some d => rfl
  | print mode =>
      simp only [step, writeLatest]
      cases s.latest with
      | none => rfl
      | some d => rfl

/-- A warning in the log is about a node that the same command has closed and
    that is not ordered. -/
theorem isInverted_step (s : Session σ) (command : Command) (e : Event)
    (he : e ∈ (s.step command).events) (hinverted : e.isInverted = true) :
    ∃ n, (s.step command).result.1 = .node n ∧ n.range.isOrdered = false := by
  rw [events_step] at he
  exact command.isInverted_log _ _ e he hinverted

end Session

end Descent
