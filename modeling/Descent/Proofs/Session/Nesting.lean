import Descent.Proofs.Session.Ranges

/-!
# Nesting

A node takes up a stretch of its parse: it is opened at one command and
closed at a later one, or a leaf does both at once. It takes up a range of
the text as well. This module carries the order of stretches over to ranges.

The bridge is that both ends of a range are read off the same place. A node
that is opened on the current token starts where a node that was closed just
then would have ended, and a node that is closed ends there too. So the range
of a stretch lies between two stop positions, and as a stop position never
moves back, stretches in order have ranges in order and a stretch inside
another has its range inside the other's. This holds at the end of the input
like everywhere else: the stop position stays where it is, and all nodes that
are closed there end at the last token.

Nothing is asked of what happens in between, except that the start of the
node is left alone. The node may be edited and other nodes may be opened
without ever being closed.

## Main definitions

* `Stretch`: A node with the commands that opened and closed it.
* `Command.setsStart`: Whether a command gives an open node its start.
* `Session.Builds`: The stretches of a run.
* `Stretch.Crosses`: One stretch begins inside another and ends outside.
* `Range.Within`: One range is inside another.

## Theorems

* `start_of_opened`: An open node keeps its start as long as nobody sets it.
* `stop_of_answered`, `start_of_answered`: Both ends of a node that is closed.
* `range_of_builds`: The range of a stretch, as two stop positions.
* `stopPosition_mono`: Stop positions do not move back.
* `stretches_nest`: Stretches that do not cross have ranges that do not.
-/

namespace Descent

open TokenFeed

/-- A node with the commands that opened and closed it, by their place in the
    run. -/
structure Stretch where
  first : Nat
  last : Nat
  node : Node

/-- One stretch begins inside another and ends outside. -/
def Stretch.Crosses (x y : Stretch) : Prop :=
  x.first < y.first ∧ y.first ≤ x.last ∧ x.last < y.last

/-- One range is inside another, and does not end in front of its start. -/
def Range.Within (inner outer : Range) : Prop :=
  outer.start.precedes inner.start = true ∧ inner.start.precedes inner.stop = true ∧
    inner.stop.precedes outer.stop = true

/-- Whether a command gives the open node of this name a start. -/
def Command.setsStart (name : String) : Command → Bool
  | .startNode _ save => save = some name
  | .reopen _ save => save = some name
  | .edit node change => node = name && change.start.isSome
  | _ => false

namespace Session

variable {σ : Type}

/-- What comes under a name has the start of what was there, unless the
    command sets one. -/
theorem start_of_opens_of_not_setsStart (s : Session σ) (command : Command) (name : String)
    (o : OpenNode) (hkeeps : command.setsStart name = false) (hopens : s.Opens command name o) :
    ∃ before, s.openNodes.get? name = some before ∧ o.start = before.start := by
  cases hopens with
  -- A start and a reopening set the start, so they are excluded.
  | start => simp [Command.setsStart] at hkeeps
  | @edit _ change before _ hbefore hstart =>
      have hnone : change.start = none := by simpa [Command.setsStart] using hkeeps
      rw [hnone] at hstart
      exact ⟨before, hbefore, hstart⟩
  | @apply _ _ wishes before hbefore => exact ⟨before, hbefore, rfl⟩
  | reopen _ => simp [Command.setsStart] at hkeeps

variable [TokenFeed σ]

/-- The stretches of a run: of the nodes that were opened on the current
    token, whose start has been left alone and that were closed at the
    cursor, and of the leaves that were taken. -/
inductive Builds (s : Session σ) (commands : List Command) : Stretch → Prop
  | node {first last : Nat} {seed : Option String} {name : String} {kind : NodeKind}
      {save : Option String} {token : Token} {n : Node} :
      commands[first]? = some (.startNode seed (some name)) →
        (s.after (commands.take first)).seedNamed seed = none →
        (s.after (commands.take first)).cursor.token = some token →
        first < last →
        (∀ command ∈ (commands.take last).drop (first + 1), command.setsStart name = false) →
        commands[last]? = some (.endNode name kind save) →
        (s.answers commands)[last]? = some (.node n) →
        Builds s commands ⟨first, last, n⟩
  | leaf {place : Nat} {wanted : Leaf} {save : Option String} {n : Node} :
      commands[place]? = some (.leaf wanted save) →
        (s.answers commands)[place]? = some (.node n) →
        Builds s commands ⟨place, place, n⟩

/-- An open node that is found later under the name it was opened under has
    the start it was opened with. The induction is on the commands since. -/
theorem start_of_opened (s : Session σ) (commands : List Command) (first last : Nat)
    (seed : Option String) (name : String)
    (hfirst : commands[first]? = some (.startNode seed (some name)))
    (hkeeps : ∀ command ∈ (commands.take last).drop (first + 1), command.setsStart name = false)
    (count : Nat) (hcount : first + 1 + count ≤ last) (o : OpenNode)
    (ho : (s.after (commands.take (first + 1 + count))).openNodes.get? name = some o) :
    o.start = ((s.after (commands.take first)).cursor.startNode
      ((s.after (commands.take first)).seedNamed seed)).start := by
  induction count generalizing o with
  -- Right behind the command the register holds what was opened.
  | zero =>
      rw [Nat.add_zero, s.after_take_succ commands first _ hfirst] at ho
      simp only [step, Logged.result_pure, keepOpen, Registers.save, Registers.get?_set,
        if_true, Option.some_inj] at ho
      rw [← ho]
      rfl
  | succ k ih =>
      cases hcommand : commands[first + 1 + k]? with
      | none =>
          -- The run is over, so the longer part of it is no longer.
          have hover : commands.length ≤ first + 1 + k := List.getElem?_eq_none_iff.1 hcommand
          rw [List.take_of_length_le (by omega)] at ho
          rw [List.take_of_length_le hover] at ih
          exact ih (by omega) o ho
      -- One more command: the node was there before, or came from one that was.
      | some command =>
          have hbetween : ((commands.take last).drop (first + 1))[k]? = some command := by
            rw [List.getElem?_drop, List.getElem?_take_of_lt (by omega)]
            exact hcommand
          rw [← Nat.add_assoc, s.after_take_succ commands _ command hcommand] at ho
          rcases (obeys_step _ command).openNodes name o ho with hold | hnew
          · exact ih (by omega) o hold
          · rcases start_of_opens_of_not_setsStart _ command name o
              (hkeeps command (List.mem_of_getElem? hbetween)) hnew with ⟨before, hbefore, hstart⟩
            rw [hstart]
            exact ih (by omega) before hbefore

/-- A node that is opened on the current token starts where a node that was
    closed then would end. -/
theorem start_startNode_of_token (c : Cursor σ) (token : Token) (htoken : c.token = some token) :
    (c.startNode none).start = c.stopPosition := by
  rw [c.stopPosition_of_token token htoken, Cursor.startNode, htoken]
  rfl

/-- A node that is closed at the cursor ends where the next one would. -/
theorem stop_of_answered (s : Session σ) (commands : List Command) (last : Nat)
    (command : Command) (n : Node) (hlast : commands[last]? = some command)
    (hcloses : command.closes = true) (hanswer : (s.answers commands)[last]? = some (.node n)) :
    n.range.stop = (s.after (commands.take (last + 1))).cursor.stopPosition := by
  rw [s.after_take_succ commands last command hlast]
  refine stop_of_stop? _ command n.range.stop ?_
  rw [s.answer_eq commands last command _ hlast hanswer, Command.stop?, if_pos hcloses]

/-- A node that is closed with its start left alone starts where it was
    opened. -/
theorem start_of_answered (s : Session σ) (commands : List Command) (first last : Nat)
    (seed : Option String) (name : String) (kind : NodeKind) (save : Option String) (n : Node)
    (hfirst : commands[first]? = some (.startNode seed (some name))) (hlt : first < last)
    (hkeeps : ∀ command ∈ (commands.take last).drop (first + 1), command.setsStart name = false)
    (hlast : commands[last]? = some (.endNode name kind save))
    (hanswer : (s.answers commands)[last]? = some (.node n)) :
    n.range.start = ((s.after (commands.take first)).cursor.startNode
      ((s.after (commands.take first)).seedNamed seed)).start := by
  -- What is closed now is what was opened then, with its start.
  cases (obeys_step _ _).closed n (s.answer_eq commands last _ _ hlast hanswer) with
  | @endNode _ _ _ o ho =>
      have hsplit : first + 1 + (last - (first + 1)) = last := by omega
      rw [← hsplit] at ho
      exact s.start_of_opened commands first last seed name hfirst hkeeps
        (last - (first + 1)) (by omega) o ho

/-- The range of a stretch goes from the stop position in front of its first
    command to the stop position behind its last. -/
theorem range_of_builds (s : Session σ) (commands : List Command) (x : Stretch)
    (hx : s.Builds commands x) :
    x.first ≤ x.last ∧
    x.node.range.start = (s.after (commands.take x.first)).cursor.stopPosition ∧
    x.node.range.stop = (s.after (commands.take (x.last + 1))).cursor.stopPosition := by
  cases hx with
  | @node first last seed name kind save token n hfirst hseed htoken hlt hkeeps hlast hanswer =>
      refine ⟨Nat.le_of_lt hlt, ?_, s.stop_of_answered commands last _ n hlast rfl hanswer⟩
      have hstart := s.start_of_answered commands first last seed name kind save n hfirst hlt
        hkeeps hlast hanswer
      rw [hseed, start_startNode_of_token _ token htoken] at hstart
      exact hstart
  | @leaf place wanted save n hplace hanswer =>
      refine ⟨Nat.le_refl _, ?_, s.stop_of_answered commands place _ n hplace rfl hanswer⟩
      cases (obeys_step _ _).closed n (s.answer_eq commands place _ _ hplace hanswer) with
      | @leaf _ _ token htoken _ => exact (Cursor.stopPosition_of_token _ token htoken).symm

/-- Behind the first commands of a run without writes a node ends at the
    frontier. -/
theorem stopPosition_after (feed : σ) (hsteady : Steady feed) (s : Session σ)
    (commands : List Command) (hs : s.cursor = Cursor.ofFeed feed)
    (hwrites : ∀ command ∈ commands, command.writesToken = false) (i : Nat) :
    (s.after (commands.take i)).cursor.stopPosition =
      frontier feed (s.pulls (commands.take i) + 1) :=
  Cursor.stopPosition_eq feed hsteady _ _ (s.follows_take feed commands hs hwrites i)

/-- Stop positions do not move back. -/
theorem stopPosition_mono (feed : σ) (hsteady : Steady feed) (s : Session σ)
    (commands : List Command) (hs : s.cursor = Cursor.ofFeed feed)
    (hwrites : ∀ command ∈ commands, command.writesToken = false) (i j : Nat) (hle : i ≤ j) :
    (s.after (commands.take i)).cursor.stopPosition.precedes
      (s.after (commands.take j)).cursor.stopPosition = true := by
  rw [stopPosition_after feed hsteady s commands hs hwrites,
    stopPosition_after feed hsteady s commands hs hwrites]
  exact frontier_mono feed hsteady _ _ (Nat.succ_le_succ (s.pulls_take_mono commands i j hle))

/-- A stretch inside another has its range inside the other's. -/
theorem within_of_inside (feed : σ) (hsteady : Steady feed) (s : Session σ)
    (commands : List Command) (hs : s.cursor = Cursor.ofFeed feed)
    (hwrites : ∀ command ∈ commands, command.writesToken = false) (x y : Stretch)
    (hx : s.Builds commands x) (hy : s.Builds commands y) (hfirst : y.first ≤ x.first)
    (hlast : x.last ≤ y.last) : x.node.range.Within y.node.range := by
  have hmono := stopPosition_mono feed hsteady s commands hs hwrites
  rcases s.range_of_builds commands x hx with ⟨hle, hxstart, hxstop⟩
  rcases s.range_of_builds commands y hy with ⟨_, hystart, hystop⟩
  refine ⟨?_, ?_, ?_⟩
  · rw [hystart, hxstart]
    exact hmono _ _ hfirst
  · rw [hxstart, hxstop]
    exact hmono _ _ (by omega)
  · rw [hxstop, hystop]
    exact hmono _ _ (by omega)

/-- A stretch in front of another has its range in front of the other's. -/
theorem precedes_of_before (feed : σ) (hsteady : Steady feed) (s : Session σ)
    (commands : List Command) (hs : s.cursor = Cursor.ofFeed feed)
    (hwrites : ∀ command ∈ commands, command.writesToken = false) (x y : Stretch)
    (hx : s.Builds commands x) (hy : s.Builds commands y) (hbefore : x.last < y.first) :
    x.node.range.stop.precedes y.node.range.start = true := by
  rw [(s.range_of_builds commands x hx).2.2, (s.range_of_builds commands y hy).2.1]
  exact stopPosition_mono feed hsteady s commands hs hwrites _ _ (by omega)

/-- Over a sorted buffer a node that is opened and closed while another is
    open lies inside it, and a node that is closed before another is opened
    lies in front of it, right in front if the cursor has not moved in
    between. Of two stretches that do not cross, one is inside the other or
    in front of it, and so are their ranges. -/
theorem stretches_nest (tokens : List Token)
    (hsorted : tokens.Pairwise fun t u => t.start.precedes u.start = true)
    (s : Session TokenBuffer) (commands : List Command)
    (hs : s.cursor = Cursor.ofFeed (TokenBuffer.ofList tokens))
    (hwrites : ∀ command ∈ commands, command.writesToken = false) (x y : Stretch)
    (hx : s.Builds commands x) (hy : s.Builds commands y) :
    (y.first ≤ x.first → x.last ≤ y.last → x.node.range.Within y.node.range) ∧
    (x.last < y.first → x.node.range.stop.precedes y.node.range.start = true ∧
      (s.pulls (commands.take (x.last + 1)) = s.pulls (commands.take y.first) →
        x.node.range.stop = y.node.range.start)) ∧
    (¬ x.Crosses y → ¬ y.Crosses x →
      x.node.range.Within y.node.range ∨ y.node.range.Within x.node.range ∨
      x.node.range.stop.precedes y.node.range.start = true ∨
      y.node.range.stop.precedes x.node.range.start = true) := by
  have hsteady := TokenBuffer.steady_ofList tokens hsorted
  refine ⟨within_of_inside _ hsteady s commands hs hwrites x y hx hy, fun hbefore => ⟨?_, ?_⟩, ?_⟩
  · exact precedes_of_before _ hsteady s commands hs hwrites x y hx hy hbefore
  · intro hpulls
    rw [(s.range_of_builds commands x hx).2.2, (s.range_of_builds commands y hy).2.1,
      stopPosition_after _ hsteady s commands hs hwrites,
      stopPosition_after _ hsteady s commands hs hwrites, hpulls]
  · intro hxy hyx
    unfold Stretch.Crosses at hxy hyx
    have hxle := (s.range_of_builds commands x hx).1
    have hyle := (s.range_of_builds commands y hy).1
    -- One stretch is over before the other begins, or they share a command;
    -- then one is inside.
    rcases Nat.lt_or_ge x.last y.first with hbefore | hxlate
    · exact Or.inr (Or.inr (Or.inl
        (precedes_of_before _ hsteady s commands hs hwrites x y hx hy hbefore)))
    · rcases Nat.lt_or_ge y.last x.first with hbehind | hylate
      · exact Or.inr (Or.inr (Or.inr
          (precedes_of_before _ hsteady s commands hs hwrites y x hy hx hbehind)))
      · by_cases hinside : y.first ≤ x.first ∧ x.last ≤ y.last
        · exact Or.inl
            (within_of_inside _ hsteady s commands hs hwrites x y hx hy hinside.1 hinside.2)
        · exact Or.inr (Or.inl
            (within_of_inside _ hsteady s commands hs hwrites y x hy hx (by omega) (by omega)))

/-- A node with a name and another node in it, both closed at the end of the
    input: the name ends where the inner node starts, and the inner node ends
    where the outer one does. -/
theorem stretches_nest_at_the_end :
    let tokens : List Token :=
      [⟨"a", .identifier, ⟨1, 0, "a b"⟩⟩, ⟨"b", .identifier, ⟨1, 2, "a b"⟩⟩]
    let commands : List Command :=
      [.startNode none (some "outer"), .leaf .identifier none, .startNode none (some "inner"),
        .next, .endNode "inner" .declaration none, .endNode "outer" .declaration none]
    let s := ofCursor (Cursor.ofFeed (TokenBuffer.ofList tokens))
    ∃ outer name inner, s.Builds commands outer ∧ s.Builds commands name ∧
      s.Builds commands inner ∧ name.node.range.Within outer.node.range ∧
      inner.node.range.Within outer.node.range ∧
      name.node.range.stop = inner.node.range.start ∧
      inner.node.range.stop = outer.node.range.stop := by
  intro tokens commands s
  have hsorted : tokens.Pairwise fun t u => t.start.precedes u.start = true := by decide
  have hwrites : ∀ command ∈ commands, command.writesToken = false := by
    simp [commands, Command.writesToken]
  have houter : s.Builds commands ⟨0, 5, _⟩ := .node rfl rfl rfl (by decide) (by decide) rfl rfl
  have hname : s.Builds commands ⟨1, 1, _⟩ := .leaf rfl rfl
  have hinner : s.Builds commands ⟨2, 4, _⟩ := .node rfl rfl rfl (by decide) (by decide) rfl rfl
  have hnest := stretches_nest tokens hsorted s commands rfl hwrites
  exact ⟨_, _, _, houter, hname, hinner,
    (hnest _ _ hname houter).1 (by decide) (by decide),
    (hnest _ _ hinner houter).1 (by decide) (by decide),
    ((hnest _ _ hname hinner).2.1 (by decide)).2 rfl, rfl⟩

end Session

end Descent
