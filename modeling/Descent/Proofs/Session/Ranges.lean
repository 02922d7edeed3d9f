import Descent.Proofs.Feed.Order
import Descent.Proofs.Session.Conservation
import Descent.Proofs.Session.Log
import Descent.Proofs.Session.Registers

/-!
# Ranges in Order

Closing a node at the cursor checks nothing, so a node can come out with its
end in front of its start. It does not as long as a parse keeps to three
rules: it takes its tokens from a steady feed and writes none over them, it
does not move the start of an open node, and it does not close a node without
a look at its start. `Command.isDisciplined` is these rules.

The invariant behind it relates every start that is still to be had to the
place where a node would end if it were closed now. Tokens that are saved,
nodes that are open and nodes that might be reopened all start at or before
that place: when a start is saved it is a token the parse was on, and from
then on the place only moves forward. `Orderly` is that invariant. It says
nothing of how the registers came to hold what they hold, so it covers seeds
of any age and nodes reopened any number of times.

A session that begins with empty registers has nothing to open a node on but
the tokens it meets and the nodes it closes, so its runs are the runs in
which every open node has an honest origin.

## Main definitions

* `Command.isDisciplined`: The rules of a careful parse.
* `Session.StartsIn`: All starts in the registers have a property.
* `Session.Orderly`: No start lies behind the place where a node would end.
* `Session.endStops`: Where a run has closed nodes at the cursor.

## Theorems

* `stopPosition_eq`: Behind a steady feed a node ends at the frontier.
* `startsIn_step`: A new start is the start of a token or of nothing.
* `isOrdered_of_closes`: An orderly session closes ordered nodes.
* `endStops_increase`: Nodes are closed further and further on.
* `orderly_step`: A disciplined command keeps a session orderly.
* `disciplined_ranges_ordered`: All ranges of a disciplined run are ordered.
-/

namespace Descent

open TokenFeed

/-- The rules of a careful parse: no token is written, no start is moved and
    no node is closed without a look at its start. -/
def Command.isDisciplined : Command → Bool
  | .setToken _ => false
  | .edit _ change => change.start.isNone
  | .close .. => false
  | _ => true

theorem Command.writesToken_of_isDisciplined (command : Command)
    (hcommand : command.isDisciplined = true) : command.writesToken = false := by
  cases command with
  | setToken written => cases hcommand
  | _ => rfl

/-- Where a command with this answer has closed a node at the cursor. -/
def Command.stop? (command : Command) : Answer → Option Position
  | .node n => if command.closes then some n.range.stop else none
  | _ => none

namespace Cursor

variable {σ : Type} [TokenFeed σ]

theorem stopPosition_of_place {c d : Cursor σ} (hplace : d.place = c.place) :
    d.stopPosition = c.stopPosition := by
  have htoken : d.token = c.token := congrArg Prod.fst hplace
  have hfeed : d.feed = c.feed := congrArg Prod.snd hplace
  rw [stopPosition, stopPosition, last?, last?, htoken, hfeed]

/-- Behind a steady feed and with no token written, a node that is closed now
    ends at the frontier. If there is a current token it is the last one the
    feed gave, so the two ways to find the end agree. -/
theorem stopPosition_eq (feed : σ) (hsteady : Steady feed) (a : Nat) (c : Cursor σ)
    (hc : Follows feed a none c) : c.stopPosition = frontier feed (a + 1) := by
  -- With a current token the end is its start; without one it is the last token
  -- given.
  cases hanswer : answer feed a with
  | some token =>
      have htoken : c.token = some token := hc.token_eq.trans hanswer
      rw [c.stopPosition_of_token token htoken, frontier_of_answer feed hsteady a token hanswer]
  | none =>
      have htoken : c.token = none := hc.token_eq.trans hanswer
      rw [stopPosition, htoken, last?, hc.feed_eq]
      rfl

end Cursor

namespace Session

variable {σ : Type}

/-- Everything in the registers that a node could start at has a property:
    saved tokens, open nodes, and closed nodes that may be reopened. -/
structure StartsIn (p : Position → Prop) (s : Session σ) : Prop where
  tokens : ∀ name token, s.tokens.get? name = some (some token) → p token.start
  openNodes : ∀ name o, s.openNodes.get? name = some o → p o.start
  nodes : ∀ name n, s.nodes.get? name = some n → p n.range.start

theorem StartsIn.imp {p q : Position → Prop} {s : Session σ} (hs : s.StartsIn p)
    (hpq : ∀ position, p position → q position) : s.StartsIn q where
  tokens name token htoken := hpq _ (hs.tokens name token htoken)
  openNodes name o ho := hpq _ (hs.openNodes name o ho)
  nodes name n hn := hpq _ (hs.nodes name n hn)

theorem startsIn_ofCursor (p : Position → Prop) (c : Cursor σ) : (ofCursor c).StartsIn p where
  tokens _ _ htoken := nomatch htoken
  openNodes _ _ ho := nomatch ho
  nodes _ _ hn := nomatch hn

/-- A node opened on a seed starts where the seed does, or at the current
    token, or nowhere. -/
theorem start_startNode (p : Position → Prop) (c : Cursor σ) (seed : Option Token)
    (hnowhere : p .nowhere) (hseed : ∀ token, seed = some token → p token.start)
    (htoken : ∀ token, c.token = some token → p token.start) : p (c.startNode seed).start := by
  unfold Cursor.startNode
  cases seed with
  | some token => exact hseed token rfl
  | none =>
      cases hc : c.token with
      | some token => exact htoken token hc
      | none => exact hnowhere

theorem seedNamed_eq_some (s : Session σ) (seed : Option String) (token : Token)
    (hseed : s.seedNamed seed = some token) : ∃ name, s.tokens.get? name = some (some token) := by
  cases seed with
  | none => cases hseed
  | some name =>
      refine ⟨name, ?_⟩
      have hjoin : (s.tokens.get? name).join = some token := hseed
      exact Option.join_eq_some_iff.1 hjoin

/-- An open node that a disciplined command leaves under a name starts at a
    token, or where another node does, or nowhere. -/
theorem start_of_opens (p : Position → Prop) (s : Session σ) (command : Command) (name : String)
    (o : OpenNode) (hs : s.StartsIn p) (hnowhere : p .nowhere)
    (htoken : ∀ token, s.cursor.token = some token → p token.start)
    (hcommand : command.isDisciplined = true) (ho : s.Opens command name o) : p o.start := by
  cases ho with
  | start =>
      refine start_startNode p s.cursor _ hnowhere (fun token hseed => ?_) htoken
      rcases s.seedNamed_eq_some _ token hseed with ⟨saved, hsaved⟩
      exact hs.tokens saved token hsaved
  -- A disciplined edit leaves the start as it was.
  | @edit _ change o₀ _ hold hstart =>
      have hnone : change.start.isNone = true := hcommand
      rw [hstart, Option.isNone_iff_eq_none.1 hnone]
      exact hs.openNodes name o₀ hold
  | @apply _ _ wishes o₀ hold =>
      rw [NodeParts.start_apply]
      exact hs.openNodes name o₀ hold
  | reopen hn => exact hs.nodes _ _ hn

variable [TokenFeed σ]

/-- A node that is closed starts where it was opened. -/
theorem start_of_closes (p : Position → Prop) (s : Session σ) (command : Command) (n : Node)
    (hs : s.StartsIn p) (hnowhere : p .nowhere)
    (htoken : ∀ token, s.cursor.token = some token → p token.start)
    (hn : s.Closes command n) : p n.range.start := by
  cases hn with
  | endNode ho => exact hs.openNodes _ _ ho
  | endNodeAt ho _ => exact hs.openNodes _ _ ho
  | close ho => exact hs.openNodes _ _ ho
  | makeNode _ => exact start_startNode p s.cursor none hnowhere nofun htoken
  | makeNodeAt _ _ => exact start_startNode p s.cursor none hnowhere nofun htoken
  | leaf htaken _ => exact htoken _ htaken

/-- A disciplined command brings no start into the registers but those of
    the current token and of nothing. -/
theorem startsIn_step (p : Position → Prop) (s : Session σ) (command : Command)
    (hs : s.StartsIn p) (hnowhere : p .nowhere)
    (htoken : ∀ token, s.cursor.token = some token → p token.start)
    (hcommand : command.isDisciplined = true) : (s.step command).result.2.StartsIn p where
  tokens name token hkept := by
    -- A token that is saved now is the current one.
    rcases (s.obeys_step command).tokens name (some token) hkept with hold | hnew
    · exact hs.tokens name token hold
    · exact htoken token hnew.symm
  openNodes name o ho := by
    rcases (s.obeys_step command).openNodes name o ho with hold | hnew
    · exact hs.openNodes name o hold
    · exact start_of_opens p s command name o hs hnowhere htoken hcommand hnew
  nodes name n hn := by
    rcases (s.obeys_step command).nodes name n hn with hold | hnew
    · exact hs.nodes name n hold
    · exact start_of_closes p s command n hs hnowhere htoken
        ((s.obeys_step command).closed n hnew)

/-- A session in step with its feed in which no start lies behind the place
    where a node would end. -/
structure Orderly (feed : σ) (a : Nat) (s : Session σ) : Prop where
  follows : Cursor.Follows feed a none s.cursor
  starts : s.StartsIn fun start => start.precedes s.cursor.stopPosition = true

theorem orderly_ofCursor (feed : σ) : Orderly feed 0 (ofCursor (Cursor.ofFeed feed)) where
  follows := Cursor.follows_ofFeed feed
  starts := startsIn_ofCursor _ _

theorem token_precedes_stopPosition (s : Session σ) (token : Token)
    (htoken : s.cursor.token = some token) :
    token.start.precedes s.cursor.stopPosition = true := by
  rw [s.cursor.stopPosition_of_token token htoken]
  exact Position.precedes_refl _

/-- An orderly session closes ordered nodes. The check of an explicit end is
    needed there and nowhere else. -/
theorem isOrdered_of_closes (s : Session σ) (command : Command) (n : Node)
    (hs : s.StartsIn fun start => start.precedes s.cursor.stopPosition = true)
    (hnext : s.cursor.stopPosition.precedes s.cursor.next.stopPosition = true)
    (hcommand : command.isDisciplined = true) (hn : s.Closes command n) :
    n.range.isOrdered = true := by
  have hstart := start_of_closes _ s command n hs (Position.nowhere_precedes _)
    s.token_precedes_stopPosition hn
  -- Closed here, the end is the stop position; a leaf ends one token further
  -- on.
  cases hn with
  | endNode _ => exact hstart
  | endNodeAt _ hordered => exact hordered
  | close _ => cases hcommand
  | makeNode _ => exact hstart
  | makeNodeAt _ hordered => exact hordered
  | leaf _ _ => exact Position.precedes_trans hstart hnext

/-! ## Where nodes end -/

/-- Where a run has closed nodes at the cursor. -/
def endStops (s : Session σ) (commands : List Command) : List Position :=
  (commands.zipWith Command.stop? (s.answers commands)).filterMap id

theorem endStops_cons (s : Session σ) (command : Command) (rest : List Command) :
    s.endStops (command :: rest) =
      (command.stop? (s.step command).result.1).toList ++
        (s.step command).result.2.endStops rest := by
  have hanswers : s.answers (command :: rest) =
      (s.step command).result.1 :: (s.step command).result.2.answers rest := rfl
  rw [endStops, hanswers, List.zipWith_cons_cons]
  cases command.stop? (s.step command).result.1 with
  | none => exact List.filterMap_cons_none rfl
  | some stop => exact List.filterMap_cons_some rfl

/-- A node that is closed at the cursor ends where the next one would. -/
theorem stop_of_closes (s : Session σ) (command : Command) (n : Node)
    (hcloses : command.closes = true) (hn : s.Closes command n) :
    n.range.stop = (s.cursor.moved (command.move (.node n))).stopPosition := by
  cases hn with
  | endNode _ => rfl
  | endNodeAt _ _ => cases hcloses
  | close _ => cases hcloses
  | makeNode _ => rfl
  | makeNodeAt _ _ => cases hcloses
  | leaf _ _ => rfl

theorem stop_of_stop? (s : Session σ) (command : Command) (stop : Position)
    (hstop : command.stop? (s.step command).result.1 = some stop) :
    stop = (s.step command).result.2.cursor.stopPosition := by
  cases hanswer : (s.step command).result.1 with
  | node n =>
      rw [hanswer] at hstop
      have hclosed : s.Closes command n := (s.obeys_step command).closed n hanswer
      simp only [Command.stop?] at hstop
      -- The stop was read behind the move, where the session is now.
      by_cases hcloses : command.closes = true
      · rw [if_pos hcloses, Option.some_inj] at hstop
        have hplace := s.place_step command
        rw [hanswer] at hplace
        rw [← hstop, s.stop_of_closes command n hcloses hclosed,
          Cursor.stopPosition_of_place hplace]
      · rw [if_neg hcloses] at hstop
        cases hstop
  | _ =>
      rw [hanswer] at hstop
      cases hstop

/-- One more command without a write leaves the session in step with its
    feed, and a node would not end before where it would have. -/
theorem stopPosition_step (feed : σ) (hsteady : Steady feed) (a : Nat) (s : Session σ)
    (command : Command) (hs : Cursor.Follows feed a none s.cursor)
    (hwrites : command.writesToken = false) :
    Cursor.Follows feed (a + if command.move (s.step command).result.1 = .pull then 1 else 0) none
      (s.step command).result.2.cursor ∧
    s.cursor.stopPosition.precedes (s.step command).result.2.cursor.stopPosition = true := by
  have hafter := s.follows_step_of_no_write feed a command hs hwrites
  refine ⟨hafter, ?_⟩
  -- Both ends are frontiers, and the later one is behind as many pulls or more.
  rw [s.cursor.stopPosition_eq feed hsteady a hs, Cursor.stopPosition_eq feed hsteady _ _ hafter]
  exact frontier_mono feed hsteady _ _ (by omega)

/-- Nodes are closed further and further on. -/
theorem endStops_increase (feed : σ) (hsteady : Steady feed) (a : Nat) (s : Session σ)
    (commands : List Command) (hs : Cursor.Follows feed a none s.cursor)
    (hwrites : ∀ command ∈ commands, command.writesToken = false) :
    (∀ stop ∈ s.endStops commands, s.cursor.stopPosition.precedes stop = true) ∧
    (s.endStops commands).Pairwise fun earlier later => earlier.precedes later = true := by
  induction commands generalizing s a with
  | nil => exact ⟨nofun, .nil⟩
  | cons command rest ih =>
      rw [List.forall_mem_cons] at hwrites
      rcases s.stopPosition_step feed hsteady a command hs hwrites.1 with ⟨hafter, hforward⟩
      rcases ih _ _ hafter hwrites.2 with ⟨hrest, hpairs⟩
      rw [endStops_cons]
      refine ⟨fun stop hstop => ?_, List.pairwise_append.2 ⟨?_, hpairs, ?_⟩⟩
      -- A stop of this command is where the session is now; the others come
      -- later.
      · rcases List.mem_append.1 hstop with hfirst | hlater
        · rw [s.stop_of_stop? command stop (by simpa using hfirst)]
          exact hforward
        · exact Position.precedes_trans hforward (hrest stop hlater)
      · exact Option.pairwise_toList
      · intro stop hstop later hlater
        rw [s.stop_of_stop? command stop (by simpa using hstop)]
        exact hrest later hlater

/-! ## Disciplined runs -/

/-- A disciplined command keeps a session orderly. What was behind the old
    stop is behind the new one, and the only new start is the old stop. -/
theorem orderly_step (feed : σ) (hsteady : Steady feed) (a : Nat) (s : Session σ)
    (command : Command) (hs : Orderly feed a s) (hcommand : command.isDisciplined = true) :
    Orderly feed (a + if command.move (s.step command).result.1 = .pull then 1 else 0)
      (s.step command).result.2 := by
  rcases s.stopPosition_step feed hsteady a command hs.follows
    (command.writesToken_of_isDisciplined hcommand) with ⟨hafter, hforward⟩
  have hstarts := startsIn_step _ s command hs.starts (Position.nowhere_precedes _)
    s.token_precedes_stopPosition hcommand
  exact ⟨hafter, hstarts.imp fun _ hbefore => Position.precedes_trans hbefore hforward⟩

/-- In an orderly session a disciplined command closes ordered nodes only. -/
theorem isOrdered_step (feed : σ) (hsteady : Steady feed) (a : Nat) (s : Session σ)
    (command : Command) (hs : Orderly feed a s) (hcommand : command.isDisciplined = true)
    (n : Node) (hn : (s.step command).result.1 = .node n) : n.range.isOrdered = true := by
  have hnext : Cursor.Follows feed (a + 1) none s.cursor.next :=
    Cursor.follows_moved feed a none s.cursor .pull hs.follows
  have hforward : s.cursor.stopPosition.precedes s.cursor.next.stopPosition = true := by
    rw [s.cursor.stopPosition_eq feed hsteady a hs.follows,
      Cursor.stopPosition_eq feed hsteady (a + 1) _ hnext]
    exact frontier_mono feed hsteady _ _ (by omega)
  exact s.isOrdered_of_closes command n hs.starts hforward hcommand
    ((s.obeys_step command).closed n hn)

/-- All nodes of a disciplined run are ordered, by induction on its
    commands. -/
theorem isOrdered_run (feed : σ) (hsteady : Steady feed) (a : Nat) (s : Session σ)
    (commands : List Command) (hs : Orderly feed a s)
    (hcommands : ∀ command ∈ commands, command.isDisciplined = true)
    (answered : Logged (Answer × Session σ)) (hanswered : answered ∈ s.run commands) :
    (∀ n, answered.result.1 = .node n → n.range.isOrdered = true) ∧
    ∀ e ∈ answered.events, e.isInverted = false := by
  induction commands generalizing s a with
  | nil => cases hanswered
  | cons command rest ih =>
      rw [List.forall_mem_cons] at hcommands
      rcases List.mem_cons.1 hanswered with hnow | hlater
      · rw [hnow]
        -- A warning would be about a node of this command, but that one is
        -- ordered.
        have hordered := s.isOrdered_step feed hsteady a command hs hcommands.1
        refine ⟨hordered, fun e he => ?_⟩
        cases hinverted : e.isInverted with
        | false => rfl
        | true =>
            rcases s.isInverted_step command e he hinverted with ⟨n, hn, hreverse⟩
            rw [hordered n hn] at hreverse
            cases hreverse
      · exact ih _ _ (s.orderly_step feed hsteady a command hs hcommands.1) hcommands.2 hlater

/-- Every node that a disciplined run closes is ordered, so no warning is
    logged, and the nodes that are closed at the cursor end further and
    further on. The feed has to be steady, as a buffer over a sorted list
    is; it may have gaps, run dry or never give a token. -/
theorem disciplined_ranges_ordered :
    (∀ tokens : List Token,
      (tokens.Pairwise fun t u => t.start.precedes u.start = true) →
        Steady (TokenBuffer.ofList tokens)) ∧
    (∀ (σ : Type) [TokenFeed σ] (feed : σ) (commands : List Command),
      Steady feed → (∀ command ∈ commands, command.isDisciplined = true) →
        (∀ answered ∈ (ofCursor (Cursor.ofFeed feed)).run commands,
          (∀ n, answered.result.1 = .node n → n.range.isOrdered = true) ∧
          ∀ kind start stop, .inverted kind start stop ∉ answered.events) ∧
        ((ofCursor (Cursor.ofFeed feed)).endStops commands).Pairwise
          fun earlier later => earlier.precedes later = true) := by
  refine ⟨TokenBuffer.steady_ofList, fun σ _ feed commands hsteady hcommands => ?_⟩
  have hstart := orderly_ofCursor feed
  constructor
  · intro answered hanswered
    rcases isOrdered_run feed hsteady 0 _ commands hstart hcommands answered hanswered with
      ⟨hnodes, hevents⟩
    refine ⟨hnodes, fun kind start stop hwarned => ?_⟩
    cases hevents _ hwarned
  · have hwrites : ∀ command ∈ commands, command.writesToken = false := fun command hmem =>
      command.writesToken_of_isDisciplined (hcommands command hmem)
    exact (endStops_increase feed hsteady 0 _ commands hstart.follows hwrites).2

/-- A node with another inside it, closed when the input has run dry, and
    then reopened and closed again. -/
theorem disciplined_ranges_ordered_past_the_end :
    let tokens : List Token :=
      [⟨"a", .identifier, ⟨1, 0, "a b"⟩⟩, ⟨"b", .identifier, ⟨1, 2, "a b"⟩⟩]
    let commands : List Command :=
      [.startNode none (some "outer"), .next, .leaf .identifier none, .next,
        .endNode "outer" .declaration (some "closed"), .reopen "closed" (some "again"),
        .endNode "again" .declaration none]
    let s := ofCursor (Cursor.ofFeed (TokenBuffer.ofList tokens))
    s.endStops commands = [⟨1, 2, "a b"⟩, ⟨1, 2, "a b"⟩, ⟨1, 2, "a b"⟩] ∧
      (s.endStops commands).Pairwise (fun earlier later => earlier.precedes later = true) ∧
      ∀ answered ∈ s.run commands,
        (∀ n, answered.result.1 = .node n → n.range.isOrdered = true) ∧
        ∀ kind start stop, .inverted kind start stop ∉ answered.events := by
  intro tokens commands s
  have hsorted : tokens.Pairwise fun t u => t.start.precedes u.start = true := by decide
  have hcommands : ∀ command ∈ commands, command.isDisciplined = true := by
    simp [commands, Command.isDisciplined]
  rcases disciplined_ranges_ordered with ⟨hbuffers, hruns⟩
  rcases hruns TokenBuffer _ commands (hbuffers tokens hsorted) hcommands with ⟨hnodes, hstops⟩
  exact ⟨by decide, hstops, hnodes⟩

end Session

end Descent
