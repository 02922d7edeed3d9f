import Descent.Proofs.Session.Nesting
import Descent.Proofs.Text.Slices

/-!
# Tiling

The text of a node is cut out of its line from the column of the token it was
opened on to the column of the token that was current when it was closed. On
a line of sorted tokens the texts of nodes fit together like tiles: where one
ends the next begins, without a gap and without an overlap, and the node over
both has the text of both.

Nothing is lost between two tokens either. A leaf ends where the next token
starts, so the blanks behind a token belong to its leaf, and the leaves of a
run join up to the text of the node around them. At the end of the input the
last token stands in for the one that is missing; the last leaf then ends
where it starts and has no text.

All of this is about columns, and the number of the line has no say in it.
The columns may be equal or past the end of the line, and the characters
between them may be of any size.

## Main definitions

* `Token.Stands`: The value of a token is what stands at its column.
* `Cursor.EndsAt`: The token at which a node that is closed now ends.
* `Command.leaf?`, `Session.leaves`: The leaves of a run.
* `Session.MovesByLeaves`: A run that takes its tokens as leaves.
* `Session.Spans`: The nodes of a run, by the tokens they go from and to.

## Theorems

* `stopPosition_of_endsAt`: What it means to end at a token.
* `column_mono`: The stop column of a run without writes does not move back.
* `range_of_spans`: A node goes from token to token.
* `join_leaves`: Leaves join up to the text from the first to the last stop.
* `text_tiles_line`: The texts of nodes tile their line.
-/

namespace Descent

open TokenFeed Text

/-- The value of a token is what stands at its column on its line. -/
def Token.Stands (t : Token) : Prop :=
  t.value.toList <+: t.start.lineText.toList.drop t.start.column.toNat

instance (t : Token) : Decidable t.Stands :=
  inferInstanceAs (Decidable (t.value.toList <+: t.start.lineText.toList.drop _))

/-- The leaf that a command with this answer has made. -/
def Command.leaf? : Command → Answer → Option Node
  | .leaf .., .node n => some n
  | _, _ => none

theorem Command.move_of_leaf? (command : Command) (answer : Answer) (n : Node)
    (hn : command.leaf? answer = some n) : command.move answer = .pull := by
  cases command with
  | leaf wanted save =>
      cases answer with
      | node m => rfl
      | _ => cases hn
  | _ => cases hn

/-- On a sorted line a later token has no smaller column. -/
theorem column_le (tokens : List Token)
    (hsorted : tokens.Pairwise fun t u => t.start.column ≤ u.start.column) (i j : Nat)
    (t u : Token) (ht : tokens[i]? = some t) (hu : tokens[j]? = some u) (hle : i ≤ j) :
    t.start.column.toNat ≤ u.start.column.toNat := by
  rcases Nat.eq_or_lt_of_le hle with rfl | hlt
  · cases Option.some.inj (ht.symm.trans hu)
    exact Nat.le_refl _
  · rcases List.getElem?_eq_some_iff.1 ht with ⟨hi, rfl⟩
    rcases List.getElem?_eq_some_iff.1 hu with ⟨hj, rfl⟩
    exact UInt64.le_iff_toNat_le.1 (List.pairwise_iff_getElem.1 hsorted i j hi hj hlt)

namespace Cursor

variable {σ : Type}

/-- A node that is closed at this cursor ends at the token of this number:
    the current one, or the last of all where none is left. -/
def EndsAt (tokens : List Token) (c : Cursor σ) (j : Nat) : Prop :=
  j < tokens.length ∧ (c.token = tokens[j]? ∨ c.token = none ∧ j + 1 = tokens.length)

theorem stopPosition_of_endsAt (tokens : List Token) (a : Nat) (c : Cursor TokenBuffer) (j : Nat)
    (hc : Follows (TokenBuffer.ofList tokens) a none c) (hj : c.EndsAt tokens j) :
    ∃ token, tokens[j]? = some token ∧ c.stopPosition = token.start := by
  rcases hj with ⟨hlt, hcurrent | ⟨hnone, hlast⟩⟩
  · rw [List.getElem?_eq_getElem hlt] at hcurrent ⊢
    exact ⟨_, rfl, c.stopPosition_of_token _ hcurrent⟩
  -- Without a current token all of the buffer has been given.
  · have hanswer : answer (TokenBuffer.ofList tokens) a = none := hc.token_eq.symm.trans hnone
    rw [TokenBuffer.answer_ofList, List.getElem?_eq_none_iff] at hanswer
    have hgiven : c.last? = tokens[j]? := by
      have hlatest : TokenFeed.last? (behind (TokenBuffer.ofList tokens) (a + 1)) =
          tokens[min tokens.length (a + 1) - 1]? := TokenBuffer.last?_behind_ofList tokens a
      rw [last?, hc.feed_eq, hlatest, show min tokens.length (a + 1) - 1 = j by omega]
    rw [List.getElem?_eq_getElem hlt] at hgiven ⊢
    refine ⟨_, rfl, ?_⟩
    rw [stopPosition, hnone, hgiven]
    rfl

/-- Behind `a` moves a node ends at the token of this number, or at the last
    one. -/
theorem endsAt_of_follows (tokens : List Token) (hne : tokens ≠ []) (a : Nat)
    (c : Cursor TokenBuffer) (hc : Follows (TokenBuffer.ofList tokens) a none c) :
    c.EndsAt tokens (min a (tokens.length - 1)) := by
  have hpos := List.length_pos_iff.2 hne
  have htoken : c.token = tokens[a]? := hc.token_eq.trans (TokenBuffer.answer_ofList tokens a)
  refine ⟨by omega, ?_⟩
  rcases Nat.lt_or_ge a tokens.length with hleft | hover
  · rw [Nat.min_eq_left (by omega)]
    exact Or.inl htoken
  · rw [List.getElem?_eq_none hover] at htoken
    exact Or.inr ⟨htoken, by omega⟩

/-- On a line of sorted tokens the stop column does not move back. -/
theorem column_mono (tokens : List Token) (hne : tokens ≠ [])
    (hsorted : tokens.Pairwise fun t u => t.start.column ≤ u.start.column) (a b : Nat)
    (c d : Cursor TokenBuffer) (hc : Follows (TokenBuffer.ofList tokens) a none c)
    (hd : Follows (TokenBuffer.ofList tokens) b none d) (hle : a ≤ b) :
    c.stopPosition.column.toNat ≤ d.stopPosition.column.toNat := by
  rcases stopPosition_of_endsAt tokens a c _ hc (endsAt_of_follows tokens hne a c hc) with
    ⟨t, ht, hcstop⟩
  rcases stopPosition_of_endsAt tokens b d _ hd (endsAt_of_follows tokens hne b d hd) with
    ⟨u, hu, hdstop⟩
  rw [hcstop, hdstop]
  exact column_le tokens hsorted _ _ t u ht hu (by omega)

end Cursor

namespace Session

section Leaves

variable {σ : Type} [TokenFeed σ]

/-- The leaves that a run has made, in their order. -/
def leaves (s : Session σ) (commands : List Command) : List Node :=
  (s.transcript commands).filterMap fun entry => entry.1.leaf? entry.2.result.1

/-- A run that takes its tokens as leaves: each move it makes gives a leaf. -/
def MovesByLeaves (s : Session σ) (commands : List Command) : Prop :=
  ∀ entry ∈ s.transcript commands, entry.1.move entry.2.result.1 = .pull →
    (entry.1.leaf? entry.2.result.1).isSome = true

instance (s : Session σ) (commands : List Command) : Decidable (s.MovesByLeaves commands) :=
  inferInstanceAs (Decidable (∀ entry ∈ s.transcript commands, _ → _))

/-- The nodes of a run that were opened on the token of one number, on their
    seed or on the current token, and whose start has been left alone, and
    that were closed at the cursor where they end at the token of the other.
    A node may be opened and closed in one go, and a leaf ends at the token
    behind its own. -/
inductive Spans (s : Session σ) (commands : List Command) (tokens : List Token) :
    Nat → Nat → Node → Prop
  | node {i j : Nat} (first last : Nat) {seed : Option String} {name : String}
      {kind : NodeKind} {save : Option String} {token : Token} {n : Node} :
      commands[first]? = some (.startNode seed (some name)) →
        tokens[i]? = some token →
        ((s.after (commands.take first)).seedNamed seed <|>
          (s.after (commands.take first)).cursor.token) = some token →
        first < last →
        (∀ command ∈ (commands.take last).drop (first + 1), command.setsStart name = false) →
        commands[last]? = some (.endNode name kind save) →
        (s.answers commands)[last]? = some (.node n) →
        (s.after (commands.take last)).cursor.EndsAt tokens j →
        Spans s commands tokens i j n
  | made {i j : Nat} (place : Nat) {parts : List PartCommand} {kind : NodeKind}
      {save : Option String} {token : Token} {n : Node} :
      commands[place]? = some (.makeNode parts kind save) →
        (s.answers commands)[place]? = some (.node n) →
        tokens[i]? = some token →
        (s.after (commands.take place)).cursor.token = some token →
        (s.after (commands.take place)).cursor.EndsAt tokens j →
        Spans s commands tokens i j n
  | leaf {i j : Nat} (place : Nat) {wanted : Leaf} {save : Option String} {token : Token}
      {n : Node} :
      commands[place]? = some (.leaf wanted save) →
        (s.answers commands)[place]? = some (.node n) →
        tokens[i]? = some token →
        (s.after (commands.take place)).cursor.token = some token →
        (s.after (commands.take (place + 1))).cursor.EndsAt tokens j →
        Spans s commands tokens i j n

theorem leaves_cons (s : Session σ) (command : Command) (rest : List Command) :
    s.leaves (command :: rest) =
      (command.leaf? (s.step command).result.1).toList ++
        (s.step command).result.2.leaves rest := by
  rw [leaves, transcript_cons]
  cases hleaf : command.leaf? (s.step command).result.1 with
  | none => exact List.filterMap_cons_none hleaf
  | some n => exact List.filterMap_cons_some hleaf

/-- A leaf goes from the token that was current to where the session is
    behind it. -/
theorem range_of_leaf? (s : Session σ) (command : Command) (n : Node)
    (hn : command.leaf? (s.step command).result.1 = some n) :
    ∃ token, s.cursor.token = some token ∧ n.range.start = token.start ∧
      n.range.stop = (s.step command).result.2.cursor.stopPosition := by
  cases command with
  | leaf wanted save =>
      cases hanswer : (s.step (.leaf wanted save)).result.1 with
      | node m =>
          rw [hanswer] at hn
          cases hn
          have hstop := s.stop_of_stop? (.leaf wanted save) n.range.stop (by rw [hanswer]; rfl)
          cases (s.obeys_step _).closed n hanswer with
          | @leaf _ _ token htoken _ => exact ⟨token, htoken, rfl, hstop⟩
      | _ =>
          rw [hanswer] at hn
          cases hn
  | _ => cases hn

theorem leaf?_of_answered (s : Session σ) (commands : List Command) (place : Nat) (wanted : Leaf)
    (save : Option String) (n : Node) (hplace : commands[place]? = some (.leaf wanted save))
    (hanswer : (s.answers commands)[place]? = some (.node n)) :
    (Command.leaf wanted save).leaf?
      ((s.after (commands.take place)).step (.leaf wanted save)).result.1 = some n := by
  rw [s.answer_eq commands place _ _ hplace hanswer]
  rfl

/-- A command that neither moves nor writes leaves the stop where it is. -/
theorem stopPosition_of_no_pull (s : Session σ) (command : Command)
    (hwrites : command.writesToken = false)
    (hpull : command.move (s.step command).result.1 ≠ .pull) :
    (s.step command).result.2.cursor.stopPosition = s.cursor.stopPosition := by
  refine Cursor.stopPosition_of_place ?_
  rw [s.place_step command]
  cases hmove : command.move (s.step command).result.1 with
  | stay => rfl
  | pull => exact absurd hmove hpull
  | write token =>
      have hkept := keep_move_none command (s.step command).result.1 hwrites
      rw [hmove] at hkept
      cases hkept

end Leaves

section Buffers

variable (tokens : List Token) (line : String) (s : Session TokenBuffer)

/-- The text of a leaf goes from where the session stopped in front of it to
    where it stops behind. -/
theorem text_of_leaf? (hline : ∀ t ∈ tokens, t.start.lineText = line) (a : Nat)
    (hs : Cursor.Follows (TokenBuffer.ofList tokens) a none s.cursor) (command : Command)
    (n : Node) (hn : command.leaf? (s.step command).result.1 = some n) :
    n.text = slice line s.cursor.stopPosition.column.toNat
      (s.step command).result.2.cursor.stopPosition.column.toNat := by
  rcases s.range_of_leaf? command n hn with ⟨token, htoken, hstart, hstop⟩
  have hfound : tokens[a]? = some token := by
    rw [← TokenBuffer.answer_ofList, ← htoken]
    exact hs.token_eq.symm
  rw [Node.text, Position.sliceTo, hstart, hstop, hline token (List.mem_of_getElem? hfound),
    s.cursor.stopPosition_of_token token htoken]

/-- A leaf begins with the value of its token if that stands there and the
    next token starts behind it. -/
theorem prefix_text_of_leaf? (hline : ∀ t ∈ tokens, t.start.lineText = line) (a : Nat)
    (hs : Cursor.Follows (TokenBuffer.ofList tokens) a none s.cursor) (command : Command)
    (hwrites : command.writesToken = false) (n : Node)
    (hn : command.leaf? (s.step command).result.1 = some n) (token next : Token)
    (htoken : tokens[a]? = some token) (hnext : tokens[a + 1]? = some next)
    (hstands : token.Stands) (hroom : token.stopColumn ≤ next.start.column.toNat) :
    token.value.toList <+: n.text.toList := by
  have hcurrent : s.cursor.token = some token := by
    rw [hs.token_eq, Option.getD_none, TokenBuffer.answer_ofList, htoken]
  -- The leaf has moved, so the session is on the next token.
  have hafter := s.follows_step_of_no_write _ a command hs hwrites
  rw [if_pos (command.move_of_leaf? _ n hn)] at hafter
  have hbehind : (s.step command).result.2.cursor.token = some next := by
    rw [hafter.token_eq, Option.getD_none, TokenBuffer.answer_ofList, hnext]
  rw [s.text_of_leaf? tokens line hline a hs command n hn,
    Cursor.stopPosition_of_token _ token hcurrent, Cursor.stopPosition_of_token _ next hbehind]
  rw [Token.Stands, hline token (List.mem_of_getElem? htoken)] at hstands
  exact prefix_slice line _ _ _ hstands hroom

/-- Leaves join up to the text from where the session stopped in front of
    them to where it stops behind. The induction is on the commands: a leaf
    adds the text between two stops that follow each other, and a command
    that is no leaf moves nothing. -/
theorem join_leaves (hne : tokens ≠ []) (hline : ∀ t ∈ tokens, t.start.lineText = line)
    (hsorted : tokens.Pairwise fun t u => t.start.column ≤ u.start.column) (a : Nat)
    (hs : Cursor.Follows (TokenBuffer.ofList tokens) a none s.cursor) (commands : List Command)
    (hwrites : ∀ command ∈ commands, command.writesToken = false)
    (hleaves : s.MovesByLeaves commands) :
    String.join ((s.leaves commands).map Node.text) =
      slice line s.cursor.stopPosition.column.toNat
        (s.after commands).cursor.stopPosition.column.toNat := by
  induction commands generalizing s a with
  | nil => exact (slice_eq_empty (Nat.le_refl _)).symm
  | cons command rest ih =>
      rw [List.forall_mem_cons] at hwrites
      rw [MovesByLeaves, transcript_cons, List.forall_mem_cons] at hleaves
      have hafter := s.follows_step_of_no_write _ a command hs hwrites.1
      rw [leaves_cons, List.map_append, String.join_append, ih _ _ hafter hwrites.2 hleaves.2]
      cases hleaf : command.leaf? (s.step command).result.1 with
      | none =>
          have hpull : command.move (s.step command).result.1 ≠ .pull := by
            intro hmove
            have hsome := hleaves.1 hmove
            rw [hleaf] at hsome
            cases hsome
          rw [s.stopPosition_of_no_pull command hwrites.1 hpull]
          exact String.empty_append
      | some n =>
          have hfront := Cursor.column_mono tokens hne hsorted _ _ _ _ hs hafter (by omega)
          have hbehind := Cursor.column_mono tokens hne hsorted _ _ _ _ hafter
            (follows_after_of_no_writes _ _ _ rest hafter hwrites.2) (by omega)
          have htext := s.text_of_leaf? tokens line hline a hs command n hleaf
          -- The first tile and the others meet where the session stops between
          -- them.
          rw [Option.toList_some, List.map_singleton, String.join_cons, String.join_nil,
            String.append_empty, htext]
          exact slice_append_slice hfront hbehind

/-- A node goes from the start of one token to the start of another. -/
theorem range_of_spans (commands : List Command)
    (hs : s.cursor = Cursor.ofFeed (TokenBuffer.ofList tokens))
    (hwrites : ∀ command ∈ commands, command.writesToken = false) (i j : Nat) (n : Node)
    (hn : s.Spans commands tokens i j n) :
    ∃ t u, tokens[i]? = some t ∧ tokens[j]? = some u ∧ n.range.start = t.start ∧
      n.range.stop = u.start := by
  have hfollows := s.follows_take _ commands hs hwrites
  cases hn with
  | @node first last seed name kind save token n hfirst hi hopened hlt hkeeps hlast hanswer hj =>
      rcases Cursor.stopPosition_of_endsAt tokens _ _ j (hfollows last) hj with ⟨u, hu, hstop⟩
      refine ⟨token, u, hi, hu, ?_, ?_⟩
      · rw [s.start_of_answered commands first last seed name kind save n hfirst hlt hkeeps hlast
          hanswer, Cursor.startNode, hopened]
        rfl
      · cases (obeys_step _ _).closed n (s.answer_eq commands last _ _ hlast hanswer) with
        | endNode _ => exact hstop
  | @made place parts kind save token n hplace hanswer hi htoken hj =>
      rcases Cursor.stopPosition_of_endsAt tokens _ _ j (hfollows place) hj with ⟨u, hu, hstop⟩
      cases (obeys_step _ _).closed n (s.answer_eq commands place _ _ hplace hanswer) with
      | @makeNode _ wishes _ _ _ =>
          refine ⟨token, u, hi, hu, ?_, hstop⟩
          have hstart := start_startNode_of_token _ token htoken
          rw [Cursor.stopPosition_of_token _ token htoken] at hstart
          exact hstart
  | @leaf place wanted save token n hplace hanswer hi htoken hj =>
      rcases Cursor.stopPosition_of_endsAt tokens _ _ j (hfollows (place + 1)) hj with
        ⟨u, hu, hbehind⟩
      rcases range_of_leaf? _ _ n (s.leaf?_of_answered commands place wanted save n hplace hanswer)
        with ⟨taken, htaken, hstart, hstop⟩
      cases Option.some.inj (htaken.symm.trans htoken)
      rw [s.after_take_succ commands place _ hplace] at hbehind
      exact ⟨token, u, hi, hu, hstart, hstop.trans hbehind⟩

/-- The text of a node goes from column to column. -/
theorem text_of_spans (commands : List Command) (hline : ∀ t ∈ tokens, t.start.lineText = line)
    (hs : s.cursor = Cursor.ofFeed (TokenBuffer.ofList tokens))
    (hwrites : ∀ command ∈ commands, command.writesToken = false) (i j : Nat) (n : Node)
    (hn : s.Spans commands tokens i j n) :
    ∃ t u, tokens[i]? = some t ∧ tokens[j]? = some u ∧
      n.text = slice line t.start.column.toNat u.start.column.toNat := by
  rcases s.range_of_spans tokens commands hs hwrites i j n hn with
    ⟨t, u, ht, hu, hstart, hstop⟩
  refine ⟨t, u, ht, hu, ?_⟩
  rw [Node.text, Position.sliceTo, hstart, hstop, hline t (List.mem_of_getElem? ht)]

/-- On a line of tokens with columns in order, and in a run that writes no
    token over the current one, the text of a node goes from the column of
    the token it was opened on up to that of the token it was closed at. Two
    nodes of which one goes on where the other ends have the text of the node
    over both, and the leaves of a part of a run that takes its tokens as
    leaves have together the text of a node from the first of these tokens to
    where the part ends. A leaf begins with the value of its token if that
    stands there and the next token leaves it room. -/
theorem text_tiles_line (hline : ∀ t ∈ tokens, t.start.lineText = line)
    (hsorted : tokens.Pairwise fun t u => t.start.column ≤ u.start.column)
    (commands : List Command) (hs : s.cursor = Cursor.ofFeed (TokenBuffer.ofList tokens))
    (hwrites : ∀ command ∈ commands, command.writesToken = false) :
    (∀ i j n, s.Spans commands tokens i j n →
      ∃ t u, tokens[i]? = some t ∧ tokens[j]? = some u ∧
        n.text = String.ofList (line.toList.extract (min t.start.column.toNat line.length)
          (min u.start.column.toNat line.length)) ∧
        n.text.toByteArray = line.toByteArray.extract (offsetOf line t.start.column.toNat)
          (offsetOf line u.start.column.toNat)) ∧
    (∀ i m j x y z, i ≤ m → m ≤ j → s.Spans commands tokens i j x →
      s.Spans commands tokens i m y → s.Spans commands tokens m j z →
        x.text = y.text ++ z.text) ∧
    (∀ first count i j token n, tokens[i]? = some token →
      (s.after (commands.take first)).cursor.token = some token →
      (s.after (commands.take (first + count))).cursor.EndsAt tokens j →
      (s.after (commands.take first)).MovesByLeaves ((commands.drop first).take count) →
      s.Spans commands tokens i j n →
        String.join (((s.after (commands.take first)).leaves
          ((commands.drop first).take count)).map Node.text) = n.text) ∧
    (∀ place wanted save n token next, commands[place]? = some (.leaf wanted save) →
      (s.answers commands)[place]? = some (.node n) →
      tokens[s.pulls (commands.take place)]? = some token →
      tokens[s.pulls (commands.take place) + 1]? = some next →
      token.Stands → token.stopColumn ≤ next.start.column.toNat →
        token.value.toList <+: n.text.toList) := by
  have hfollows := s.follows_take _ commands hs hwrites
  have htexts := s.text_of_spans tokens line commands hline hs hwrites
  refine ⟨?_, ?_, ?_, ?_⟩
  · intro i j n hn
    rcases htexts i j n hn with ⟨t, u, ht, hu, htext⟩
    exact ⟨t, u, ht, hu, htext.trans (slice_eq_extract ..), htext ▸ toByteArray_slice ..⟩
  · intro i m j x y z him hmj hx hy hz
    rcases htexts i j x hx with ⟨t, u, ht, hu, hxtext⟩
    rcases htexts i m y hy with ⟨t', v, ht', hv, hytext⟩
    rcases htexts m j z hz with ⟨v', u', hv', hu', hztext⟩
    cases Option.some.inj (ht.symm.trans ht')
    cases Option.some.inj (hu.symm.trans hu')
    cases Option.some.inj (hv.symm.trans hv')
    rw [hxtext, hytext, hztext]
    exact (slice_append_slice (column_le tokens hsorted i m t v ht hv him)
      (column_le tokens hsorted m j v u hv hu hmj)).symm
  · intro first count i j token n hi htoken hj hleaves hn
    rcases htexts i j n hn with ⟨t, u, ht, hu, htext⟩
    rcases Cursor.stopPosition_of_endsAt tokens _ _ j (hfollows (first + count)) hj with
      ⟨u', hu', hstop⟩
    cases Option.some.inj (hi.symm.trans ht)
    cases Option.some.inj (hu.symm.trans hu')
    have hjoin := (s.after (commands.take first)).join_leaves tokens line
      (List.ne_nil_of_mem (List.mem_of_getElem? hi)) hline hsorted _ (hfollows first)
      ((commands.drop first).take count)
      (fun command hmem => hwrites command (List.mem_of_mem_drop (List.mem_of_mem_take hmem)))
      hleaves
    rw [← after_append, ← List.take_add, hstop, Cursor.stopPosition_of_token _ token htoken]
      at hjoin
    rw [hjoin, htext]
  · intro place wanted save n token next hplace hanswer htoken hnext hstands hroom
    exact (s.after (commands.take place)).prefix_text_of_leaf? tokens line hline _
      (hfollows place) _ rfl n (s.leaf?_of_answered commands place wanted save n hplace hanswer)
      token next htoken hnext hstands hroom

/-- Two letters of two bytes each, and a token past the end of the line: two
    leaves, a node over both, and a node that is opened on the first token
    when the input has run dry. -/
theorem text_tiles_line_past_its_end :
    let line := "né ß;"
    let tokens : List Token :=
      [⟨"né", .identifier, ⟨1, 0, line⟩⟩, ⟨"ß", .identifier, ⟨1, 3, line⟩⟩,
        ⟨"x", .identifier, ⟨1, 9, line⟩⟩]
    let commands : List Command :=
      [.saveToken "seed", .startNode none (some "all"), .leaf .identifier none,
        .leaf .identifier none, .endNode "all" .block none, .leaf .identifier none,
        .startNode (some "seed") (some "late"), .endNode "late" .block none]
    let s := ofCursor (Cursor.ofFeed (TokenBuffer.ofList tokens))
    ∃ all first second late, s.Spans commands tokens 0 2 all ∧
      s.Spans commands tokens 0 1 first ∧ s.Spans commands tokens 1 2 second ∧
      s.Spans commands tokens 0 2 late ∧ all.text = "né ß;" ∧ late.text = "né ß;" ∧
      all.text = first.text ++ second.text ∧
      String.join (((s.after (commands.take 1)).leaves ((commands.drop 1).take 3)).map
        Node.text) = all.text ∧
      "né".toList <+: first.text.toList := by
  intro line tokens commands s
  have hline : ∀ t ∈ tokens, t.start.lineText = line := by decide
  have hsorted : tokens.Pairwise fun t u => t.start.column ≤ u.start.column := by decide
  have hwrites : ∀ command ∈ commands, command.writesToken = false := by
    simp [commands, Command.writesToken]
  have hall : s.Spans commands tokens 0 2 _ :=
    .node 1 4 rfl rfl rfl (by decide) (by decide) rfl rfl ⟨by decide, Or.inl rfl⟩
  have hfirst : s.Spans commands tokens 0 1 _ :=
    .leaf 2 rfl rfl rfl rfl ⟨by decide, Or.inl rfl⟩
  have hsecond : s.Spans commands tokens 1 2 _ :=
    .leaf 3 rfl rfl rfl rfl ⟨by decide, Or.inl rfl⟩
  -- The input has run dry when this one is closed.
  have hlate : s.Spans commands tokens 0 2 _ :=
    .node 6 7 rfl rfl rfl (by decide) (by decide) rfl rfl ⟨by decide, Or.inr ⟨rfl, rfl⟩⟩
  rcases text_tiles_line tokens line s hline hsorted commands rfl hwrites with
    ⟨htexts, htiles, hjoins, hprefix⟩
  have hmoves : (s.after (commands.take 1)).MovesByLeaves ((commands.drop 1).take 3) := by
    decide
  -- All nodes that go from the first token to the last have the whole line.
  have hwhole : ∀ n, s.Spans commands tokens 0 2 n → n.text = "né ß;" := by
    intro n hn
    rcases htexts 0 2 n hn with ⟨t, u, ht, hu, htext, _⟩
    cases Option.some.inj ht
    cases Option.some.inj hu
    exact htext.trans (by decide)
  have hjoin := hjoins 1 3 0 2 _ _ rfl rfl ⟨by decide, Or.inl rfl⟩ hmoves hall
  have hname := hprefix 2 _ _ _ _ _ rfl rfl rfl rfl (by decide) (by decide)
  exact ⟨_, _, _, _, hall, hfirst, hsecond, hlate, hwhole _ hall, hwhole _ hlate,
    htiles 0 1 2 _ _ _ (by decide) (by decide) hall hfirst hsecond, hjoin, hname⟩

end Buffers

end Session

end Descent
