import Descent.Proofs.Cursor.Outcome
import Descent.Session

/-!
# Registers of a Session

What a command can leave in the registers of a session, and what it takes to
be answered with a node. Each is said once, by inversion: whatever stands
under a name behind a command stood there before, or the command put it
there, and then it is known from what.

A token that is saved is the current one. An open node under a name came
from a start, an edit, a set of parts or a closed node, and `Opens` keeps as
much of its origin as there is to know about where it starts. A closed node
was answered, and `Closes` lists the ways in which a node is closed.

`obeys_step` goes through the commands once and for all. What it leaves out
is the cursor, which has its own law of moves.

## Main definitions

* `Session.Opens`: The ways in which an open node comes under a name.
* `Session.Closes`: The ways in which a node is closed.
* `Session.Obeys`: What a command may do to the registers.

## Theorems

* `get?_of_get?_erase`, `get?_save`: Where something found came from.
* `obeys_step`: Every command does what it may.
-/

namespace Descent

namespace Registers

variable {α : Type}

theorem get?_of_get?_erase (r : Registers α) (name other : String) (a : α)
    (hfound : (r.erase name).get? other = some a) : r.get? other = some a := by
  rw [get?_erase] at hfound
  by_cases hname : other = name
  · rw [if_pos hname] at hfound
    cases hfound
  · rw [if_neg hname] at hfound
    exact hfound

theorem get?_save (r : Registers α) (save : Option String) (other : String) (a b : α)
    (hfound : (r.save save a).get? other = some b) :
    r.get? other = some b ∨ save = some other ∧ a = b := by
  cases save with
  | none => exact Or.inl hfound
  | some name =>
      simp only [save, get?_set] at hfound
      by_cases hname : other = name
      · rw [if_pos hname] at hfound
        exact Or.inr ⟨congrArg some hname.symm, Option.some.inj hfound⟩
      · rw [if_neg hname] at hfound
        exact Or.inl hfound

end Registers

namespace Session

variable {σ : Type}

/-- The token that the name of a seed stands for, if any. -/
def seedNamed (s : Session σ) (seed : Option String) : Option Token :=
  seed.bind fun name => (s.tokens.get? name).join

/-- The ways in which a command can bring an open node under a name. -/
inductive Opens (s : Session σ) : Command → String → OpenNode → Prop
  | start {seed : Option String} {name : String} :
      Opens s (.startNode seed (some name)) name (s.cursor.startNode (s.seedNamed seed))
  | edit {name : String} {edit : Edit} {o o' : OpenNode} :
      s.openNodes.get? name = some o → o'.start = edit.start.getD o.start →
        Opens s (.edit name edit) name o'
  | apply {name : String} {parts : List PartCommand} {wishes : NodeParts} {o : OpenNode} :
      s.openNodes.get? name = some o → Opens s (.apply name parts) name (wishes.apply o)
  | reopen {node name : String} {n : Node} :
      s.nodes.get? node = some n → Opens s (.reopen node (some name)) name n.reopen

/-- An edit leaves the start alone unless it sets one. -/
theorem start_editNode (s : Session σ) (o o' : OpenNode) (edit : Edit)
    (hedit : s.editNode o edit = .ok o') : o'.start = edit.start.getD o.start := by
  unfold editNode at hedit
  cases hnodes : s.nodesNamed edit.params with
  | error name =>
      rw [hnodes] at hedit
      cases hedit
  | ok added =>
      rw [hnodes] at hedit
      cases hedit
      rfl

variable [TokenFeed σ]

/-- The ways in which a command can close a node. -/
inductive Closes (s : Session σ) : Command → Node → Prop
  | endNode {name : String} {kind : NodeKind} {save : Option String} {o : OpenNode} :
      s.openNodes.get? name = some o →
        Closes s (.endNode name kind save) (o.close kind s.cursor.stopPosition)
  | endNodeAt {name : String} {kind : NodeKind} {stop : Position} {save : Option String}
      {o : OpenNode} :
      s.openNodes.get? name = some o → o.start.precedes stop = true →
        Closes s (.endNodeAt name kind stop save) (o.close kind stop)
  | close {name : String} {kind : NodeKind} {stop : Position} {save : Option String}
      {o : OpenNode} :
      s.openNodes.get? name = some o → Closes s (.close name kind stop save) (o.close kind stop)
  | makeNode {parts : List PartCommand} {wishes : NodeParts} {kind : NodeKind}
      {save : Option String} :
      s.partsNamed parts = .ok wishes →
        Closes s (.makeNode parts kind save)
          ((wishes.apply (s.cursor.startNode none)).close kind s.cursor.stopPosition)
  | makeNodeAt {parts : List PartCommand} {wishes : NodeParts} {kind : NodeKind}
      {stop : Position} {save : Option String} :
      s.partsNamed parts = .ok wishes → (s.cursor.startNode none).start.precedes stop = true →
        Closes s (.makeNodeAt parts kind stop save)
          ((wishes.apply (s.cursor.startNode none)).close kind stop)
  | leaf {leaf : Leaf} {save : Option String} {token : Token} :
      s.cursor.token = some token → token.kind = leaf.tokenKind →
        Closes s (.leaf leaf save) (s.cursor.next.leafNode leaf token)

/-- What a command may do to the registers of a session, and when it may be
    answered with a node. -/
structure Obeys (s : Session σ) (command : Command) (answered : Answer × Session σ) : Prop where
  tokens : ∀ name kept, answered.2.tokens.get? name = some kept →
    s.tokens.get? name = some kept ∨ kept = s.cursor.token
  openNodes : ∀ name o, answered.2.openNodes.get? name = some o →
    s.openNodes.get? name = some o ∨ s.Opens command name o
  nodes : ∀ name n, answered.2.nodes.get? name = some n →
    s.nodes.get? name = some n ∨ answered.1 = .node n
  closed : ∀ n, answered.1 = .node n → s.Closes command n

/-- A command that saves nothing and closes no node. It may have taken an
    open node out of its register. -/
theorem obeys_of_kept (s : Session σ) (command : Command) (answered : Answer × Session σ)
    (htokens : answered.2.tokens = s.tokens)
    (hopen : ∀ name o, answered.2.openNodes.get? name = some o → s.openNodes.get? name = some o)
    (hnodes : answered.2.nodes = s.nodes) (hanswer : ∀ n, answered.1 ≠ .node n) :
    s.Obeys command answered where
  tokens _ _ hkept := Or.inl (htokens ▸ hkept)
  openNodes name o ho := Or.inl (hopen name o ho)
  nodes _ _ hn := Or.inl (hnodes ▸ hn)
  closed n hn := absurd hn (hanswer n)

/-- A command that leaves all registers alone and closes no node. -/
theorem obeys_of_same (s : Session σ) (command : Command) (answered : Answer × Session σ)
    (hsame : answered.2 =
      { s with cursor := answered.2.cursor, latest := answered.2.latest })
    (hanswer : ∀ n, answered.1 ≠ .node n) : s.Obeys command answered := by
  refine s.obeys_of_kept command answered ?_ (fun name o ho => ?_) ?_ hanswer
  · rw [hsame]
  · rw [hsame] at ho
    exact ho
  · rw [hsame]

/-- A command that keeps an open node, where there was one before or not. -/
theorem obeys_keepOpen (s s' : Session σ) (command : Command) (save : Option String)
    (o : OpenNode) (htokens : s'.tokens = s.tokens)
    (hopen : ∀ name o', s'.openNodes.get? name = some o' → s.openNodes.get? name = some o')
    (hnodes : s'.nodes = s.nodes) (hopens : ∀ name, save = some name → s.Opens command name o) :
    s.Obeys command (s'.keepOpen save o) where
  tokens _ _ hkept := Or.inl (htokens ▸ hkept)
  openNodes name o' ho' := by
    -- What is found under the name it was saved under is what was saved.
    rcases s'.openNodes.get?_save save name o o' ho' with hold | ⟨hname, hsame⟩
    · exact Or.inl (hopen name o' hold)
    · exact Or.inr (hsame ▸ hopens name hname)
  nodes _ _ hn := Or.inl (hnodes ▸ hn)
  closed n hn := by cases hn

/-- A command that closes a node and keeps it. -/
theorem obeys_keepNode (s s' : Session σ) (command : Command) (save : Option String)
    (node : Node) (htokens : s'.tokens = s.tokens)
    (hopen : ∀ name o, s'.openNodes.get? name = some o → s.openNodes.get? name = some o)
    (hnodes : s'.nodes = s.nodes) (hcloses : s.Closes command node) :
    s.Obeys command (s'.keepNode save node) where
  tokens _ _ hkept := Or.inl (htokens ▸ hkept)
  openNodes name o ho := Or.inl (hopen name o ho)
  nodes name n hn := by
    rcases s'.nodes.get?_save save name node n hn with hold | ⟨_, hsame⟩
    · exact Or.inl (hnodes ▸ hold)
    · exact Or.inr (congrArg Answer.node hsame)
  closed n hn := by
    have hsame : node = n := Answer.node.inj hn
    exact hsame ▸ hcloses

/-- A command that takes an open node obeys if its step on that node does. -/
theorem obeys_withOpen (s : Session σ) (command : Command) (name : String)
    (step : OpenNode → Session σ → Logged (Answer × Session σ))
    (hstep : ∀ o s', s.openNodes.get? name = some o →
      s' = { s with openNodes := s.openNodes.erase name } → s.Obeys command (step o s').result) :
    s.Obeys command (s.withOpen name step).result := by
  unfold withOpen
  cases ho : s.openNodes.get? name with
  | none => exact s.obeys_of_same command _ rfl (fun _ => nofun)
  | some o => exact hstep o _ ho rfl

/-- Every command does to the registers what it may, and is answered with a
    node only if it closes one. -/
theorem obeys_step (s : Session σ) (command : Command) :
    s.Obeys command (s.step command).result := by
  have herase : ∀ taken name o, (s.openNodes.erase taken).get? name = some o →
      s.openNodes.get? name = some o := fun taken => s.openNodes.get?_of_get?_erase taken
  cases command with
  | next | token | last | isAtEnd | filename | options | form isExpanded | setFilename filename
  | setFormatter formatter | setToken token | isOn expected | eat expected
  | complain complaint => exact s.obeys_of_same _ _ rfl (fun _ => nofun)
  -- A document that cannot be read changes nothing at all.
  | setOptions document =>
      simp only [step]
      cases Options.ofDocument document with
      | ok options => exact s.obeys_of_same _ _ rfl (fun _ => nofun)
      | error fault => exact s.obeys_of_same _ _ rfl (fun _ => nofun)
  -- The two commands that save tokens save the one the cursor is on.
  | saveToken name =>
      refine ⟨fun other kept hkept => ?_, fun _ _ h => Or.inl h, fun _ _ h => Or.inl h, nofun⟩
      rcases s.tokens.get?_save (some name) other s.cursor.token kept hkept with hold | ⟨_, hsame⟩
      · exact Or.inl hold
      · exact Or.inr hsame.symm
  | expect expected save =>
      rcases s.cursor.expect_cases expected with ⟨token, htoken, _, hresult⟩ | ⟨_, hresult⟩
      · simp only [step, Logged.result_bind, hresult]
        refine ⟨fun other kept hkept => ?_, fun _ _ h => Or.inl h, fun _ _ h => Or.inl h, nofun⟩
        rcases s.tokens.get?_save save other (some token) kept hkept with hold | ⟨_, hsame⟩
        · exact Or.inl hold
        · exact Or.inr (hsame.symm.trans htoken.symm)
      · simp only [step, Logged.result_bind, hresult]
        exact s.obeys_of_same _ _ rfl (fun _ => nofun)
  | startNode seed save =>
      refine s.obeys_keepOpen s _ save _ rfl (fun _ _ h => h) rfl (fun name hname => ?_)
      subst hname
      exact .start
  -- An open node is taken out first and put back under the same name.
  | edit node edit =>
      refine s.obeys_withOpen _ node _ (fun o s' ho hs' => ?_)
      subst hs'
      cases hedit : editNode { s with openNodes := s.openNodes.erase node } o edit with
      | error name => exact s.obeys_of_kept _ _ rfl (herase node) rfl (fun _ => nofun)
      | ok o' =>
          refine s.obeys_keepOpen _ _ _ o' rfl (herase node) rfl (fun name hname => ?_)
          cases hname
          exact .edit ho (start_editNode _ o o' edit hedit)
  | apply node parts =>
      simp only [step]
      cases s.partsNamed parts with
      | error name => exact s.obeys_of_same _ _ rfl (fun _ => nofun)
      | ok wishes =>
          refine s.obeys_withOpen _ node _ (fun o s' ho hs' => ?_)
          subst hs'
          refine s.obeys_keepOpen _ _ _ _ rfl (herase node) rfl (fun name hname => ?_)
          cases hname
          exact .apply ho
  -- From here on nodes are closed, or refused where an end is checked.
  | endNode node kind save =>
      refine s.obeys_withOpen _ node _ (fun o s' ho hs' => ?_)
      subst hs'
      rw [Logged.result_bind, Cursor.result_endNode]
      exact s.obeys_keepNode _ _ save _ rfl (herase node) rfl (.endNode ho)
  | endNodeAt node kind stop save =>
      refine s.obeys_withOpen _ node _ (fun o s' ho hs' => ?_)
      subst hs'
      rw [Logged.result_bind]
      unfold Cursor.endNodeAt
      by_cases hordered : o.start.precedes stop = true
      · rw [if_pos hordered]
        exact s.obeys_keepNode _ _ save _ rfl (herase node) rfl (.endNodeAt ho hordered)
      · rw [if_neg hordered]
        exact s.obeys_of_kept _ _ rfl (herase node) rfl (fun _ => nofun)
  | close node kind stop save =>
      refine s.obeys_withOpen _ node _ (fun o s' ho hs' => ?_)
      subst hs'
      exact s.obeys_keepNode _ _ save _ rfl (herase node) rfl (.close ho)
  | makeNode parts kind save =>
      simp only [step]
      cases hparts : s.partsNamed parts with
      | error name => exact s.obeys_of_same _ _ rfl (fun _ => nofun)
      | ok wishes =>
          simp only [Logged.result_bind, Cursor.makeNode, Cursor.result_endNode]
          exact s.obeys_keepNode s _ save _ rfl (fun _ _ h => h) rfl (.makeNode hparts)
  | makeNodeAt parts kind stop save =>
      simp only [step]
      cases hparts : s.partsNamed parts with
      | error name => exact s.obeys_of_same _ _ rfl (fun _ => nofun)
      | ok wishes =>
          simp only [Logged.result_bind, Cursor.makeNodeAt, Cursor.endNodeAt]
          by_cases hordered : (wishes.apply (s.cursor.startNode none)).start.precedes stop = true
          · rw [if_pos hordered]
            exact s.obeys_keepNode s _ save _ rfl (fun _ _ h => h) rfl
              (.makeNodeAt hparts hordered)
          · rw [if_neg hordered]
            exact s.obeys_of_same _ _ rfl (fun _ => nofun)
  | leaf leaf save =>
      rcases s.cursor.leaf_cases leaf with ⟨token, htoken, hkind, hresult⟩ | ⟨_, hresult⟩
      · simp only [step, Logged.result_bind, hresult]
        exact s.obeys_keepNode _ _ save _ rfl (fun _ _ h => h) rfl (.leaf htoken hkind)
      · simp only [step, Logged.result_bind, hresult]
        exact s.obeys_of_same _ _ rfl (fun _ => nofun)
  | reopen node save =>
      simp only [step]
      cases hn : s.nodes.get? node with
      | none => exact s.obeys_of_same _ _ rfl (fun _ => nofun)
      | some n =>
          refine s.obeys_keepOpen s _ save _ rfl (fun _ _ h => h) rfl (fun name hname => ?_)
          subst hname
          exact .reopen hn
  -- Questions about nodes leave all registers alone.
  | compare node other =>
      simp only [step]
      cases s.nodes.get? node with
      | none => exact s.obeys_of_same _ _ rfl (fun _ => nofun)
      | some n =>
          cases s.nodes.get? other with
          | none => exact s.obeys_of_same _ _ rfl (fun _ => nofun)
          | some m => exact s.obeys_of_same _ _ rfl (fun _ => nofun)
  | showNode node =>
      simp only [step]
      cases s.nodes.get? node with
      | none => exact s.obeys_of_same _ _ rfl (fun _ => nofun)
      | some n => exact s.obeys_of_same _ _ rfl (fun _ => nofun)
  | write inColour =>
      simp only [step, writeLatest]
      cases s.latest with
      | none => exact s.obeys_of_same _ _ rfl (fun _ => nofun)
      | some d => exact s.obeys_of_same _ _ rfl (fun _ => nofun)
  | print mode =>
      simp only [step, writeLatest]
      cases s.latest with
      | none => exact s.obeys_of_same _ _ rfl (fun _ => nofun)
      | some d => exact s.obeys_of_same _ _ rfl (fun _ => nofun)

end Session

end Descent
