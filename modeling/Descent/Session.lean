import Descent.Paint
import Descent.Session.Command
import Descent.Session.Register
import Descent.Wire.Settings

/-!
# Sessions

A session is a cursor with registers for tokens, open nodes and closed nodes,
and the latest diagnostic. It takes commands one by one. A command that names
something unknown is answered so and does nothing else, save that an edit has
taken its node before it looks for the children to add.

## Main definitions

* `Session`: A cursor with its registers.
* `Session.step`: Obeys one command.
* `Session.run`: Obeys commands one after the other.

## Theorems

* `run_append`: Commands can be obeyed in two goes.
-/

namespace Descent

open Json

/-- A cursor with its registers. -/
structure Session (σ : Type) where
  cursor : Cursor σ
  /-- Saved tokens; a saved token may be the absence of one. -/
  tokens : Registers (Option Token)
  openNodes : Registers OpenNode
  nodes : Registers Node
  /-- The latest diagnostic. -/
  latest : Option Diagnostic

namespace Session

variable {σ : Type}

/-- A session with empty registers. -/
def ofCursor (cursor : Cursor σ) : Session σ :=
  ⟨cursor, .empty, .empty, .empty, none⟩

/-- The nodes of these names, or the first name without a node. -/
def nodesNamed (s : Session σ) : List String → Except String (List Node)
  | [] => .ok []
  | name :: rest =>
    match s.nodes.get? name with
    | some node => (node :: ·) <$> nodesNamed s rest
    | none => .error name

/-- A wish with its children looked up, or the first name without a node. -/
def partNamed (s : Session σ) : PartCommand → Except String Part
  | .value text => .ok (.value text)
  | .info name value => .ok (.info name value)
  | .param node => do
    match s.nodes.get? node with
    | some node => return .param node
    | none => .error node
  | .params nodes => .params <$> s.nodesNamed nodes
  | .typeName name => .ok (.typeName name)

/-- All wishes with their children looked up. -/
def partsNamed (s : Session σ) (parts : List PartCommand) : Except String NodeParts :=
  NodeParts.ofList <$> parts.mapM s.partNamed

/-- Keeps a node that has been closed, if it is to be kept. -/
def keepNode (s : Session σ) (save : Option String) (node : Node) : Answer × Session σ :=
  (.node node, { s with nodes := s.nodes.save save node })

/-- Remembers a diagnostic. -/
def fail (s : Session σ) (d : Diagnostic) : Answer × Session σ :=
  (.failed d, { s with latest := some d })

/-- Keeps a node, or remembers why there is none. -/
def keepResult (s : Session σ) (save : Option String) :
    Except Diagnostic Node → Answer × Session σ
  | .ok node => s.keepNode save node
  | .error d => s.fail d

/-- Takes an open node out of its register, for a step that needs it. -/
def withOpen (s : Session σ) (name : String)
    (step : OpenNode → Session σ → Logged (Answer × Session σ)) : Logged (Answer × Session σ) :=
  match s.openNodes.get? name with
  | some o => step o { s with openNodes := s.openNodes.erase name }
  | none => return (.unknownName name, s)

/-- Keeps an open node, if it is to be kept. -/
def keepOpen (s : Session σ) (save : Option String) (o : OpenNode) : Answer × Session σ :=
  (.openNode o, { s with openNodes := s.openNodes.save save o })

/-- Changes the fields of an open node. -/
def editNode (s : Session σ) (o : OpenNode) (edit : Edit) : Except String OpenNode := do
  let added ← s.nodesNamed edit.params
  return {
    value := edit.value.getD o.value
    start := edit.start.getD o.start
    info := o.info.insertAll edit.info
    params := o.params ++ added
    typeName := edit.typeName.getD o.typeName }

/-- The diagnostic that is asked for. -/
def diagnose (s : Session σ) : Complaint → Logged Diagnostic
  | .general message detail => s.cursor.general message detail
  | .unexpectedValue value => s.cursor.unexpectedValue value
  | .unexpected description => s.cursor.unexpected description
  | .unknown value => s.cursor.unknown value
  | .unsupported => s.cursor.unsupported

/-- Writes the latest diagnostic. -/
def writeLatest (s : Session σ) (write : Diagnostic → String) : Answer × Session σ :=
  match s.latest with
  | some d => (.text (write d), s)
  | none => (.nothingToWrite, s)

/-- The same session with another cursor, and its options for an answer. -/
def configured (s : Session σ) (cursor : Cursor σ) : Answer × Session σ :=
  (.options cursor.options, { s with cursor })

variable [TokenFeed σ]

/-- Obeys one command. -/
def step (s : Session σ) : Command → Logged (Answer × Session σ)
  | .next => do
    return (.done, { s with cursor := ← s.cursor.advance })
  | .token => return (.token s.cursor.token, s)
  | .last => return (.token s.cursor.last?, s)
  | .isAtEnd => return (.truth s.cursor.isAtEnd, s)
  | .filename => return (.text s.cursor.filename, s)
  | .options => return (.options s.cursor.options, s)
  | .form isExpanded =>
    return (.text (if isExpanded then s.cursor.form.expanded else s.cursor.form.compact), s)
  | .setFilename filename => return s.configured (s.cursor.withFilename filename)
  | .setFormatter formatter => return s.configured (s.cursor.withFormatter formatter)
  | .setOptions document =>
    match Options.ofDocument document with
    | .ok options => return s.configured (s.cursor.withOptions options)
    | .error fault => return (.unreadable fault, s)
  | .setToken token => return (.done, { s with cursor := s.cursor.withToken token })
  | .saveToken name => return (.done, { s with tokens := s.tokens.set name s.cursor.token })
  | .isOn expected => return (.truth (s.cursor.isOn expected), s)
  | .eat expected => do
    let (matched, cursor) ← s.cursor.eat expected
    return (.truth matched, { s with cursor })
  | .expect expected save => do
    let (taken, cursor) ← s.cursor.expect expected
    let s := { s with cursor }
    match taken with
    | .ok token => return (.consumed token, { s with tokens := s.tokens.save save (some token) })
    | .error d => return s.fail d
  | .startNode seed save =>
    let seed := seed.bind fun name => (s.tokens.get? name).join
    return s.keepOpen save (s.cursor.startNode seed)
  | .edit node edit =>
    s.withOpen node fun o s =>
      match s.editNode o edit with
      | .ok o => return s.keepOpen (some node) o
      | .error name => return (.unknownName name, s)
  | .apply node parts =>
    match s.partsNamed parts with
    | .ok parts => s.withOpen node fun o s => return s.keepOpen (some node) (parts.apply o)
    | .error name => return (.unknownName name, s)
  | .endNode node kind save =>
    s.withOpen node fun o s => do
      return s.keepNode save (← s.cursor.endNode o kind)
  | .endNodeAt node kind stop save =>
    s.withOpen node fun o s => do
      return s.keepResult save (← s.cursor.endNodeAt o kind stop)
  | .close node kind stop save =>
    s.withOpen node fun o s => return s.keepNode save (o.close kind stop)
  | .makeNode parts kind save =>
    match s.partsNamed parts with
    | .ok parts => do
      return s.keepNode save (← s.cursor.makeNode parts kind)
    | .error name => return (.unknownName name, s)
  | .makeNodeAt parts kind stop save =>
    match s.partsNamed parts with
    | .ok parts => do
      return s.keepResult save (← s.cursor.makeNodeAt parts kind stop)
    | .error name => return (.unknownName name, s)
  | .leaf leaf save => do
    let (result, cursor) ← s.cursor.leaf leaf
    return { s with cursor }.keepResult save result
  | .reopen node save =>
    match s.nodes.get? node with
    | some n => return s.keepOpen save n.reopen
    | none => return (.unknownName node, s)
  | .compare node other =>
    match s.nodes.get? node, s.nodes.get? other with
    | some n, some m => return (.truth (n.agrees m), s)
    | some _, none => return (.unknownName other, s)
    | none, _ => return (.unknownName node, s)
  | .showNode node =>
    match s.nodes.get? node with
    | some n => return (.shown n, s)
    | none => return (.unknownName node, s)
  | .complain complaint => do
    return s.fail (← s.diagnose complaint)
  | .write inColour => return s.writeLatest (·.written inColour)
  | .print mode => return s.writeLatest (·.printed mode false)

/-- Obeys commands one after the other. The answer to each comes with its
    events, and with the session behind it. -/
def run (s : Session σ) : List Command → List (Logged (Answer × Session σ))
  | [] => []
  | command :: rest =>
    let answered := s.step command
    answered :: run answered.result.2 rest

/-- The session behind commands. -/
def after (s : Session σ) : List Command → Session σ
  | [] => s
  | command :: rest => after (s.step command).result.2 rest

/-- Commands can be obeyed in two goes. -/
theorem run_append (s : Session σ) (first second : List Command) :
    s.run (first ++ second) = s.run first ++ (s.after first).run second := by
  induction first generalizing s with
  | nil => rfl
  | cons command rest ih => simp [run, after, ih]

end Session

end Descent
