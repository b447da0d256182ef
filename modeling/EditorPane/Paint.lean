import EditorPane.Decoration
import EditorPane.Language.Comment
import EditorPane.Syntax.Parse

/-!
# Painting a text

A text is painted by parsing it once. The parse tree gives one decoration command for every
terminal that its construct colours, the nodes taken in pre-order; each line with a comment gives
one more, from the comment marker to the end of the line. The commands of comments come last. If
the parse fails there are only those.

## Main definitions

* `tokenSpan` — the span of a token, which may reach over line breaks.
* `walk`, `ParseNode.preorder` — the commands of a tree, with a stack and by recursion.
* `commentCommands` — the commands of the comments.
* `Painter`, `Painter.paint`, `PaintResult`.
-/

namespace EditorPane

/-! ## Terminals -/

/-- The span of a token in its text. A token with a `\n` in it ends where its last character
does; the span of any other is read off its length. The end of a token is a word: that of one which
does not fit the text may come before its start, with no characters in between. -/
def tokenSpan (d : Document) (t : Token) : Span :=
  match d.offset? t.position with
  | none => t.span
  | some start =>
    let stop := wordAdd start t.length
    if stop ≤ d.charCount && (d.slice start stop).contains '\n' then
      Span.between t.position (d.positionAt stop)
    else t.span

/-- The command of a terminal in a construct, if it has characters and is coloured. -/
def Terminal.command? (d : Document) (c : Construct) (t : Terminal) : Option DecorationCommand :=
  if t.token.isEmpty then none
  else (c.classFor? t.anchor).map fun v => ⟨v, tokenSpan d t.token⟩

/-- The commands of the terminals that belong to a node directly. -/
def ParseNode.ownCommands (d : Document) (n : ParseNode) : List DecorationCommand :=
  n.terminals.filterMap (Terminal.command? d n.construct)

/-! ## Trees -/

/-- The number of nodes of the given trees. -/
def nodeCount : List ParseNode → Nat
  | [] => 0
  | .node _ _ children :: rest => 1 + nodeCount children + nodeCount rest

theorem nodeCount_append (ns ms : List ParseNode) :
    nodeCount (ns ++ ms) = nodeCount ns + nodeCount ms := by
  induction ns with
  | nil => simp [nodeCount]
  | cons n rest ih =>
    cases n
    simp only [List.cons_append, nodeCount, ih]
    omega

/-- The commands of the trees on a stack. A node is taken off, its own commands come first, and
its children go on top in their place. -/
def walk (d : Document) : List ParseNode → List DecorationCommand
  | [] => []
  | .node c terminals children :: rest =>
    (ParseNode.node c terminals children).ownCommands d ++ walk d (children ++ rest)
termination_by stack => nodeCount stack
decreasing_by
  rw [nodeCount_append, nodeCount]
  omega

/-- The commands of the terminals of a tree. -/
def syntacticCommands (d : Document) (tree : ParseNode) : List DecorationCommand := walk d [tree]

/-- The commands of a tree by recursion on it: those of the node, then those of each child. -/
def ParseNode.preorder (d : Document) : ParseNode → List DecorationCommand
  | .node c terminals children =>
    terminals.filterMap (Terminal.command? d c) ++ children.flatMap (preorder d)

/-! ## Comments -/

/-- The command of the comment of a line. -/
def commentCommand? (comments : CommentConfig) (d : Document) (line : Nat) :
    Option DecorationCommand :=
  match d.lineText? line with
  | none => none
  | some lineText =>
    (comments.column? lineText).map fun column =>
      ⟨.comment, Span.between ⟨line, column⟩ ⟨line, lineText.length⟩⟩

/-- The commands of the comments, line by line. -/
def commentCommands (comments : CommentConfig) (d : Document) : List DecorationCommand :=
  if comments.hasLine then
    (List.range' 1 d.lineCount).filterMap (commentCommand? comments d)
  else []

/-! ## Painting -/

/-- How the parse went; the number is that of its tokens. -/
inductive ParseOutcome where
  | parsed (tokens : Nat)
  | noTree (tokens : Nat)
  | failed (failure : ParseFailure)
  deriving DecidableEq, Repr

/-- What painting a text gives. -/
structure PaintResult where
  outcome : ParseOutcome
  syntactic : List DecorationCommand
  comments : List DecorationCommand
  errors : List SyntaxError
  deriving DecidableEq, Repr

/-- The whole batch of commands. -/
def PaintResult.commands (r : PaintResult) : List DecorationCommand := r.syntactic ++ r.comments

/-- What a text whose parse gave `result` is painted with. -/
def PaintResult.ofParse (comments : CommentConfig) (d : Document) (result : ParseResult) :
    PaintResult :=
  match result with
  | .ok ⟨some tree, tokens, errors⟩ =>
    ⟨.parsed tokens.length, syntacticCommands d tree, commentCommands comments d, errors⟩
  | .ok ⟨none, tokens, errors⟩ =>
    ⟨.noTree tokens.length, [], commentCommands comments d, errors⟩
  | .error failure => ⟨.failed failure, [], commentCommands comments d, failure.errors⟩

/-- A parser with the comments of its language. -/
structure Painter (σ : Type) where
  parser : Parser σ
  comments : CommentConfig

/-- Parse a text once and paint it. -/
def Painter.paint {σ : Type} (p : Painter σ) (t : Text) : PaintResult × Painter σ :=
  let (result, parser) := p.parser.run t
  (.ofParse p.comments ⟨t⟩ result, { p with parser := parser })

/-- Painting a text calls the parser once. -/
theorem Painter.calls_paint {σ : Type} {p : Painter σ} {calls : σ → Nat} (h : p.parser.Counts calls)
    (t : Text) : calls (p.paint t).2.parser.memory = calls p.parser.memory + 1 :=
  h.run t

end EditorPane
