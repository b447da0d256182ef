import EditorPane.Diagnostic.SyntaxError
import EditorPane.Syntax.Construct
import EditorPane.Syntax.Token
import EditorPane.Text.Line

/-!
# Parse trees and parsers

A parser turns a text into a tree of constructs, each with the terminals that belong to it
directly, and a list of syntax errors. It may report errors without a tree, and it may give up. A
parser may remember things from one call to the next.

## Main definitions

* `Terminal`, `ParseNode` — the tree.
* `ParseOutput`, `ParseFailure` — what a parse gives.
* `Parser`, `Parser.run`, `Parser.ofFunction`, `Parser.script`.
-/

namespace EditorPane

/-- A token in its role. -/
structure Terminal where
  anchor : Anchor
  token : Token
  deriving DecidableEq, Repr

/-- A construct with its own terminals and the constructs inside it, both in the order of the
text. -/
inductive ParseNode where
  | node (construct : Construct) (terminals : List Terminal) (children : List ParseNode)
  deriving Repr

namespace ParseNode

/-- The construct of a node. -/
def construct : ParseNode → Construct
  | node c _ _ => c

/-- The terminals that belong to a node directly. -/
def terminals : ParseNode → List Terminal
  | node _ ts _ => ts

/-- The constructs inside a node. -/
def children : ParseNode → List ParseNode
  | node _ _ cs => cs

end ParseNode

/-- What a parse that ran to its end gives. -/
structure ParseOutput where
  tree : Option ParseNode
  tokens : List Token
  errors : List SyntaxError
  deriving Repr

/-- What is left of a parse that was given up. -/
structure ParseFailure where
  message : String
  errors : List SyntaxError
  deriving DecidableEq, Repr

/-- How the failure is described. -/
def ParseFailure.description (f : ParseFailure) : String := s!"parser aborted: {f.message}"

/-- The result of a parse. -/
abbrev ParseResult := Except ParseFailure ParseOutput

/-! ## Parsers -/

/-- A parser with a memory of type `σ`. -/
structure Parser (σ : Type) where
  parse : σ → Text → ParseResult × σ
  memory : σ

namespace Parser

variable {σ : Type}

/-- Parse a text. -/
def run (p : Parser σ) (t : Text) : ParseResult × Parser σ :=
  let (result, memory) := p.parse p.memory t
  (result, { p with memory := memory })

/-- A parser without memory. -/
def ofFunction (f : Text → ParseResult) : Parser Unit := ⟨fun _ t => (f t, ()), ()⟩

/-- A parser that follows a list of parsers without memory, one for each call. The last one is
used for all further calls. -/
def script (first : Text → ParseResult) (rest : List (Text → ParseResult)) :
    Parser ((Text → ParseResult) × List (Text → ParseResult)) where
  parse m t := (m.1 t, match m.2 with
    | [] => m
    | next :: others => (next, others))
  memory := (first, rest)

/-- By `calls` the memory tells how often the parser has been called: each call adds one. -/
def Counts (p : Parser σ) (calls : σ → Nat) : Prop :=
  ∀ memory t, calls (p.parse memory t).2 = calls memory + 1

theorem Counts.run {p : Parser σ} {calls : σ → Nat} (h : p.Counts calls) (t : Text) :
    calls (p.run t).2.memory = calls p.memory + 1 :=
  h p.memory t

end Parser

end EditorPane
