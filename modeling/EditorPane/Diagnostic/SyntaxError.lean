import EditorPane.Text.Position

/-!
# Syntax errors

What a parser reports about one place of a text. Every parse reports afresh, and its list of
errors replaces the one before.

## Main definitions

* `SyntaxError`, `SyntaxError.anchor`, `SyntaxError.logLine`.
-/

namespace EditorPane

/-- A message about the symbol at a line, from one, and a column, from zero. -/
structure SyntaxError where
  line : Nat
  column : Nat
  message : String
  deriving DecidableEq, Repr

namespace SyntaxError

/-- The place of the symbol. -/
def position (e : SyntaxError) : Position := ⟨e.line, e.column⟩

/-- The span of the symbol's first character. -/
def anchor (e : SyntaxError) : Span := Span.singleChar e.position

/-- The line of the log for the error. -/
def logLine (e : SyntaxError) : String := s!"Line {e.line}:{e.column} {e.message}"

@[simp] theorem start_anchor (e : SyntaxError) : e.anchor.start = e.position :=
  Span.start_singleChar _

end SyntaxError

end EditorPane
