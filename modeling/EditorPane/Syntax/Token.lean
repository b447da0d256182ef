import EditorPane.Machine
import EditorPane.Text.Position

/-!
# Tokens

A token as a parser reports it: where it starts, and the offsets of its first and last character.
A token made up by the parser, such as the end of the input, may stop before it starts.

## Main definitions

* `Token`, `Token.length`, `Token.span`.
-/

namespace EditorPane

/-- A token. Lines count from one; `stop` is the offset of its last character. -/
structure Token where
  line : Nat
  column : Nat
  start : Nat
  stop : Nat
  deriving DecidableEq, Repr

namespace Token

/-- The number of characters; none if the token stops before it starts, or at the largest word. -/
def length (t : Token) : Nat := wordAdd t.stop 1 - t.start

/-- The token has no characters. -/
def isEmpty (t : Token) : Bool := t.length = 0

/-- Where the token starts. -/
def position (t : Token) : Position := ⟨t.line, t.column⟩

/-- The span of the token if it lies on one line. -/
def span (t : Token) : Span := Span.between t.position (t.position.moveRight t.length)

@[simp] theorem start_span (t : Token) : t.span.start = t.position := by
  rw [span, Span.between_of_le (Position.le_moveRight _ _)]

@[simp] theorem stop_span (t : Token) : t.span.stop = t.position.moveRight t.length := by
  rw [span, Span.between_of_le (Position.le_moveRight _ _)]

end Token

end EditorPane
