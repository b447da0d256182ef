import EditorPane.Language.Basic
import EditorPane.Syntax.Parse
import EditorPane.Text.Alphanumeric
import EditorPane.Text.Blank

/-!
# The word parser

A parser that knows words but no grammar. A text is read from left to right: blanks and comments
are skipped, and what is left is cut into quoted strings, runs of digits, words and single
symbols, each of which becomes a child of one program node. A string ends on its line; one that
does not is reported at its opening quote and gives no token. Only `\n` starts a new line here.

## Main definitions

* `Cursor` — a place in the text while reading.
* `Lexeme`, `lexemes` — the parts of a text in order.
* `wordParse` — the parts as the output of a parser.
-/

namespace EditorPane

/-- Where the next character stands. -/
structure Cursor where
  line : Nat
  column : Nat
  offset : Nat
  deriving DecidableEq, Repr

namespace Cursor

/-- The start of a text. -/
def origin : Cursor := ⟨1, 0, 0⟩

/-- The cursor `n` characters further on the same line. -/
def advance (c : Cursor) (n : Nat) : Cursor :=
  { c with column := c.column + n, offset := c.offset + n }

/-- The cursor behind a line break. -/
def nextLine (c : Cursor) : Cursor := ⟨c.line + 1, 0, c.offset + 1⟩

/-- The token of the `n` characters at the cursor. -/
def token (c : Cursor) (n : Nat) : Token := ⟨c.line, c.column, c.offset, c.offset + n - 1⟩

end Cursor

/-- A part of a text that is not skipped. -/
inductive Lexeme where
  | token (construct : Construct) (anchor : Anchor) (token : Token)
  | unterminated (line column : Nat)
  deriving DecidableEq, Repr

/-- The characters inside words. -/
def isWordChar (c : Char) : Bool := isAlphanumeric c || c == '_'

/-- The characters that may stand between quotes. -/
def isStringChar (c : Char) : Bool := c != '"' && c != '\n'

/-- The construct and role of a word. -/
def wordKind (word : Text) : Construct × Anchor :=
  if isReserved (String.ofList word) then (.statSkip, .keyword) else (.exprIdentifier, .identifier)

theorem length_dropWhile_le (p : Char → Bool) (t : Text) : (t.dropWhile p).length ≤ t.length :=
  (List.dropWhile_sublist p).length_le

/-- The parts of the text that stands at the cursor. -/
def lexemes (cur : Cursor) : Text → List Lexeme
  | [] => []
  | c :: rest =>
    if c = '\n' then lexemes cur.nextLine rest
    else if isBlank c then lexemes (cur.advance 1) rest
    else if c = '#' then
      lexemes (cur.advance (1 + (rest.takeWhile (· != '\n')).length)) (rest.dropWhile (· != '\n'))
    else if c = '"' then
      let body := (rest.takeWhile isStringChar).length
      match h : rest.dropWhile isStringChar with
      | '"' :: after =>
        .token .literalString .literal (cur.token (body + 2))
          :: lexemes (cur.advance (body + 2)) after
      | after => .unterminated cur.line cur.column :: lexemes (cur.advance (body + 1)) after
    else if c.isDigit then
      let n := 1 + (rest.takeWhile Char.isDigit).length
      .token .literalInteger .literal (cur.token n)
        :: lexemes (cur.advance n) (rest.dropWhile Char.isDigit)
    else if isWordChar c then
      let word := c :: rest.takeWhile isWordChar
      .token (wordKind word).1 (wordKind word).2 (cur.token word.length)
        :: lexemes (cur.advance word.length) (rest.dropWhile isWordChar)
    else .token .exprBinary .operator (cur.token 1) :: lexemes (cur.advance 1) rest
termination_by t => t.length
decreasing_by
  · exact Nat.lt_succ_self _
  · exact Nat.lt_succ_self _
  · exact Nat.lt_succ_of_le (length_dropWhile_le _ rest)
  · have hle := length_dropWhile_le isStringChar rest
    rw [h] at hle
    exact Nat.lt_succ_of_le (Nat.le_of_succ_le hle)
  · exact Nat.lt_succ_of_le (h ▸ length_dropWhile_le isStringChar rest)
  · exact Nat.lt_succ_of_le (length_dropWhile_le _ rest)
  · exact Nat.lt_succ_of_le (length_dropWhile_le _ rest)
  · exact Nat.lt_succ_self _

namespace Lexeme

/-- The token of a part. -/
def token? : Lexeme → Option Token
  | token _ _ t => some t
  | unterminated _ _ => none

/-- The node of a part. -/
def node? : Lexeme → Option ParseNode
  | token c a t => some (.node c [⟨a, t⟩] [])
  | unterminated _ _ => none

/-- The error that a part stands for. -/
def error? : Lexeme → Option SyntaxError
  | token _ _ _ => none
  | unterminated line column => some ⟨line, column, "token recognition error at: '\"'"⟩

end Lexeme

/-- The word parser. -/
def wordParse (t : Text) : ParseOutput :=
  let parts := lexemes .origin t
  { tree := some (.node .program [] (parts.filterMap Lexeme.node?))
    tokens := parts.filterMap Lexeme.token?
    errors := parts.filterMap Lexeme.error? }

end EditorPane
