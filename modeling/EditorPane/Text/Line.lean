import EditorPane.Text.Position

/-!
# Lines of a text

A text is a list of characters. It is cut into raw lines after every line break, each raw line
keeping its break, so the raw lines put together are the text. `\r\n` is one break; the other
breaks are `\n`, `\r`, U+000B, U+000C, U+0085, U+2028 and U+2029. A text with `n` breaks has
`n + 1` lines, the last possibly empty.

What a line shows is less than its raw text only by a trailing `\n`, `\r` or `\r\n`; the other
breaks stay visible as characters of their line.

## Main definitions

* `breaksAfter` — whether a line ends after a character, given what follows.
* `rawLines` — the lines with their breaks.
* `dropTerminator`, `terminatorLength` — the shown part of a raw line, and what it lacks.
* `locate` — the line and column of an offset.
-/

namespace EditorPane

/-- A text is the list of its characters; offsets and lengths count characters. -/
abbrev Text := List Char

/-! ## Cutting -/

/-- The characters that can end a line. -/
def isLineBreak (c : Char) : Bool :=
  c == '\n' || c == '\r' || c == '\x0b' || c == '\x0c' || c == '\u0085' || c == '\u2028'
    || c == '\u2029'

/-- A line ends after `c` when `c` is a break, unless it is the `\r` of a `\r\n`. -/
def breaksAfter (c : Char) (following : Text) : Bool :=
  isLineBreak c && !(c == '\r' && following.head? == some '\n')

/-- Put a character in front of the first line. -/
def consFirst (c : Char) : List Text → List Text
  | [] => [[c]]
  | l :: ls => (c :: l) :: ls

/-- The lines of a text, each with its break. -/
def rawLines : Text → List Text
  | [] => [[]]
  | c :: rest =>
    if breaksAfter c rest then [c] :: rawLines rest else consFirst c (rawLines rest)

@[simp] theorem flatten_consFirst (c : Char) (ls : List Text) :
    (consFirst c ls).flatten = c :: ls.flatten := by
  cases ls <;> simp [consFirst]

/-- The raw lines put together are the text. -/
@[simp] theorem flatten_rawLines (t : Text) : (rawLines t).flatten = t := by
  induction t with
  | nil => rfl
  | cons c rest ih =>
    rw [rawLines]
    split <;> simp [ih]

theorem consFirst_ne_nil (c : Char) (ls : List Text) : consFirst c ls ≠ [] := by
  cases ls <;> simp [consFirst]

theorem rawLines_ne_nil (t : Text) : rawLines t ≠ [] := by
  cases t with
  | nil => simp [rawLines]
  | cons c rest =>
    rw [rawLines]
    split
    · simp
    · exact consFirst_ne_nil _ _

theorem length_rawLines_pos (t : Text) : 0 < (rawLines t).length :=
  List.length_pos_iff.2 (rawLines_ne_nil t)

/-! ## Terminators -/

/-- `l` without its last character if that is `c`. -/
def dropLastIf (c : Char) (l : Text) : Text :=
  if l.getLast? = some c then l.dropLast else l

/-- The shown part of a raw line: one `\n` and then one `\r` are taken off its end. -/
def dropTerminator (raw : Text) : Text := dropLastIf '\r' (dropLastIf '\n' raw)

/-- How many characters of a raw line are not shown. -/
def terminatorLength (raw : Text) : Nat :=
  match raw.reverse with
  | '\n' :: '\r' :: _ => 2
  | '\n' :: _ => 1
  | '\r' :: _ => 1
  | _ => 0

/-! ## Offsets -/

/-- The position of an offset in the given raw lines, the first of which is line `line`. An
offset past the last line counts as a column of it. -/
def locate (line : Nat) : List Text → Nat → Position
  | [], offset => ⟨line, offset⟩
  | [_], offset => ⟨line, offset⟩
  | l :: rest, offset =>
    if offset < l.length then ⟨line, offset⟩ else locate (line + 1) rest (offset - l.length)

end EditorPane
