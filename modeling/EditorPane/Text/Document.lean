import EditorPane.Text.Line

/-!
# Documents

A document is a text addressed both by offset and by position. A position is valid when its line
exists and its column is at most the number of characters that line shows; valid positions
convert to offsets exactly. Any other position has a nearest offset, found by clamping the line
into the document and the column to the end of the raw line, break included.

## Main definitions

* `Document.lineCount`, `Document.lineText?`, `Document.lineLength?` — lines by number.
* `Document.IsValid`, `Document.offset?`, `Document.clampedOffset`, `Document.positionAt` —
  positions to offsets and back.
* `Document.insert`, `Document.delete`, `Document.slice` — edits and parts, by offset.
-/

namespace EditorPane

/-- An addressable text. -/
structure Document where
  text : Text
  deriving DecidableEq, Repr, Inhabited

namespace Document

/-! ## Size and lines -/

/-- The number of characters. -/
def charCount (d : Document) : Nat := d.text.length

/-- The lines with their breaks. -/
def lines (d : Document) : List Text := rawLines d.text

/-- The number of lines, one more than there are breaks. -/
def lineCount (d : Document) : Nat := d.lines.length

/-- The line with the given number, break included. -/
def rawLine? (d : Document) (line : Nat) : Option Text :=
  if line = 0 then none else d.lines[line - 1]?

/-- The text a line shows. -/
def lineText? (d : Document) (line : Nat) : Option Text :=
  (d.rawLine? line).map dropTerminator

/-- The number of characters a line shows. -/
def lineLength? (d : Document) (line : Nat) : Option Nat :=
  (d.rawLine? line).map fun raw => raw.length - terminatorLength raw

/-- The offset at which a line starts; the end of the text for a line past the last. -/
def lineStart (d : Document) (line : Nat) : Nat :=
  (d.lines.take (line - 1)).flatten.length

theorem lineCount_pos (d : Document) : 0 < d.lineCount := length_rawLines_pos d.text

/-! ## Positions and offsets -/

/-- The line exists and shows at least as many characters as the column says. -/
def isValid (d : Document) (p : Position) : Bool :=
  match d.lineLength? p.line with
  | none => false
  | some n => p.column ≤ n

/-- The offset of a valid position. -/
def offset? (d : Document) (p : Position) : Option Nat :=
  if d.isValid p then some (d.lineStart p.line + p.column) else none

/-- The offset nearest to a position: the line is clamped into the document and the column to the
start of the next line. The sum is that of a machine for every column that fits a word together with
the text, see `Document.clampedOffset_eq_words`. -/
def clampedOffset (d : Document) (p : Position) : Nat :=
  let line := max 1 (min p.line d.lineCount)
  min (d.lineStart line + p.column) (d.lineStart (line + 1))

/-- The position of an offset, which is first clamped to the end of the text. -/
def positionAt (d : Document) (offset : Nat) : Position :=
  locate 1 d.lines (min offset d.charCount)

/-! ## Edits -/

/-- The document with `new` put in before the given offset. -/
def insert (d : Document) (offset : Nat) (new : Text) : Document :=
  ⟨d.text.take offset ++ new ++ d.text.drop offset⟩

/-- The document without the `count` characters from `start` on. -/
def delete (d : Document) (start count : Nat) : Document :=
  ⟨d.text.take start ++ d.text.drop (start + count)⟩

/-- The characters from `start` up to `stop`. -/
def slice (d : Document) (start stop : Nat) : Text :=
  (d.text.take stop).drop start

@[simp] theorem text_insert (d : Document) (offset : Nat) (new : Text) :
    (d.insert offset new).text = d.text.take offset ++ new ++ d.text.drop offset := rfl

@[simp] theorem text_delete (d : Document) (start count : Nat) :
    (d.delete start count).text = d.text.take start ++ d.text.drop (start + count) := rfl

theorem charCount_insert (d : Document) (offset : Nat) (new : Text) :
    (d.insert offset new).charCount = d.charCount + new.length := by
  simp only [charCount, text_insert, List.length_append, List.length_take, List.length_drop]
  omega

end Document

end EditorPane
