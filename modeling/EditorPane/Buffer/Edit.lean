import EditorPane.Buffer.Basic

/-!
# Editing a buffer

Text is inserted at a valid position and deleted or replaced over a span whose start is valid and
whose last line exists; the end of the span is clamped to its line, break included. Every accepted
edit replaces a range of offsets by new text, moves the tags along and is reported once. A refused
edit changes nothing.

## Main definitions

* `Document.range?` — the offsets a span addresses.
* `Buffer.splice` — replacing a range of offsets.
* `Buffer.insert`, `Buffer.delete`, `Buffer.replace`, `Buffer.setText` — the edits.
-/

namespace EditorPane

/-- The offsets that a span addresses, if its start is valid and its last line exists. -/
def Document.range? (d : Document) (s : Span) : Option (Nat × Nat) :=
  match d.offset? s.start, d.lineLength? s.stop.line with
  | some start, some _ =>
    let stop := d.clampedOffset s.stop
    if stop < start then none else some (start, stop)
  | _, _ => none

namespace Buffer

/-- Replace the text from `start` up to `stop` by `new`, and report it. -/
def splice (b : Buffer) (kind : MutationKind) (start stop : Nat) (new : Text) :
    MutationEvent × Buffer :=
  let event : MutationEvent := ⟨kind, b.version + 1, start, start + new.length⟩
  (event, { b with
    document := (b.document.delete start (stop - start)).insert start new
    layers := (b.layers.afterDeletion start stop).afterInsertion start new.length
  }.notify event)

/-- The text between two offsets of the text gives way to the new one. -/
theorem text_splice (b : Buffer) (kind : MutationKind) {start stop : Nat} (new : Text)
    (hle : start ≤ stop) (hstart : start ≤ b.document.charCount) :
    (b.splice kind start stop new).2.text = b.text.take start ++ new ++ b.text.drop stop := by
  have hlen : (b.document.text.take start).length = start := by
    rw [List.length_take]
    exact Nat.min_eq_left hstart
  simp only [splice, text, document_notify, Document.text_insert, Document.text_delete,
    Nat.add_sub_cancel' hle, List.take_left' hlen, List.drop_left' hlen]

@[simp] theorem layers_splice (b : Buffer) (kind : MutationKind) (start stop : Nat) (new : Text) :
    (b.splice kind start stop new).2.layers
      = (b.layers.afterDeletion start stop).afterInsertion start new.length := rfl

@[simp] theorem version_splice (b : Buffer) (kind : MutationKind) (start stop : Nat) (new : Text) :
    (b.splice kind start stop new).2.version = b.version + 1 := rfl

/-- Insert `new` at `p`. -/
def insert (b : Buffer) (p : Position) (new : Text) : Except BufferError (MutationEvent × Buffer) :=
  match b.document.offset? p with
  | some offset => .ok (b.splice .insert offset offset new)
  | none => .error (.invalidPosition p)

/-- Delete the text under `s`. -/
def delete (b : Buffer) (s : Span) : Except BufferError (MutationEvent × Buffer) :=
  match b.document.range? s with
  | some (start, stop) => .ok (b.splice .delete start stop [])
  | none => .error (.invalidSpan s)

/-- Replace the text under `s` by `new`. -/
def replace (b : Buffer) (s : Span) (new : Text) : Except BufferError (MutationEvent × Buffer) :=
  match b.document.range? s with
  | some (start, stop) => .ok (b.splice .replace start stop new)
  | none => .error (.invalidSpan s)

/-- The span of the whole text. -/
def wholeSpan (b : Buffer) : Span :=
  Span.between ⟨1, 0⟩ (b.document.positionAt b.document.charCount)

/-- Replace the whole text by `new`. -/
def setText (b : Buffer) (new : Text) : MutationEvent × Buffer :=
  b.splice .replace 0 b.document.charCount new

end Buffer

end EditorPane
