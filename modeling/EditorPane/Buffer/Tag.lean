import EditorPane.Buffer.Edit

/-!
# Tagging a buffer

A span is tagged with a class under the same conditions as it is edited. Tags that cover no text
are accepted and forgotten. Every other tag call gets a number of its own, larger than those
before it.

## Main definitions

* `Buffer.tag`, `Buffer.untag` — adding a range and dropping all ranges of a class.
* `Buffer.taggedSpans`, `Buffer.tagCount`, `Buffer.classesAt` — what is tagged.
* `Buffer.foregroundAt`, `Buffer.backgroundAt` — what shows.
-/

namespace EditorPane

namespace Buffer

/-- Tag the text under `s` with `c`. -/
def tag (b : Buffer) (s : Span) (c : VisualClass) : Except BufferError Buffer :=
  match b.document.range? s with
  | none => .error (.invalidSpan s)
  | some (start, stop) =>
    if start < stop then
      .ok { b with
        layers := b.layers.insert c ⟨start, stop, b.nextSeq⟩
        nextSeq := b.nextSeq + 1 }
    else .ok b

/-- Drop every range tagged with `c`. -/
def untag (b : Buffer) (c : VisualClass) : Buffer := { b with layers := b.layers.erase c }

/-- An accepted tag call adds a range with the next number, or there is no text to tag and it does
nothing. -/
theorem tag_cases {b b' : Buffer} {s : Span} {c : VisualClass} (h : b.tag s c = .ok b') :
    ∃ start stop, b.document.range? s = some (start, stop) ∧
      (start < stop ∧ b' = { b with
          layers := b.layers.insert c ⟨start, stop, b.nextSeq⟩
          nextSeq := b.nextSeq + 1 } ∨
        stop ≤ start ∧ b' = b) := by
  unfold tag at h
  split at h
  · cases h
  · next start stop hrange =>
    refine ⟨start, stop, hrange, ?_⟩
    split at h
    · next hlt =>
      cases h
      exact .inl ⟨hlt, rfl⟩
    · next hge =>
      cases h
      exact .inr ⟨Nat.le_of_not_lt hge, rfl⟩

/-- Tagging leaves the text as it is. -/
theorem document_of_tag {b b' : Buffer} {s : Span} {c : VisualClass} (h : b.tag s c = .ok b') :
    b'.document = b.document := by
  obtain ⟨_, _, -, ⟨-, rfl⟩ | ⟨-, rfl⟩⟩ := tag_cases h <;> rfl

@[simp] theorem document_untag (b : Buffer) (c : VisualClass) :
    (b.untag c).document = b.document := rfl

@[simp] theorem layers_untag (b : Buffer) (c : VisualClass) :
    (b.untag c).layers = b.layers.erase c := rfl

/-- The spans tagged with `c`, by start. -/
def taggedSpans (b : Buffer) (c : VisualClass) : List Span :=
  (b.layers.get c).toList.map fun i =>
    Span.between (b.document.positionAt i.start) (b.document.positionAt i.stop)

/-- The number of tagged ranges of all classes. -/
def tagCount (b : Buffer) : Nat := b.layers.count

/-- The classes tagged at `p`. -/
def classesAt (b : Buffer) (p : Position) : List VisualClass :=
  match b.document.offset? p with
  | none => []
  | some offset => b.layers.classesAt offset

/-- The class of a layer that shows at `p`. -/
def dominantAt (b : Buffer) (layer : Layer) (p : Position) : Option VisualClass :=
  match b.document.offset? p with
  | none => none
  | some offset => b.layers.dominantAt layer offset

/-- The foreground class that shows at `p`. -/
def foregroundAt (b : Buffer) (p : Position) : Option VisualClass := b.dominantAt .foreground p

/-- The background class at `p`. -/
def backgroundAt (b : Buffer) (p : Position) : Option VisualClass := b.dominantAt .background p

end Buffer

end EditorPane
