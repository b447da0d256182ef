import EditorPane.Buffer.Tag

/-!
# Decorating a buffer

A batch of decoration commands says which spans to tag with which classes. Applying a batch is a
full repaint: all foreground tags go and the commands are tagged in order. A command that
addresses text which is not there is left out and reported. Background tags stay.

## Main definitions

* `DecorationCommand`, `TagReport` — what to tag, and what came of it.
* `Buffer.clearForeground`, `Buffer.tagAll`, `Buffer.repaint`.
* `Decorator` — counts the batches it applies.
-/

namespace EditorPane

/-- Tag a span with a class. -/
structure DecorationCommand where
  visualClass : VisualClass
  span : Span
  deriving DecidableEq, Repr

/-- What came of a list of commands: how many were accepted, and those that were refused. -/
structure TagReport where
  applied : Nat
  rejected : List (DecorationCommand × BufferError)
  deriving DecidableEq, Repr

/-- The number of commands refused. -/
def TagReport.skipped (r : TagReport) : Nat := r.rejected.length

namespace Buffer

/-- Drop the tags of every foreground class. -/
def clearForeground (b : Buffer) : Buffer :=
  (VisualClass.all.filter fun c => c.layer = .foreground).foldl untag b

/-- Tag by each command in order. -/
def tagAll (b : Buffer) : List DecorationCommand → TagReport × Buffer
  | [] => (⟨0, []⟩, b)
  | c :: rest =>
    match b.tag c.span c.visualClass with
    | .ok b' =>
      let (report, last) := b'.tagAll rest
      (⟨report.applied + 1, report.rejected⟩, last)
    | .error e =>
      let (report, last) := b.tagAll rest
      (⟨report.applied, (c, e) :: report.rejected⟩, last)

/-- Replace all foreground tags by those of a batch. -/
def repaint (b : Buffer) (batch : List DecorationCommand) : TagReport × Buffer :=
  b.clearForeground.tagAll batch

/-- Every command is either accepted or refused. -/
theorem applied_add_skipped_tagAll (b : Buffer) (batch : List DecorationCommand) :
    (b.tagAll batch).1.applied + (b.tagAll batch).1.skipped = batch.length := by
  induction batch generalizing b with
  | nil => rfl
  | cons c rest ih =>
    rw [tagAll]
    split
    · next b' _ =>
      have := ih b'
      simp only [TagReport.skipped, List.length_cons] at *
      omega
    · have := ih b
      simp only [TagReport.skipped, List.length_cons] at *
      omega

/-- What every tag call of a batch keeps, the batch keeps. -/
theorem tagAll_keeps {motive : Buffer → Prop} {b : Buffer} {batch : List DecorationCommand}
    (hb : motive b)
    (htag : ∀ b b' c, c ∈ batch → motive b → b.tag c.span c.visualClass = .ok b' → motive b') :
    motive (b.tagAll batch).2 := by
  induction batch generalizing b with
  | nil => exact hb
  | cons c rest ih =>
    have hrest {b : Buffer} (hb : motive b) : motive (b.tagAll rest).2 := by
      apply ih hb
      intro b b' d hd
      exact htag b b' d (List.mem_cons_of_mem c hd)
    rw [tagAll]
    split
    · next b' h => exact hrest (htag b b' c List.mem_cons_self hb h)
    · exact hrest hb

@[simp] theorem document_tagAll (b : Buffer) (batch : List DecorationCommand) :
    (b.tagAll batch).2.document = b.document := by
  refine tagAll_keeps (motive := fun b' => b'.document = b.document) rfl ?_
  intro _ _ _ _ hb htag
  exact (document_of_tag htag).trans hb

end Buffer

/-- Applies batches and counts them. -/
structure Decorator where
  batches : Nat
  deriving DecidableEq, Repr, Inhabited

/-- Repaint a buffer. -/
def Decorator.apply (d : Decorator) (b : Buffer) (batch : List DecorationCommand) :
    TagReport × Buffer × Decorator :=
  let (report, b') := b.repaint batch
  (report, b', ⟨d.batches + 1⟩)

end EditorPane
