import EditorPane.Buffer.Command
import EditorPane.Proofs.Text.Offsets

/-!
# What requests do to a buffer

Every accepted edit, whatever request it comes from, replaces a range of offsets of the text by new
text. An accepted request that is no edit adds a range, drops the ranges of a class or changes the
view. These are all the effects there are, so what requests preserve is shown effect by effect.

## Main definitions

* `Buffer.replacement?` — the replacement that a request asks for.
* `Buffer.Effect` — what an accepted request comes to.

## Main results

* `Buffer.effect` — every accepted request has one of the effects.
* `Buffer.bounds_of_replacement?` — replacements take place inside the text.
-/

namespace EditorPane

/-- Text to stand between two offsets in place of what is there. -/
structure Replacement where
  start : Nat
  stop : Nat
  new : Text
  deriving DecidableEq, Repr

namespace Buffer

variable {b b' : Buffer} {c : Command}

/-! ## Replacements -/

/-- The replacement that a request asks for, if it is an edit that addresses the text well. -/
def replacement? (b : Buffer) : Command → Option Replacement
  | .insert p new => (b.document.offset? p).map fun offset => ⟨offset, offset, new⟩
  | .delete s => (b.document.range? s).map fun range => ⟨range.1, range.2, []⟩
  | .replace s new => (b.document.range? s).map fun range => ⟨range.1, range.2, new⟩
  | .setText new => some ⟨0, b.document.charCount, new⟩
  | _ => none

theorem bounds_of_replacement? {r : Replacement} (h : b.replacement? c = some r) :
    r.start ≤ r.stop ∧ r.stop ≤ b.document.charCount := by
  cases c with
  | insert p new =>
    obtain ⟨offset, hoffset, rfl⟩ := Option.map_eq_some_iff.1 h
    exact ⟨Nat.le_refl _, Document.offset?_le_charCount hoffset⟩
  | delete | replace =>
    obtain ⟨range, hrange, rfl⟩ := Option.map_eq_some_iff.1 h
    exact Document.range?_bounds hrange
  | setText new =>
    cases h
    exact ⟨Nat.zero_le _, Nat.le_refl _⟩
  | _ => cases h

/-- The buffer with a replacement made and reported. -/
def replaced (b : Buffer) (kind : MutationKind) (r : Replacement) : MutationEvent × Buffer :=
  b.splice kind r.start r.stop r.new

theorem text_replaced (kind : MutationKind) {r : Replacement} (h : b.replacement? c = some r) :
    (b.replaced kind r).2.text = b.text.take r.start ++ r.new ++ b.text.drop r.stop := by
  obtain ⟨hle, hstop⟩ := bounds_of_replacement? h
  exact b.text_splice kind r.new hle (Nat.le_trans hle hstop)

theorem charCount_replaced (kind : MutationKind) {r : Replacement}
    (h : b.replacement? c = some r) : (b.replaced kind r).2.document.charCount
      = b.document.charCount - (r.stop - r.start) + r.new.length := by
  obtain ⟨hle, hstop⟩ := bounds_of_replacement? h
  have hcount : b.text.length = b.document.charCount := rfl
  have htext := congrArg List.length (text_replaced kind h)
  simp only [List.length_append, List.length_take, List.length_drop, hcount] at htext
  change (b.replaced kind r).2.text.length = _
  omega

/-! ## Effects -/

/-- What an accepted request comes to: a replacement, a range more, the ranges of a class less, or
another view of the same text. -/
inductive Effect (b : Buffer) (c : Command) : Option MutationEvent → Buffer → Prop where
  | edit (kind : MutationKind) (r : Replacement) (isEdit : b.replacement? c = some r) :
      Effect b c (some (b.replaced kind r).1) (b.replaced kind r).2
  | tag (v : VisualClass) (start stop : Nat) (nonempty : start < stop)
      (inside : stop ≤ b.document.charCount) :
      Effect b c none { b with
        layers := b.layers.insert v ⟨start, stop, b.nextSeq⟩
        nextSeq := b.nextSeq + 1 }
  | untag (v : VisualClass) : Effect b c none (b.untag v)
  | view (v : Viewport) (m : CellMetrics) (w : Nat) (onScreen : v = b.viewport ∨ 0 < v.firstLine)
      (wide : w = b.tabWidth ∨ 0 < w) :
      Effect b c none { b with viewport := v, metrics := m, tabWidth := w }

theorem Effect.of_tag {s : Span} {v : VisualClass} (h : b.tag s v = .ok b') :
    Effect b c none b' := by
  obtain ⟨start, stop, hrange, ⟨hlt, rfl⟩ | ⟨-, rfl⟩⟩ := tag_cases h
  · exact .tag v start stop hlt (Document.range?_bounds hrange).2
  · exact .view _ _ _ (.inl rfl) (.inl rfl)

theorem Effect.of_setViewport (b : Buffer) (v : Viewport) :
    Effect b c none (b.setViewport v) :=
  .view _ _ _ (.inr (Nat.le_max_right v.firstLine 1)) (.inl rfl)

/-- Every accepted request has one of the effects. -/
theorem effect {event : Option MutationEvent} (h : b.run? c = .ok (event, b')) :
    Effect b c event b' := by
  cases c with
  | insert p new =>
    simp only [run?, insert] at h
    split at h
    · next offset hoffset =>
      cases h
      exact .edit .insert ⟨offset, offset, new⟩ (by rw [replacement?, hoffset]; rfl)
    · cases h
  | delete | replace =>
    simp only [run?, delete, replace] at h
    split at h
    · next start stop hrange =>
      cases h
      exact .edit _ ⟨start, stop, _⟩ (by rw [replacement?, hrange]; rfl)
    · cases h
  | setText new =>
    cases h
    exact .edit .replace ⟨0, b.document.charCount, new⟩ rfl
  | tag s v =>
    simp only [run?] at h
    cases htag : b.tag s v with
    | ok b'' =>
      rw [htag] at h
      cases h
      exact .of_tag htag
    | error e =>
      rw [htag] at h
      cases h
  | untag v =>
    cases h
    exact .untag v
  | setViewport v =>
    cases h
    exact .of_setViewport b v
  | scrollTo line cell =>
    cases h
    exact .of_setViewport b _
  | resize width height =>
    cases h
    exact .of_setViewport b _
  | setMetrics m =>
    cases h
    exact .view _ _ _ (.inl rfl) (.inl rfl)
  | setTabWidth n =>
    cases h
    exact .view _ _ _ (.inl rfl) (.inr (Nat.le_max_right n 1))

/-- An accepted request that is no edit leaves the text as it is. -/
theorem document_of_run?_none (h : b.run? c = .ok (none, b')) : b'.document = b.document := by
  cases effect h with
  | tag | untag | view => rfl

theorem run_of_ok {event : Option MutationEvent} (h : b.run? c = .ok (event, b')) :
    b.run c = b' := by
  rw [run, h]

/-- A request that is refused does nothing, any other has an effect. -/
theorem run_eq_self_or_effect (b : Buffer) (c : Command) :
    b.run c = b ∨ ∃ event, Effect b c event (b.run c) := by
  cases h : b.run? c with
  | error e => exact .inl (by rw [run, h])
  | ok r =>
    obtain ⟨event, b'⟩ := r
    refine .inr ⟨event, ?_⟩
    rw [run_of_ok h]
    exact effect h

end Buffer

end EditorPane
