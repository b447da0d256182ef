import EditorPane.Proofs.Buffer.FullRepaint
import EditorPane.Proofs.Buffer.Store
import EditorPane.Proofs.Diagnostic.Replacement

/-!
# What reports count

A report counts the tag calls that were accepted. One of them tags nothing: a span that is in the
text but has no character there is accepted as well, and forgotten. So there are as many ranges as
a report says less such spans. An error has no character if it stands at the end of a line without
a break, the end of the text above all.

## Main definitions

* `Document.isBlank` — a span is in the text and has no character there.
* `Buffer.foregroundCount` — how many ranges of the foreground there are.

## Main results

* `Document.isBlank_singleChar_iff` — where single characters are blank.
* `Document.countP_isSome_range?` — a span is accepted with or without characters.
* `Buffer.foregroundCount_repaint`, `Buffer.length_errors_tagErrors` — how many ranges there are.
* `Buffer.reports_count_blank_spans` — what the reports of a batch and of a list of errors count.
* `Buffer.reports_count_ends_of_text` — a report counts what is not tagged.
-/

namespace EditorPane

/-! ## Blank spans -/

namespace Document

variable {d : Document} {s : Span} {p : Position}

/-- The span starts and ends at the same offset of the text, once its end is clamped. -/
def isBlank (d : Document) (s : Span) : Bool := (d.range? s).any fun r => r.1 = r.2

theorem isBlank_iff : d.isBlank s = true ↔ ∃ offset, d.range? s = some (offset, offset) := by
  unfold isBlank
  cases d.range? s with
  | none => simp
  | some r =>
    obtain ⟨start, stop⟩ := r
    simp [eq_comm]

/-- A character in the text is blank if it is no more than the end of a line without `\n` or `\r`:
it is behind all of its line. -/
theorem isBlank_singleChar_iff (h : p.column < maxColumn) : d.isBlank (.singleChar p) = true ↔
    ∃ raw, d.rawLine? p.line = some raw ∧ p.column = raw.length ∧ terminatorLength raw = 0 := by
  have hright : (p.moveRight 1).column = p.column + 1 := Position.column_moveRight h
  have hrange {raw : Text} (hraw : d.rawLine? p.line = some raw)
      (hoffset : d.offset? p = some (d.lineStart p.line + p.column)) : d.range? (.singleChar p)
        = some (d.lineStart p.line + p.column,
          d.lineStart p.line + min (p.column + 1) raw.length) := by
    rw [Span.singleChar, range?_between hoffset (p.le_moveRight 1) hraw, hright,
      Position.line_moveRight]
  rw [isBlank_iff]
  constructor
  · rintro ⟨offset, hblank⟩
    have hvalid := d.isSome_range?_singleChar p
    rw [hblank, Option.isSome_some] at hvalid
    have hoffset : d.offset? p = some (d.lineStart p.line + p.column) := if_pos hvalid.symm
    obtain ⟨raw, hraw, hcolumn, -⟩ := offset?_eq_some hoffset
    rw [hrange hraw hoffset, Option.some.injEq, Prod.mk.injEq] at hblank
    obtain ⟨hstart, hstop⟩ := hblank
    refine ⟨raw, hraw, by omega, ?_⟩
    rcases Nat.eq_zero_or_pos raw.length with hempty | hpos
    · rw [List.eq_nil_of_length_eq_zero hempty]
      rfl
    · omega
  · rintro ⟨raw, hraw, hcolumn, hopen⟩
    have hvalid : d.isValid p = true := by
      simp [isValid, lineLength?_of_rawLine? hraw, hopen, hcolumn]
    refine ⟨d.lineStart p.line + p.column, ?_⟩
    rw [hrange hraw (if_pos hvalid), hcolumn, Nat.min_eq_right (Nat.le_add_right _ _)]

/-- A span that is accepted has characters or is blank. -/
theorem countP_isSome_range? {α : Type} (d : Document) (span : α → Span) (l : List α) :
    l.countP (fun a => (d.range? (span a)).isSome)
      = l.countP (fun a => (d.nonemptyRange? (span a)).isSome)
        + l.countP fun a => d.isBlank (span a) := by
  induction l with
  | nil => rfl
  | cons a rest ih =>
    simp only [List.countP_cons, ih, isBlank, nonemptyRange?]
    cases hrange : d.range? (span a) with
    | none => simp
    | some r =>
      obtain ⟨start, stop⟩ := r
      rcases Nat.eq_or_lt_of_le (range?_bounds hrange).1 with rfl | hlt
      · simp [Option.filter, Nat.add_assoc]
      · simp [Option.filter, hlt, Nat.ne_of_lt hlt, Nat.add_right_comm]

end Document

namespace Buffer

variable {b : Buffer} {batch : List DecorationCommand}

/-! ## How many ranges there are -/

/-- The number of tagged ranges of all foreground classes. -/
def foregroundCount (b : Buffer) : Nat :=
  ((VisualClass.all.filter fun c => c.layer = .foreground).flatMap b.taggedSpans).length

/-- A range is one of the foreground or an error. -/
theorem tagCount_eq_foregroundCount_add (b : Buffer) :
    b.tagCount = b.foregroundCount + (b.taggedSpans .error).length := by
  have hsize (v : VisualClass) : (b.layers.get v).toList.length = (b.taggedSpans v).length :=
    (List.length_map _).symm
  simp [tagCount, Layers.count, foregroundCount, hsize, VisualClass.all, VisualClass.layer,
    Nat.add_assoc]

theorem foregroundCount_repaint (hbatch : ∀ c ∈ batch, c.visualClass.layer = .foreground) :
    (b.repaint batch).2.foregroundCount
      = batch.countP fun c => (b.document.nonemptyRange? c.span).isSome := by
  have herrors : (b.repaint batch).2.taggedRanges .error = b.taggedRanges .error := by
    have hne : ∀ c ∈ batch, c.visualClass ≠ .error := by
      intro c hc herror
      have hlayer := hbatch c hc
      rw [herror] at hlayer
      cases hlayer
    rw [taggedRanges, b.get_error_repaint hne, taggedRanges]
  have htotal := b.tagCount_repaint batch
  rw [tagCount_eq_foregroundCount_add, length_taggedSpans, herrors] at htotal
  omega

theorem length_errors_tagErrors (b : Buffer) (errors : List SyntaxError) :
    ((ErrorSurface.tagErrors b errors).2.taggedSpans .error).length
      = errors.countP fun e => (b.document.nonemptyRange? e.anchor).isSome := by
  rw [length_taggedSpans, (b.perm_taggedRanges_tagErrors errors).length_eq,
    List.length_filterMap_eq_countP]

/-! ## What is accepted -/

theorem applied_tagErrors (b : Buffer) (errors : List SyntaxError) :
    (ErrorSurface.tagErrors b errors).1.applied
      = errors.countP fun e => (b.document.range? e.anchor).isSome := by
  rw [ErrorSurface.tagErrors, applied_tagAll, List.countP_map, document_untag]
  rfl

/-- Apply a batch of foreground commands to any buffer, or pass a list of errors on to it. The
reports account for every command and every error, as accepted or as skipped. There is one range in
the foreground for each command that was accepted, and one error range for each error that was, but
for those that are blank. So the counts of the reports are the numbers of ranges if no command and
no error is blank, and only then. -/
theorem reports_count_blank_spans (b : Buffer) (d : Decorator) (s : ErrorSurface)
    (hbatch : ∀ c ∈ batch, c.visualClass.layer = .foreground) (errors : List SyntaxError) :
    let painted := d.apply b batch
    let synced := s.sync b errors
    painted.1.applied + painted.1.skipped = batch.length ∧
    painted.2.1.foregroundCount + batch.countP (fun c => b.document.isBlank c.span)
      = painted.1.applied ∧
    (painted.2.1.foregroundCount = painted.1.applied ↔
      ∀ c ∈ batch, b.document.isBlank c.span = false) ∧
    synced.1.decorated + synced.1.skipped = errors.length ∧
    (synced.2.1.taggedSpans .error).length + errors.countP (fun e => b.document.isBlank e.anchor)
      = synced.1.decorated ∧
    ((synced.2.1.taggedSpans .error).length = synced.1.decorated ↔
      ∀ e ∈ errors, b.document.isBlank e.anchor = false) := by
  intro painted synced
  have hpainted : painted.2.1.foregroundCount
      + batch.countP (fun c => b.document.isBlank c.span) = painted.1.applied :=
    calc painted.2.1.foregroundCount + batch.countP (fun c => b.document.isBlank c.span)
      _ = batch.countP (fun c => (b.document.nonemptyRange? c.span).isSome)
          + batch.countP (fun c => b.document.isBlank c.span) := by
        rw [← foregroundCount_repaint hbatch]
        rfl
      _ = batch.countP (fun c => (b.document.range? c.span).isSome) :=
        (b.document.countP_isSome_range? DecorationCommand.span batch).symm
      _ = painted.1.applied := (b.applied_repaint batch).symm
  have hsynced : (synced.2.1.taggedSpans .error).length
      + errors.countP (fun e => b.document.isBlank e.anchor) = synced.1.decorated :=
    calc (synced.2.1.taggedSpans .error).length
          + errors.countP (fun e => b.document.isBlank e.anchor)
      _ = errors.countP (fun e => (b.document.nonemptyRange? e.anchor).isSome)
          + errors.countP (fun e => b.document.isBlank e.anchor) := by
        rw [← length_errors_tagErrors]
        rfl
      _ = errors.countP (fun e => (b.document.range? e.anchor).isSome) :=
        (b.document.countP_isSome_range? SyntaxError.anchor errors).symm
      _ = synced.1.decorated := (b.applied_tagErrors errors).symm
  refine ⟨b.clearForeground.applied_add_skipped_tagAll batch, hpainted, ?_,
    (s.replaced_sync b errors).decorated, hsynced, ?_⟩
  · rw [← hpainted, eq_comm, Nat.add_eq_left, List.countP_eq_zero]
    simp only [Bool.not_eq_true]
  · rw [← hsynced, eq_comm, Nat.add_eq_left, List.countP_eq_zero]
    simp only [Bool.not_eq_true]

/-- Two lines with U+0085 between them. The batch has a range between the end of the first line and
the start of the second, and one that has lost its line; of the errors, one stands at the end of the
first line, one at the end of the text, and one outside. -/
theorem reports_count_blank_spans_next_line :
    let b := (ofText "a\u0085b".toList 2).run (.tag (.singleChar ⟨2, 0⟩) .comment)
    let batch : List DecorationCommand := [⟨.keyword, .between ⟨1, 0⟩ ⟨1, 1⟩⟩,
      ⟨.string, .between ⟨1, 2⟩ ⟨2, 0⟩⟩, ⟨.int, .between ⟨1, 1⟩ ⟨2, 9⟩⟩,
      ⟨.comment, .between ⟨3, 0⟩ ⟨3, 1⟩⟩]
    let errors : List SyntaxError := [⟨1, 0, "extraneous input"⟩, ⟨1, 2, "missing end"⟩,
      ⟨2, 1, "missing end"⟩, ⟨2, 2, "missing end"⟩]
    let painted := (default : Decorator).apply b batch
    let synced := (ErrorSurface.empty default).sync b errors
    (∀ c ∈ batch, c.visualClass.layer = .foreground) ∧
      painted.1.applied = 3 ∧ painted.1.skipped = 1 ∧ painted.2.1.foregroundCount = 2 ∧
      synced.1.decorated = 3 ∧ synced.1.skipped = 1 ∧
      (synced.2.1.taggedSpans .error).length = 1 := by
  intro b batch errors
  dsimp only
  have hbatch : ∀ c ∈ batch, c.visualClass.layer = .foreground := by decide
  obtain ⟨-, hpainted, -, -, hsynced, -⟩ :=
    reports_count_blank_spans b default (ErrorSurface.empty default) hbatch errors
  have hblank : batch.countP (fun c => b.document.isBlank c.span) = 1 := by decide +kernel
  have hblankErrors : errors.countP (fun e => b.document.isBlank e.anchor) = 2 := by
    decide +kernel
  have happlied : ((default : Decorator).apply b batch).1.applied = 2 + 1 := by decide +kernel
  have hdecorated : ((ErrorSurface.empty default).sync b errors).1.decorated = 1 + 2 := by
    decide +kernel
  rw [hblank] at hpainted
  rw [hblankErrors] at hsynced
  exact ⟨hbatch, happlied, by decide +kernel, Nat.add_right_cancel (hpainted.trans happlied),
    hdecorated, by decide +kernel, Nat.add_right_cancel (hsynced.trans hdecorated)⟩

/-- A word that is tagged past the end of the text is counted, and so is an error at the end of the
text, but there is no range for either. -/
theorem reports_count_ends_of_text :
    let b := ofText "ab".toList 2
    let painted := (default : Decorator).apply b [⟨.keyword, .between ⟨1, 2⟩ ⟨1, 5⟩⟩]
    let synced := (ErrorSurface.empty default).sync b [⟨1, 2, "missing end"⟩]
    b.Attained ∧ painted.1.applied = 1 ∧ painted.1.skipped = 0 ∧
      painted.2.1.foregroundCount = 0 ∧ synced.1.decorated = 1 ∧ synced.1.skipped = 0 ∧
      synced.2.1.taggedSpans .error = [] := by
  intro b painted synced
  exact ⟨.ofText _ _, by decide +kernel, by decide +kernel, by decide +kernel, by decide +kernel,
    by decide +kernel, by decide +kernel⟩

end Buffer

end EditorPane
