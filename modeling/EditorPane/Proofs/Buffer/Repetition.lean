import EditorPane.Proofs.Buffer.FullRepaint
import EditorPane.Proofs.Buffer.Store

/-!
# Applying a batch again

A repaint makes the foreground from nothing, so the second of two repaints with the same batch makes
the foreground of the first. The background is another matter: it is not cleared, so errors among
the commands are tagged once more beside the ranges they already have. The new ranges cover the
same characters, and nothing but the ranges and their number tells that they are there twice. A
batch leaves a buffer exactly as it was the first time if none of its errors addresses text, and
only then.

## Main definitions

* `Buffer.errorRanges` — what the errors of a batch tag.

## Main results

* `Buffer.isTagged_error_repaint_again`, `Buffer.tagCount_repaint_again`,
  `Buffer.taggedSpans_error_repaint_again_iff` — what becomes of the errors.
* `Buffer.apply_again_repeats_only_errors` — applying a batch twice.
* `Buffer.apply_again_doubles_error` — an error is tagged twice.
-/

namespace EditorPane.Buffer

variable {b : Buffer} {batch : List DecorationCommand} {offset : Nat}

/-- The ranges that the errors of a batch tag. -/
def errorRanges (b : Buffer) (batch : List DecorationCommand) : List (Nat × Nat) :=
  batch.filterMap (DecorationCommand.rangeIn? b.document .error)

/-! ## The errors of a repaint -/

theorem document_repaint (b : Buffer) (batch : List DecorationCommand) :
    (b.repaint batch).2.document = b.document := (SameView.repaint b batch).document

theorem errorRanges_repaint (b : Buffer) (batch other : List DecorationCommand) :
    (b.repaint batch).2.errorRanges other = b.errorRanges other := by
  rw [errorRanges, document_repaint, errorRanges]

theorem perm_errors_repaint (b : Buffer) (batch : List DecorationCommand) :
    ((b.repaint batch).2.taggedRanges .error).Perm
      (b.errorRanges batch ++ b.taggedRanges .error) :=
  b.perm_taggedRanges_repaint batch .error

/-- A repaint whose errors address no text keeps the errors there are. -/
theorem taggedSpans_error_repaint (h : b.errorRanges batch = []) :
    (b.repaint batch).2.taggedSpans .error = b.taggedSpans .error := by
  have hkept : (b.clearForeground.tagAll batch).2.layers.get .error
      = b.clearForeground.layers.get .error := by
    refine get_tagAll_of_forall_eq_none _ ?_
    rwa [document_clearForeground, ← List.filterMap_eq_nil_iff]
  have hclear : b.clearForeground.layers.get .error = b.layers.get .error := by
    rw [clearForeground_eq, get_foldl_erase]
    exact if_neg (by decide)
  rw [taggedSpans, document_repaint, repaint, hkept, hclear, taggedSpans]

/-! ## The errors of a second repaint -/

/-- The second time, errors are tagged where they were tagged the first time. -/
theorem isTagged_error_repaint_again (b : Buffer) (batch : List DecorationCommand) :
    ((b.repaint batch).2.repaint batch).2.layers.IsTagged .error offset ↔
      (b.repaint batch).2.layers.IsTagged .error offset := by
  have hagain := (b.repaint batch).2.perm_errors_repaint batch
  rw [errorRanges_repaint] at hagain
  simp only [isTagged_iff_exists_mem_taggedRanges, hagain.mem_iff,
    (b.perm_errors_repaint batch).mem_iff, List.mem_append]
  grind

theorem backgroundAt_repaint_again (hb : b.Reachable) (batch : List DecorationCommand)
    (p : Position) : ((b.repaint batch).2.repaint batch).2.backgroundAt p
      = (b.repaint batch).2.backgroundAt p := by
  have honce : (b.repaint batch).2.Reachable := hb.clearForeground.tagAll batch
  have htwice : ((b.repaint batch).2.repaint batch).2.Reachable :=
    honce.clearForeground.tagAll batch
  simp only [backgroundAt, dominantAt, document_repaint]
  cases b.document.offset? p with
  | none => rfl
  | some offset =>
    -- Errors are alone in the background.
    have halone {c : VisualClass} (hc : c.layer = .background) : c = .error := by
      cases c <;> first | rfl | cases hc
    refine Layers.dominantAt_congr_of_isTagged (fun c _ => htwice.kept.wellFormed c)
      (fun c _ => honce.kept.wellFormed c) ?_ ?_
    · intro c hc
      rw [halone hc]
      exact isTagged_error_repaint_again b batch
    · intro c d hc hd _ _ _
      rw [halone hc, halone hd]

theorem tagCount_repaint_again (b : Buffer) (batch : List DecorationCommand) :
    ((b.repaint batch).2.repaint batch).2.tagCount
      = (b.repaint batch).2.tagCount + (b.errorRanges batch).length := by
  have herrors := (b.perm_errors_repaint batch).length_eq
  rw [List.length_append] at herrors
  rw [tagCount_repaint, tagCount_repaint b, document_repaint]
  omega

/-- The ranges of errors are those of the first time only if no error has added to them. -/
theorem taggedSpans_error_repaint_again_iff (b : Buffer) (batch : List DecorationCommand) :
    ((b.repaint batch).2.repaint batch).2.taggedSpans .error
      = (b.repaint batch).2.taggedSpans .error ↔ b.errorRanges batch = [] := by
  constructor
  · intro hsame
    have hlength := congrArg List.length hsame
    have hagain := ((b.repaint batch).2.perm_errors_repaint batch).length_eq
    rw [length_taggedSpans, length_taggedSpans] at hlength
    rw [errorRanges_repaint, List.length_append] at hagain
    exact List.eq_nil_of_length_eq_zero (by omega)
  · intro hnone
    exact taggedSpans_error_repaint ((errorRanges_repaint b batch batch).trans hnone)

/-! ## A batch twice -/

/-- Apply a batch of any commands twice in a row to any buffer. The second report is the first one
again, and so is the foreground, its spans and what shows of it at every position; at every position
the same background shows. Only errors leave something behind: each that addresses text has one more
range after the second time than after the first. So the spans of every class and their number are
those of the first time exactly if the batch has no such error. -/
theorem apply_again_repeats_only_errors (hb : b.Attained) (d : Decorator)
    (batch : List DecorationCommand) :
    let once := d.apply b batch
    let twice := once.2.2.apply once.2.1 batch
    twice.1 = once.1 ∧
    twice.2.1.SameForeground once.2.1 ∧
    (∀ p, twice.2.1.backgroundAt p = once.2.1.backgroundAt p) ∧
    (twice.2.1.taggedRanges .error).Perm
      (b.errorRanges batch ++ once.2.1.taggedRanges .error) ∧
    twice.2.1.tagCount = once.2.1.tagCount + (b.errorRanges batch).length ∧
    ((∀ v, twice.2.1.taggedSpans v = once.2.1.taggedSpans v) ↔ b.errorRanges batch = []) := by
  intro once twice
  obtain ⟨hreport, hsame⟩ := repaint_congr (document_repaint b batch) batch
  refine ⟨hreport, hsame, backgroundAt_repaint_again hb.reachable batch, ?_,
    b.tagCount_repaint_again batch, fun hspans => ?_, fun hnone v => ?_⟩
  · have herrors := once.2.1.perm_errors_repaint batch
    rwa [show once.2.1.errorRanges batch = b.errorRanges batch from
      errorRanges_repaint b batch batch] at herrors
  · exact (b.taggedSpans_error_repaint_again_iff batch).1 (hspans .error)
  · by_cases hv : v.layer = .foreground
    · exact hsame.taggedSpans v hv
    · have herror : v = .error := by cases v <;> first | rfl | exact absurd rfl hv
      rw [herror]
      exact (b.taggedSpans_error_repaint_again_iff batch).2 hnone

/-- A buffer with an error is repainted twice with overlapping commands, one that has lost its text,
one that lost its line, and an error. All but the error come out as before. -/
theorem apply_again_repeats_error_beside_words :
    let b := (ofText "ab\ncd".toList 2).run (.tag (.singleChar ⟨2, 0⟩) .error)
    let batch : List DecorationCommand := [⟨.keyword, .between ⟨1, 0⟩ ⟨1, 2⟩⟩,
      ⟨.string, .between ⟨1, 1⟩ ⟨2, 1⟩⟩, ⟨.int, .between ⟨2, 2⟩ ⟨2, 4⟩⟩,
      ⟨.comment, .between ⟨3, 0⟩ ⟨3, 1⟩⟩, ⟨.error, .between ⟨1, 1⟩ ⟨1, 2⟩⟩]
    let once := (default : Decorator).apply b batch
    let twice := once.2.2.apply once.2.1 batch
    b.Attained ∧ twice.1 = once.1 ∧ once.1.applied = 4 ∧ once.1.skipped = 1 ∧
      twice.2.1.taggedSpans .string = [.between ⟨1, 1⟩ ⟨2, 1⟩] ∧
      twice.2.1.foregroundAt ⟨1, 1⟩ = some .string ∧
      twice.2.1.backgroundAt ⟨1, 1⟩ = some .error ∧
      once.2.1.tagCount = 4 ∧ twice.2.1.tagCount = 5 := by
  intro b batch once twice
  have hattained : b.Attained := .run (.ofText _ _) _
  obtain ⟨hreport, hsame, hbackground, -, hcount, -⟩ :=
    apply_again_repeats_only_errors hattained default batch
  refine ⟨hattained, ?_, by decide +kernel, by decide +kernel, ?_, ?_, ?_, by decide +kernel, ?_⟩
  · rw [hreport]
  · rw [hsame.taggedSpans .string rfl]
    decide +kernel
  · rw [hsame.foregroundAt]
    decide +kernel
  · rw [hbackground]
    decide +kernel
  · rw [hcount]
    decide +kernel

/-- A batch of one error, applied twice, leaves two ranges where it left one. -/
theorem apply_again_doubles_error :
    let b := ofText "ab".toList 2
    let batch : List DecorationCommand := [⟨.error, .between ⟨1, 0⟩ ⟨1, 1⟩⟩]
    let once := (default : Decorator).apply b batch
    let twice := once.2.2.apply once.2.1 batch
    b.Attained ∧ once.2.1.tagCount = 1 ∧ twice.2.1.tagCount = 2 ∧
      once.2.1.taggedSpans .error = [.between ⟨1, 0⟩ ⟨1, 1⟩] ∧
      twice.2.1.taggedSpans .error = [.between ⟨1, 0⟩ ⟨1, 1⟩, .between ⟨1, 0⟩ ⟨1, 1⟩] := by
  intro b batch once twice
  exact ⟨.ofText _ _, by decide +kernel, by decide +kernel, by decide +kernel, by decide +kernel⟩

end EditorPane.Buffer
