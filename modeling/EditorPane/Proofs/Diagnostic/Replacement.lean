import EditorPane.Proofs.Buffer.Batch
import EditorPane.Proofs.View.Boxes

/-!
# A list of errors replaces the one before

The tags, the log and the markers of a list of errors are made one after the other. An error is
tagged if the line it names has its column, end of line included, and a marker is placed by the text
that the line shows; these come to the same. So an error is either tagged or counted as skipped, and
a skipped one has no marker on screen. Nothing is left of what was shown before.

## Main definitions

* `ErrorSurface.Replaced` — what is shown once a list of errors has been passed on.

## Main results

* `DiagnosticsLog.isClean_ofErrors_iff`, `Document.isSome_range?_singleChar` — when the log is
  clean and an error is tagged.
* `Buffer.perm_taggedRanges_tagErrors`, `Buffer.skipped_tagErrors` — what becomes of the tags.
* `ErrorSurface.replaced_sync` — what becomes of everything.
-/

namespace EditorPane

/-! ## The log -/

theorem SyntaxError.head?_logLine (e : SyntaxError) : e.logLine.toList.head? = some 'L' := by
  simp [logLine, ToString.toString]

/-- No error is logged as there being none. -/
theorem SyntaxError.logLine_ne_noErrors (e : SyntaxError) :
    e.logLine ≠ DiagnosticsLog.noErrors := by
  intro h
  have hfirst := e.head?_logLine
  rw [h] at hfirst
  exact absurd hfirst (by decide)

theorem DiagnosticsLog.isClean_ofErrors_iff {errors : List SyntaxError} :
    (ofErrors errors).isClean = true ↔ errors = [] := by
  cases errors with
  | nil => simp [ofErrors, isClean]
  | cons e rest => simp [ofErrors, isClean, e.logLine_ne_noErrors]

/-! ## Errors that point into the text -/

/-- A character can be tagged if its position is valid, though it may be no more than the end of a
line. -/
theorem Document.isSome_range?_singleChar (d : Document) (p : Position) :
    (d.range? (.singleChar p)).isSome = d.isValid p := by
  cases hvalid : d.isValid p with
  | false => simp [range?, offset?, hvalid]
  | true =>
    have hoffset : d.offset? p = some (d.lineStart p.line + p.column) := if_pos hvalid
    obtain ⟨raw, hraw, -⟩ := offset?_eq_some hoffset
    rw [Span.singleChar, range?_between hoffset (p.le_moveRight 1) hraw]
    rfl

/-! ## Tags -/

namespace Buffer

variable (b : Buffer) (errors : List SyntaxError)

/-- The error tags are those of the new list, whatever was tagged before. -/
theorem perm_taggedRanges_tagErrors :
    ((ErrorSurface.tagErrors b errors).2.taggedRanges .error).Perm
      (errors.filterMap fun e => b.document.nonemptyRange? e.anchor) := by
  have hempty : (b.untag .error).taggedRanges .error = [] := by
    simp [taggedRanges, Layers.get_erase]
  have htagged := perm_taggedRanges_tagAll (c := .error) (b.untag .error)
    (errors.map fun e => ⟨.error, e.anchor⟩)
  rw [hempty, List.append_nil, List.filterMap_map] at htagged
  simpa [ErrorSurface.tagErrors, Function.comp_def, DecorationCommand.rangeIn?] using htagged

theorem skipped_tagErrors : (ErrorSurface.tagErrors b errors).1.skipped
    = errors.countP fun e => !b.document.isValid e.position := by
  rw [ErrorSurface.tagErrors, skipped_tagAll, List.countP_map]
  apply List.countP_congr
  intro e _
  simp [SyntaxError.anchor, ← Document.isSome_range?_singleChar]

theorem get_tagErrors_of_foreground {v : VisualClass} (hv : v.layer = .foreground) :
    (ErrorSurface.tagErrors b errors).2.layers.get v = b.layers.get v := by
  have hne : VisualClass.error ≠ v := by
    rintro rfl
    cases hv
  rw [ErrorSurface.tagErrors, get_tagAll_of_forall_ne _ (by simpa using fun _ _ => hne),
    layers_untag, Layers.get_erase, if_neg hne]

end Buffer

/-! ## All that is shown -/

/-- The surface `s` and the buffer `b` were given the list of errors `new`, which left them as `s'`
and `b'` with a report. -/
structure ErrorSurface.Replaced (new : List SyntaxError) (s s' : ErrorSurface) (b b' : Buffer)
    (report : SyncReport) : Prop where
  errors : s'.errors = new
  /-- There is a marker for each error, at its place and without the pointer. -/
  markers : s'.markers.map (fun m => (m.error, m.anchor, m.hovered))
    = new.map fun e => (e, ⟨e.line, e.column⟩, false)
  log : s'.log.lines = if new = [] then [DiagnosticsLog.noErrors]
    else new.map fun e => s!"Line {e.line}:{e.column} {e.message}"
  clean : s'.log.isClean = true ↔ new = []
  /-- An error is tagged over what its anchor addresses, unless that is no text. -/
  tagged : (b'.taggedRanges .error).Perm (new.filterMap fun e => b.document.nonemptyRange? e.anchor)
  received : report.errors = new.length
  decorated : report.decorated + report.skipped = new.length
  skipped : report.skipped = new.countP fun e => !b.document.isValid e.position
  /-- What is skipped is not drawn. -/
  hidden : ∀ m ∈ s'.markers, b.document.isValid m.anchor = false → m.isVisible = false
  text : b'.text = b.text
  foreground : ∀ v : VisualClass, v.layer = .foreground → b'.layers.get v = b.layers.get v
  subscribers : s'.subscribers = s.subscribers.map (· ++ [new])

namespace ErrorSurface

theorem mem_markers_sync {s : ErrorSurface} {b : Buffer} {errors : List SyntaxError} {m : Marker} :
    m ∈ (s.sync b errors).2.2.markers ↔ ∃ e ∈ errors,
      (Marker.ofError e).reposition s.geometry (tagErrors b errors).2 = m :=
  List.mem_map

/-- Whatever a surface and a buffer showed about errors, afterwards they show the new list. Its
errors are accounted for one by one in the markers and the log, and as tags or as skipped in the
report; the rest of the buffer stays; each subscriber is told once. -/
theorem replaced_sync (s : ErrorSurface) (b : Buffer) (errors : List SyntaxError) :
    Replaced errors s (s.sync b errors).2.2 b (s.sync b errors).2.1 (s.sync b errors).1 where
  errors := rfl
  markers := by
    change (errors.map _).map _ = _
    rw [List.map_map]
    apply List.map_congr_left
    intro e _
    simp only [Function.comp_apply, Marker.error_reposition, Marker.anchor_reposition,
      Marker.hovered_reposition_ofError]
    rfl
  log := by
    change (DiagnosticsLog.ofErrors errors).lines = _
    cases errors <;> rfl
  clean := DiagnosticsLog.isClean_ofErrors_iff
  tagged := b.perm_taggedRanges_tagErrors errors
  received := rfl
  decorated := by
    have hcount := (b.untag .error).applied_add_skipped_tagAll
      (errors.map fun e => ⟨.error, e.anchor⟩)
    rwa [List.length_map] at hcount
  skipped := b.skipped_tagErrors errors
  hidden := by
    intro m hm hvalid
    obtain ⟨e, -, rfl⟩ := mem_markers_sync.1 hm
    rw [Marker.anchor_reposition] at hvalid
    have hbox := Buffer.box?_eq_none_of_not_valid hvalid
    rw [Marker.isVisible_reposition, (Buffer.SameView.tagErrors b errors).box?_eq, hbox]
    rfl
  text := congrArg Document.text (Buffer.SameView.tagErrors b errors).document
  foreground := fun v hv => b.get_tagErrors_of_foreground errors hv
  subscribers := rfl

/-- Two errors at one character, one at the line break, one at the end of the text, and two that
point outside. -/
example :
    let b := Buffer.ofText "a\n".toList 2
    let places : List (Nat × Nat) := [(1, 0), (2, 0), (3, 0), (1, 1), (1, 2), (1, 0)]
    let errors := places.map fun (line, column) => ⟨line, column, "mismatched input"⟩
    let (report, b', s') := (empty default).sync b errors
    report.decorated = 4 ∧ report.skipped = 2 ∧
      b'.taggedRanges .error = [(0, 1), (0, 1), (1, 2)] ∧
      s'.markers.map Marker.isVisible = [true, true, false, true, false, true] := by
  decide +kernel

end ErrorSurface

end EditorPane
