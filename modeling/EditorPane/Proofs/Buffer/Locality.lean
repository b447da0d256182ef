import EditorPane.Proofs.Buffer.Effect
import EditorPane.Proofs.Text.RoundTrip

/-!
# Edits are local

An edit can join, split, add and remove line breaks, also where the new text meets the old. Places
before it stay all the same, since what ends a line is told by the next character at the latest. The
places below the line where the edited text stops move by whole lines, and by as many as the text
has gained or lost: once a line has ended behind the edit, the columns are those of before.

## Main definitions

* `Document.KeepsPlaces` — what a replacement does to the places around it.

## Main results

* `Document.positionAt_of_take_eq` — the text before an offset decides the places there.
* `Document.positionAt_of_drop_eq` — the text behind an offset decides the places there, up to a
  shift of the lines.
* `Document.lineCount_of_drop_eq` — and the lines that are left, too.
* `Buffer.edit_is_local` — every accepted edit keeps the places around it.
-/

namespace EditorPane

theorem Position.after_congr {following following' : Text} (p : Position) (c : Char)
    (h : following'.head? = following.head?) : p.after c following' = p.after c following := by
  rw [after, after, breaksAfter, breaksAfter, h]

namespace Document

variable {d d' : Document} {p : Position} {a o start start' : Nat}

/-! ## Places before an edit -/

theorem getElem?_of_take_eq (h : d'.text.take a = d.text.take a) (ho : o < a) :
    d'.text[o]? = d.text[o]? := by
  rw [← List.getElem?_take_of_lt ho, h, List.getElem?_take_of_lt ho]

/-- The text before an offset decides the places there. -/
theorem positionAt_of_take_eq (h : d'.text.take a = d.text.take a) (ha : a ≤ d.charCount)
    (ho : o < a) : d'.positionAt o = d.positionAt o := by
  induction o with
  | zero => rw [positionAt_zero, positionAt_zero]
  | succ o ih =>
    have hlt : o < a := Nat.lt_of_succ_lt ho
    obtain ⟨c, hc⟩ := exists_getElem?_of_lt (hlt.trans_le ha)
    have hc' : d'.text[o]? = some c := (getElem?_of_take_eq h hlt).trans hc
    rw [positionAt_succ hc, positionAt_succ hc', ih hlt]
    apply Position.after_congr
    rw [List.head?_drop, List.head?_drop, getElem?_of_take_eq h ho]

/-- And it decides which positions are valid. -/
theorem offset?_of_take_eq (h : d'.text.take a = d.text.take a) (ha : a ≤ d.charCount)
    (hoffset : d.offset? p = some o) (ho : o < a) : d'.offset? p = some o := by
  have hcount : a ≤ d'.charCount := by
    have hlength := congrArg List.length h
    rw [List.length_take, List.length_take] at hlength
    unfold charCount at *
    omega
  rw [offset?_eq_some_iff] at hoffset ⊢
  refine ⟨ho.le.trans hcount, ?_⟩
  obtain ⟨-, ⟨hcolumn, hplace⟩ | ⟨n, c, rfl, hc, hshown⟩⟩ := hoffset
  · exact .inl ⟨hcolumn, by rw [positionAt_of_take_eq h ha ho, hplace]⟩
  · have hn : n < a := Nat.lt_of_succ_lt ho
    refine .inr ⟨n, c, rfl, (getElem?_of_take_eq h hn).trans hc, ?_⟩
    rwa [positionAt_of_take_eq h ha hn]

/-! ## Places behind an edit -/

/-- The text behind an offset decides the places there, up to a shift of the lines and up to the
columns of the line that the offset is on. -/
theorem positionAt_of_drop_eq (h : d'.text.drop start' = d.text.drop start) {k : Nat}
    (hk : start + k ≤ d.charCount) :
    (d'.positionAt (start' + k)).line + (d.positionAt start).line
        = (d.positionAt (start + k)).line + (d'.positionAt start').line ∧
      ((d.positionAt start).line < (d.positionAt (start + k)).line →
        (d'.positionAt (start' + k)).column = (d.positionAt (start + k)).column) := by
  induction k with
  | zero => exact ⟨Nat.add_comm _ _, fun hlt => absurd hlt (Nat.lt_irrefl _)⟩
  | succ k ih =>
    obtain ⟨hline, hcolumn⟩ := ih (Nat.le_of_succ_le hk)
    obtain ⟨c, hc⟩ : ∃ c, d.text[start + k]? = some c := exists_getElem?_of_lt hk
    have hc' : d'.text[start' + k]? = some c := by
      rw [← List.getElem?_drop, h, List.getElem?_drop, hc]
    have hrest : d'.text.drop (start' + k + 1) = d.text.drop (start + k + 1) := by
      rw [Nat.add_assoc, Nat.add_assoc, ← List.drop_drop, h, List.drop_drop]
    rw [← Nat.add_assoc, ← Nat.add_assoc, positionAt_succ hc, positionAt_succ hc', hrest]
    unfold Position.after
    -- the line goes on for both or ends for both
    split
    · exact ⟨by dsimp only; omega, fun _ => rfl⟩
    · exact ⟨hline, fun hlt => congrArg (· + 1) (hcolumn hlt)⟩

@[simp] theorem line_positionAt_charCount (d : Document) :
    (d.positionAt d.charCount).line = d.lineCount := by
  obtain ⟨raw, hraw, hcolumn, hend⟩ := isAt_positionAt (Nat.le_refl d.charCount)
  have hnext := d.lineStart_le_charCount ((d.positionAt d.charCount).line + 1)
  rw [lineStart_succ hraw] at hnext
  omega

theorem line_positionAt_le {o' : Nat} (h : o ≤ o') (ho' : o' ≤ d.charCount) :
    (d.positionAt o).line ≤ (d.positionAt o').line := by
  by_contra hlt
  have hplace := isAt_positionAt (h.trans ho')
  have hbefore := (isAt_positionAt ho').lt_of_line_lt hplace (Nat.lt_of_not_le hlt)
  omega

/-- The text behind an offset has the same number of lines after whatever comes before it. -/
theorem lineCount_of_drop_eq (h : d'.text.drop start' = d.text.drop start)
    (hstart : start ≤ d.charCount) (hstart' : start' ≤ d'.charCount) :
    d'.lineCount + (d.positionAt start).line = d.lineCount + (d'.positionAt start').line := by
  have hlength := congrArg List.length h
  rw [List.length_drop, List.length_drop, ← charCount, ← charCount] at hlength
  -- the end of the text moves like any other place there
  have hend := (positionAt_of_drop_eq h (Nat.le_of_eq (Nat.add_sub_cancel' hstart))).1
  rwa [← hlength, Nat.add_sub_cancel' hstart', hlength, Nat.add_sub_cancel' hstart,
    line_positionAt_charCount, line_positionAt_charCount] at hend

/-! ## Edits -/

/-- The places of `d` around a replacement are found again in `d'`. -/
structure KeepsPlaces (d : Document) (r : Replacement) (d' : Document) : Prop where
  before : ∀ o < r.start, d'.positionAt o = d.positionAt o
  valid_before : ∀ p o, d.offset? p = some o → o < r.start → d'.offset? p = some o
  /-- The lines below the one where the replaced text stops move by the change of the line count. -/
  below : ∀ o ≤ d.charCount, (d.positionAt r.stop).line < (d.positionAt o).line →
    let moved := d'.positionAt (o - (r.stop - r.start) + r.new.length)
    moved.column = (d.positionAt o).column ∧
      (moved.line : Int) = (d.positionAt o).line + ((d'.lineCount : Int) - d.lineCount)

theorem keepsPlaces_of_replaced {r : Replacement} (hle : r.start ≤ r.stop)
    (hstop : r.stop ≤ d.charCount)
    (htext : d'.text = d.text.take r.start ++ r.new ++ d.text.drop r.stop) :
    d.KeepsPlaces r d' := by
  have hstart : r.start ≤ d.charCount := hle.trans hstop
  have hlength : (d.text.take r.start).length = r.start := by
    rw [List.length_take]
    exact Nat.min_eq_left hstart
  have hbefore : d'.text.take r.start = d.text.take r.start := by
    rw [htext, List.append_assoc, List.take_left' hlength]
  have hbehind : d'.text.drop (r.start + r.new.length) = d.text.drop r.stop := by
    rw [htext, List.drop_left' (by rw [List.length_append, hlength])]
  have hmovedStop : r.start + r.new.length ≤ d'.charCount := by
    rw [charCount, htext, List.length_append, List.length_append, hlength]
    exact Nat.le_add_right _ _
  refine ⟨fun o ho => positionAt_of_take_eq hbefore hstart ho,
    fun p o hp ho => offset?_of_take_eq hbefore hstart hp ho, fun o ho hbelow => ?_⟩
  have hbehindStop : r.stop ≤ o := by
    by_contra hlt
    exact Nat.not_le_of_lt hbelow (line_positionAt_le (Nat.le_of_not_le hlt) hstop)
  obtain ⟨k, rfl⟩ := Nat.exists_eq_add_of_le hbehindStop
  have hmoved : r.stop + k - (r.stop - r.start) + r.new.length = r.start + r.new.length + k := by
    omega
  obtain ⟨hline, hcolumn⟩ := positionAt_of_drop_eq hbehind ho
  have hlines := lineCount_of_drop_eq hbehind hstop hmovedStop
  dsimp only
  rw [hmoved]
  exact ⟨hcolumn hbelow, by omega⟩

end Document

namespace Buffer

variable {b b' : Buffer} {c : Command}

/-- Every accepted edit replaces a range of offsets of the text by new text. Before the range,
places and valid positions stay; below the line where it stops, places move by whole lines. -/
theorem edit_is_local {event : MutationEvent} (h : b.run? c = .ok (some event, b')) :
    ∃ r, b.replacement? c = some r ∧ r.start ≤ r.stop ∧ r.stop ≤ b.document.charCount ∧
      b'.text = b.text.take r.start ++ r.new ++ b.text.drop r.stop ∧
      b.document.KeepsPlaces r b'.document := by
  cases effect h with
  | edit kind r hr =>
    obtain ⟨hle, hstop⟩ := bounds_of_replacement? hr
    have htext := text_replaced kind hr
    exact ⟨r, hr, hle, hstop, htext, Document.keepsPlaces_of_replaced hle hstop htext⟩

/-- Between a `\r` and a `\n` the one character of the second line is deleted, and the two breaks
become one. The last line moves up by one. -/
theorem edit_is_local_when_breaks_join :
    let b := ofText ['a', '\r', 'b', '\n', 'c', 'd'] 2
    let join := Command.delete (.between ⟨2, 0⟩ ⟨2, 1⟩)
    b.run? join = .ok (some ⟨.delete, 1, 2, 2⟩, b.run join) ∧
      b.document.KeepsPlaces ⟨2, 3, []⟩ (b.run join).document ∧
      b.document.positionAt 5 = ⟨3, 1⟩ ∧ b.document.lineCount = 3 ∧
      (b.run join).document.positionAt 4 = ⟨2, 1⟩ ∧ (b.run join).document.lineCount = 2 := by
  intro b join
  have hrun : b.run? join = .ok (some ⟨.delete, 1, 2, 2⟩, b.run join) := rfl
  have hreplacement : b.replacement? join = some ⟨2, 3, []⟩ := by decide +kernel
  obtain ⟨r, hr, -, -, -, hkeeps⟩ := edit_is_local hrun
  rw [hreplacement, Option.some.injEq] at hr
  subst hr
  exact ⟨hrun, hkeeps, by decide +kernel, by decide +kernel, by decide +kernel, by decide +kernel⟩

end Buffer

end EditorPane
