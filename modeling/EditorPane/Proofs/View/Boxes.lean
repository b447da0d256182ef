import EditorPane.Buffer.Geometry
import EditorPane.Proofs.Text.Positions
import Mathlib.Algebra.Group.Nat.Defs
import Mathlib.Data.Nat.Find

/-!
# Boxes side by side

The cell at which a column starts is found by going through the line from its start, a tab reaching
as far as it has to. It never goes back, so the columns of a line whose cell is in the window are
consecutive. A window counts its cells and lines as far as they are partly visible, so whatever
starts in one of them starts at a pixel of the window. As long as the window is smaller than signed
words can count, its pixels are exact, and then the box of each character ends where the next one
starts.

## Main definitions

* `Buffer.cellsAt`, `Buffer.boxIn` — the cells of a column, and the box of a position.

## Main results

* `monotone_cellOf` — cells never go back along a line.
* `Viewport.left_of_showsCell`, `Viewport.top_of_showsLine` — pixels of the window are exact.
* `Buffer.box?_eq_some_iff`, `Buffer.isSome_box?_iff` — which positions have a box.
* `Buffer.boxes_tile_lines` — the boxes of a line.
-/

namespace EditorPane

/-! ## Cells along a line -/

variable {tabWidth : Nat} {lineText : Text} {k : Nat} {c : Char}

theorem cellOf_succ (h : lineText[k]? = some c) : cellOf tabWidth lineText (k + 1)
    = min (cellOf tabWidth lineText k + cellWidthAt tabWidth c (cellOf tabWidth lineText k))
        maxCell := by
  rw [cellOf, List.take_add_one, h, cellAfter_append]
  rfl

theorem cellOf_succ_of_none (h : lineText[k]? = none) :
    cellOf tabWidth lineText (k + 1) = cellOf tabWidth lineText k := by
  rw [cellOf, List.take_add_one, h, Option.toList_none, List.append_nil, cellOf]

theorem cellOf_le_maxCell (tabWidth : Nat) (lineText : Text) (k : Nat) :
    cellOf tabWidth lineText k ≤ maxCell := by
  induction k with
  | zero => simp
  | succ k ih =>
    cases h : lineText[k]? with
    | none => rwa [cellOf_succ_of_none h]
    | some c =>
      rw [cellOf_succ h]
      exact Nat.min_le_right _ _

/-- Cells never go back along a line. -/
theorem monotone_cellOf (tabWidth : Nat) (lineText : Text) :
    Monotone (cellOf tabWidth lineText) := by
  apply monotone_nat_of_le_succ
  intro k
  cases h : lineText[k]? with
  | none => rw [cellOf_succ_of_none h]
  | some c =>
    rw [cellOf_succ h]
    exact Nat.le_min.2 ⟨Nat.le_add_right _ _, cellOf_le_maxCell _ _ _⟩

/-- What holds of a number and of all below it, but not of all numbers, holds up to some bound. -/
theorem exists_forall_iff_lt {P : Nat → Prop} (hdown : ∀ {j k}, j ≤ k → P k → P j)
    (hfails : ∃ k, ¬ P k) : ∃ bound, ∀ k, P k ↔ k < bound := by
  classical
  refine ⟨Nat.find hfails, fun k => ⟨fun hk => ?_, fun hk => not_not.1 (Nat.find_min hfails hk)⟩⟩
  by_contra hge
  exact Nat.find_spec hfails (hdown (Nat.le_of_not_lt hge) hk)

/-- The columns of a line that start before a cell are its first ones. -/
theorem exists_forall_cellOf_lt_iff (tabWidth : Nat) (lineText : Text) (cell : Nat) :
    ∃ bound, ∀ k, k ≤ lineText.length ∧ cellOf tabWidth lineText k < cell ↔ k < bound := by
  apply exists_forall_iff_lt
  · intro j k hjk hk
    exact ⟨hjk.trans hk.1, (monotone_cellOf tabWidth lineText hjk).trans_lt hk.2⟩
  · exact ⟨lineText.length + 1, fun h => Nat.not_succ_le_self _ h.1⟩

/-! ## Pixels of the window -/

theorem unitsToFill_le (length size : Nat) : unitsToFill length size ≤ length := by
  by_contra hlt
  have hfits := lt_unitsToFill_iff.1 (Nat.lt_of_not_le hlt)
  have hle : length ≤ length * max size 1 := Nat.le_mul_of_pos_right _ (by omega)
  omega

/-- What a window shows that is not too far from the start of the text can be counted in words. -/
theorem add_unitsToFill_lt {first length : Nat} (size : Nat) (hfirst : first ≤ 2 ^ 64 - 2 ^ 32)
    (hlength : length < 2 ^ 31) : first + unitsToFill length size < UInt64.size := by
  have hle := unitsToFill_le length size
  unfold UInt64.size
  omega

/-- A unit that it takes to fill a length starts at a pixel of it. -/
theorem signedPixel_mul {length size k : Nat} (hk : k < unitsToFill length size)
    (hlength : length < 2 ^ 31) :
    signedPixel (k * size) = (k * size : Nat) ∧ k * size < length := by
  have hlt : k * size < length :=
    (Nat.mul_le_mul_left k (Nat.le_max_left size 1)).trans_lt (lt_unitsToFill_iff.1 hk)
  exact ⟨signedPixel_of_lt (by unfold UInt32.size; omega), hlt⟩

namespace Viewport

variable {v : Viewport} {m : CellMetrics} {line cell : Nat}

theorem showsLine_iff : v.showsLine m line = true ↔
    v.firstLine ≤ line ∧ line < v.firstLine + v.lineCount m := by
  simp [showsLine]

theorem showsCell_iff : v.showsCell m cell = true ↔
    v.firstCell ≤ cell ∧ cell < v.firstCell + v.cellCount m := by
  simp [showsCell]

theorem top_of_showsLine (h : v.showsLine m line = true) (hheight : v.height < 2 ^ 31) :
    v.top m line = ((line - v.firstLine) * m.lineHeight : Nat) ∧
      (line - v.firstLine) * m.lineHeight < v.height := by
  obtain ⟨hfirst, hlast⟩ := showsLine_iff.1 h
  exact signedPixel_mul (by rw [lineCount] at hlast; omega) hheight

theorem left_of_showsCell (h : v.showsCell m cell = true) (hwidth : v.width < 2 ^ 31) :
    v.left m cell = ((cell - v.firstCell) * m.cellWidth : Nat) ∧
      (cell - v.firstCell) * m.cellWidth < v.width := by
  obtain ⟨hfirst, hlast⟩ := showsCell_iff.1 h
  exact signedPixel_mul (by rw [cellCount] at hlast; omega) hwidth

/-- Characters that start in the window are as far apart as the first of them is wide. -/
theorem left_add_width {cells : Nat} (hcell : v.showsCell m cell = true)
    (hnext : v.showsCell m (cell + cells) = true) (hwidth : v.width < 2 ^ 31) :
    v.left m cell + pixelExtent (pixelExtent cells * m.cellWidth) = v.left m (cell + cells) := by
  obtain ⟨hleft, -⟩ := left_of_showsCell hcell hwidth
  obtain ⟨hright, hlt⟩ := left_of_showsCell hnext hwidth
  have hfirst : v.firstCell ≤ cell := (showsCell_iff.1 hcell).1
  have hcells : cells < 2 ^ 31 := by
    have hcount : v.cellCount m ≤ v.width := unitsToFill_le _ _
    have hlast := (showsCell_iff.1 hnext).2
    omega
  have hsplit : (cell + cells - v.firstCell) * m.cellWidth
      = (cell - v.firstCell) * m.cellWidth + cells * m.cellWidth := by
    rw [← Nat.add_mul, Nat.sub_add_comm hfirst]
  rw [hleft, hright, hsplit, pixelExtent_of_lt (n := cells) (by unfold UInt32.size; omega),
    pixelExtent_of_lt (by unfold UInt32.size; omega), Int.natCast_add]

end Viewport

/-! ## Boxes -/

namespace Buffer

variable {b : Buffer} {p : Position} {box : Rect}

/-- The cells of the character at a column. The end of the line takes one. -/
def cellsAt (b : Buffer) (lineText : Text) (column : Nat) : Nat :=
  match lineText[column]? with
  | some c => cellWidthAt b.tabWidth c (cellOf b.tabWidth lineText column)
  | none => 1

/-- The box of a position on a line that shows the given text. -/
def boxIn (b : Buffer) (lineText : Text) (p : Position) : Rect where
  x := b.viewport.left b.metrics (cellOf b.tabWidth lineText p.column)
  y := b.viewport.top b.metrics p.line
  width := pixelExtent (pixelExtent (b.cellsAt lineText p.column) * b.metrics.cellWidth)
  height := b.metrics.lineHeight

@[simp] theorem x_boxIn (b : Buffer) (lineText : Text) (p : Position) : (b.boxIn lineText p).x
    = b.viewport.left b.metrics (cellOf b.tabWidth lineText p.column) := by simp only [boxIn]

@[simp] theorem y_boxIn (b : Buffer) (lineText : Text) (p : Position) :
    (b.boxIn lineText p).y = b.viewport.top b.metrics p.line := by simp only [boxIn]

/-- A position has a box if it is valid and its line and first cell are in the window. -/
theorem box?_eq_some_iff : b.box? p = some box ↔
    ∃ lineText, b.document.lineText? p.line = some lineText ∧ p.column ≤ lineText.length ∧
      b.viewport.showsLine b.metrics p.line = true ∧
      b.viewport.showsCell b.metrics (cellOf b.tabWidth lineText p.column) = true ∧
      b.boxIn lineText p = box := by
  unfold box?
  cases b.document.lineText? p.line with
  | none => simp
  | some lineText =>
    simp only [Option.some.injEq, exists_eq_left']
    split
    · next hshown =>
      rw [Bool.and_eq_true, Bool.and_eq_true, decide_eq_true_eq] at hshown
      simp only [hshown, true_and, Option.some.injEq]
      rfl
    · next hhidden =>
      simp only [reduceCtorEq, false_iff]
      rintro ⟨hcolumn, hline, hcell, -⟩
      exact hhidden (by simp [hcolumn, hline, hcell])

theorem isSome_box?_iff : (b.box? p).isSome = true ↔
    ∃ lineText, b.document.lineText? p.line = some lineText ∧ p.column ≤ lineText.length ∧
      b.viewport.showsLine b.metrics p.line = true ∧
      b.viewport.showsCell b.metrics (cellOf b.tabWidth lineText p.column) = true := by
  simp only [Option.isSome_iff_exists, box?_eq_some_iff]
  constructor
  · rintro ⟨box, lineText, htext, hcolumn, hline, hcell, -⟩
    exact ⟨lineText, htext, hcolumn, hline, hcell⟩
  · rintro ⟨lineText, htext, hcolumn, hline, hcell⟩
    exact ⟨_, lineText, htext, hcolumn, hline, hcell, rfl⟩

theorem box?_eq_none_of_not_valid (h : b.document.isValid p = false) : b.box? p = none := by
  rw [← Option.not_isSome_iff_eq_none, isSome_box?_iff]
  rintro ⟨lineText, htext, hcolumn, -⟩
  exact Bool.eq_false_iff.1 h (Document.isValid_iff.2 ⟨lineText, htext, hcolumn⟩)

/-- The columns of a line that have a box are consecutive. -/
theorem exists_forall_isSome_box?_iff (b : Buffer) (line : Nat) : ∃ first past, ∀ column,
    (b.box? ⟨line, column⟩).isSome = true ↔ first ≤ column ∧ column < past := by
  simp only [isSome_box?_iff]
  cases b.document.lineText? line with
  | none => exact ⟨0, 0, by simp⟩
  | some lineText =>
    cases b.viewport.showsLine b.metrics line with
    | false => exact ⟨0, 0, by simp⟩
    | true =>
      obtain ⟨first, hfirst⟩ :=
        exists_forall_cellOf_lt_iff b.tabWidth lineText b.viewport.firstCell
      obtain ⟨past, hpast⟩ := exists_forall_cellOf_lt_iff b.tabWidth lineText
        (b.viewport.firstCell + b.viewport.cellCount b.metrics)
      refine ⟨first, past, fun column => ?_⟩
      rw [← Nat.not_lt, ← hfirst, ← hpast]
      simp only [Option.some.injEq, exists_eq_left', Viewport.showsCell_iff, true_and]
      omega

/-- The next column starts behind the cells of a column, unless it is beyond all that can be
counted. -/
theorem cellOf_succ_eq_add_cellsAt {lineText : Text} {column : Nat}
    (hcolumn : column < lineText.length)
    (hlt : cellOf b.tabWidth lineText (column + 1) < maxCell) :
    cellOf b.tabWidth lineText (column + 1)
      = cellOf b.tabWidth lineText column + b.cellsAt lineText column := by
  have hc : lineText[column]? = some lineText[column] := List.getElem?_eq_getElem hcolumn
  rw [cellOf_succ hc] at hlt ⊢
  simp only [cellsAt, hc]
  omega

/-- The box of a character ends where that of the next one starts. -/
theorem x_add_width_eq_x {line column : Nat} {next : Rect} (hwidth : b.viewport.width < 2 ^ 31)
    (hfirst : b.viewport.firstCell ≤ 2 ^ 64 - 2 ^ 32) (h : b.box? ⟨line, column⟩ = some box)
    (hnext : b.box? ⟨line, column + 1⟩ = some next) : box.x + box.width = next.x := by
  obtain ⟨lineText, htext, -, -, hcell, rfl⟩ := box?_eq_some_iff.1 h
  obtain ⟨lineText', htext', hcolumn, -, hcell', rfl⟩ := box?_eq_some_iff.1 hnext
  cases htext.symm.trans htext'
  have hcount : b.viewport.firstCell + b.viewport.cellCount b.metrics < UInt64.size :=
    add_unitsToFill_lt _ hfirst hwidth
  have hlast : cellOf b.tabWidth lineText (column + 1)
      < b.viewport.firstCell + b.viewport.cellCount b.metrics := (Viewport.showsCell_iff.1 hcell').2
  have hsucc := cellOf_succ_eq_add_cellsAt (b := b) hcolumn (by unfold maxCell; omega)
  simp only [boxIn, hsucc] at hcell' ⊢
  exact Viewport.left_add_width hcell hcell' hwidth

/-- Let the window be smaller than signed words can count and not too far from the start of the
text, so that lines and cells can be counted in words. The top left corner of every box lies in the
window, its pixels exact. The columns of a line that have a box are consecutive, and the box of each
of them ends where the next one starts, at the same height. -/
theorem boxes_tile_lines (b : Buffer) (hwidth : b.viewport.width < 2 ^ 31)
    (hheight : b.viewport.height < 2 ^ 31) (hline : b.viewport.firstLine ≤ 2 ^ 64 - 2 ^ 32)
    (hcell : b.viewport.firstCell ≤ 2 ^ 64 - 2 ^ 32) :
    (b.viewport.firstLine + b.viewport.lineCount b.metrics < UInt64.size ∧
      b.viewport.firstCell + b.viewport.cellCount b.metrics < UInt64.size) ∧
    (∀ p box, b.box? p = some box →
      (0 ≤ box.x ∧ box.x < b.viewport.width ∧ 0 ≤ box.y ∧ box.y < b.viewport.height) ∧
      ∃ lineText, b.document.lineText? p.line = some lineText ∧
        box.x = ((cellOf b.tabWidth lineText p.column - b.viewport.firstCell)
          * b.metrics.cellWidth : Nat) ∧
        box.y = ((p.line - b.viewport.firstLine) * b.metrics.lineHeight : Nat)) ∧
    (∀ line, ∃ first past, ∀ column,
      (b.box? ⟨line, column⟩).isSome = true ↔ first ≤ column ∧ column < past) ∧
    ∀ line column box next, b.box? ⟨line, column⟩ = some box →
      b.box? ⟨line, column + 1⟩ = some next →
      box.x + box.width = next.x ∧ box.y = next.y ∧ box.height = next.height := by
  refine ⟨⟨add_unitsToFill_lt _ hline hheight, add_unitsToFill_lt _ hcell hwidth⟩, ?_,
    b.exists_forall_isSome_box?_iff, ?_⟩
  · intro p box h
    obtain ⟨lineText, htext, -, hshowsLine, hshowsCell, rfl⟩ := box?_eq_some_iff.1 h
    obtain ⟨hx, hright⟩ := Viewport.left_of_showsCell hshowsCell hwidth
    obtain ⟨hy, hbottom⟩ := Viewport.top_of_showsLine hshowsLine hheight
    rw [x_boxIn, y_boxIn, hx, hy]
    exact ⟨⟨Int.natCast_nonneg _, Int.ofNat_lt.2 hright, Int.natCast_nonneg _,
      Int.ofNat_lt.2 hbottom⟩, lineText, htext, rfl, rfl⟩
  · intro line column box next h hnext
    refine ⟨x_add_width_eq_x hwidth hcell h hnext, ?_⟩
    obtain ⟨-, -, -, -, -, rfl⟩ := box?_eq_some_iff.1 h
    obtain ⟨-, -, -, -, -, rfl⟩ := box?_eq_some_iff.1 hnext
    exact ⟨rfl, rfl⟩

/-- Scrolled into a tab, the window starts with the wide character behind it. A combining and a
control character follow; the end of the line is off screen. -/
theorem boxes_tile_lines_behind_tab :
    let b := ((ofText ['\t', '\u4E2D', '\u0301', '\u0007'] 4).resize 40 18).scrollTo 1 2
    b.box? ⟨1, 0⟩ = none ∧ b.box? ⟨1, 4⟩ = none ∧
    ∃ wide combining control, b.box? ⟨1, 1⟩ = some wide ∧ b.box? ⟨1, 2⟩ = some combining ∧
      b.box? ⟨1, 3⟩ = some control ∧ wide.x + wide.width = combining.x ∧
      combining.x + combining.width = control.x ∧ wide.x = 16 ∧ combining.width = 0 := by
  intro b
  have hwide : b.box? ⟨1, 1⟩ = some ⟨16, 0, 16, 18⟩ := by decide +kernel
  have hcombining : b.box? ⟨1, 2⟩ = some ⟨32, 0, 0, 18⟩ := by decide +kernel
  have hcontrol : b.box? ⟨1, 3⟩ = some ⟨32, 0, 8, 18⟩ := by decide +kernel
  obtain ⟨-, -, -, htile⟩ := boxes_tile_lines b (by decide +kernel) (by decide +kernel)
    (by decide +kernel) (by decide +kernel)
  exact ⟨by decide +kernel, by decide +kernel, _, _, _, hwide, hcombining, hcontrol,
    (htile _ _ _ _ hwide hcombining).1, (htile _ _ _ _ hcombining hcontrol).1, rfl, rfl⟩

end Buffer

end EditorPane
