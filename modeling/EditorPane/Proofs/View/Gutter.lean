import EditorPane.Proofs.Buffer.Reachable
import EditorPane.Proofs.Text.Lines
import EditorPane.Proofs.View.Boxes

/-!
# The gutter beside the boxes

The lines to number are taken from the window and cut off at the end of the text, while each box is
tested against the window by itself. A reachable window starts in the text or behind it, so both
come to the lines of the text that the window shows. A box is drawn at the height at which its line
is numbered, and unless the window is scrolled sideways or has no width, each numbered line has the
box of its first column.

## Main results

* `Buffer.mem_visibleLines_iff` — which lines are numbered, and at which height.
* `Buffer.exists_box?_zero` — the box at the start of a line.
* `Buffer.gutter_agrees_with_boxes` — numbers and boxes.
-/

namespace EditorPane

theorem Document.isSome_lineText?_iff {d : Document} {line : Nat} :
    (d.lineText? line).isSome = true ↔ 0 < line ∧ line ≤ d.lineCount := by
  rw [Option.isSome_iff_ne_none, ne_eq, lineText?_eq_none_iff]
  omega

/-- A window with a width shows the cell at which it starts. -/
theorem Viewport.showsCell_firstCell {v : Viewport} (m : CellMetrics) (hwidth : 0 < v.width) :
    v.showsCell m v.firstCell = true := by
  have hcount : 0 < v.cellCount m := lt_unitsToFill_iff.2 (by omega)
  rw [showsCell_iff]
  omega

namespace Buffer

variable {b : Buffer} {line : Nat} {y : Int}

theorem exists_map_fst_visibleLines (b : Buffer) : ∃ count,
    b.visibleLines.map Prod.fst = List.range' b.viewport.firstLine count := by
  simp only [visibleLines, List.map_map, Function.comp_def, List.map_id']
  exact ⟨_, rfl⟩

/-- A line is numbered at its top edge, if it is in the window and not behind the text. -/
theorem mem_visibleLines_iff : (line, y) ∈ b.visibleLines ↔ line ≤ b.document.lineCount ∧
    b.viewport.showsLine b.metrics line = true ∧ y = b.viewport.top b.metrics line := by
  simp only [visibleLines, List.mem_map, List.mem_range'_1, Prod.mk.injEq, Viewport.showsLine_iff]
  constructor
  · rintro ⟨line, hline, rfl, hy⟩
    exact ⟨by omega, by omega, hy.symm⟩
  · rintro ⟨hlast, hshown, hy⟩
    exact ⟨line, by omega, rfl, hy.symm⟩

theorem mem_visibleLines_of_box? {p : Position} {box : Rect} (h : b.box? p = some box) :
    (p.line, box.y) ∈ b.visibleLines := by
  obtain ⟨lineText, htext, -, hshown, -, rfl⟩ := box?_eq_some_iff.1 h
  have hline := Document.isSome_lineText?_iff.1 (Option.isSome_of_eq_some htext)
  exact mem_visibleLines_iff.2 ⟨hline.2, hshown, y_boxIn b lineText p⟩

/-- Unless it is off to the left, a line in the window has a box at its start. -/
theorem exists_box?_zero (hcell : b.viewport.firstCell = 0) (hwidth : 0 < b.viewport.width)
    (hline : 0 < line ∧ line ≤ b.document.lineCount)
    (hshown : b.viewport.showsLine b.metrics line = true) :
    ∃ box, b.box? ⟨line, 0⟩ = some box ∧ box.y = b.viewport.top b.metrics line := by
  obtain ⟨lineText, htext⟩ := Option.isSome_iff_exists.1 (Document.isSome_lineText?_iff.2 hline)
  have hstart : b.viewport.showsCell b.metrics (cellOf b.tabWidth lineText 0) = true := by
    rw [cellOf_zero, ← hcell]
    exact Viewport.showsCell_firstCell b.metrics hwidth
  exact ⟨_, box?_eq_some_iff.2 ⟨lineText, htext, Nat.zero_le _, hshown, hstart, rfl⟩,
    y_boxIn b lineText ⟨line, 0⟩⟩

/-- However the window was moved, the numbered lines follow one another and are the lines of the
text that it shows. The line of every box is numbered at the height of the box, and unless the
window is scrolled sideways or has no width, every numbered line has the box of its first column at
the height of the number. -/
theorem gutter_agrees_with_boxes (h : b.Reachable) :
    ((b.visibleLines.map Prod.fst).IsChain (fun line next => next = line + 1) ∧
      (b.visibleLines.map Prod.fst).Pairwise (· < ·)) ∧
    (∀ line, line ∈ b.visibleLines.map Prod.fst ↔ (0 < line ∧ line ≤ b.document.lineCount) ∧
      b.viewport.showsLine b.metrics line = true) ∧
    (∀ p box, b.box? p = some box → (p.line, box.y) ∈ b.visibleLines) ∧
    (b.viewport.firstCell = 0 → 0 < b.viewport.width → ∀ line y, (line, y) ∈ b.visibleLines →
      ∃ box, b.box? ⟨line, 0⟩ = some box ∧ box.y = y) := by
  have hpos {line : Nat} (hshown : b.viewport.showsLine b.metrics line = true) : 0 < line :=
    h.framed.firstLine_pos.trans_le (Viewport.showsLine_iff.1 hshown).1
  refine ⟨?_, ?_, fun p box => mem_visibleLines_of_box?, ?_⟩
  · obtain ⟨count, hcount⟩ := b.exists_map_fst_visibleLines
    rw [hcount]
    exact ⟨List.isChain_range' _ _ _, List.pairwise_lt_range'⟩
  · intro line
    simp only [List.mem_map, Prod.exists, exists_and_right, exists_eq_right, mem_visibleLines_iff]
    constructor
    · rintro ⟨y, hlast, hshown, -⟩
      exact ⟨⟨hpos hshown, hlast⟩, hshown⟩
    · rintro ⟨⟨-, hlast⟩, hshown⟩
      exact ⟨_, hlast, hshown, rfl⟩
  · intro hcell hwidth line y hline
    obtain ⟨hlast, hshown, hy⟩ := mem_visibleLines_iff.1 hline
    rw [hy]
    exact exists_box?_zero hcell hwidth ⟨hpos hshown, hlast⟩ hshown

/-- A window scrolled to the last of three lines numbers it alone, one scrolled past the end numbers
none, and so does one without a height. -/
theorem gutter_agrees_with_boxes_scrolled :
    let b := ofText ['a', '\n', '\n', 'c'] 2
    let last := b.run (.scrollTo 3 0)
    let past := b.run (.scrollTo 5 0)
    last.visibleLines = [(3, 0)] ∧ past.visibleLines = [] ∧
      (b.run (.resize 800 0)).visibleLines = [] ∧
      (∃ box, last.box? ⟨3, 0⟩ = some box ∧ box.y = 0) ∧ ∀ p, past.box? p = none := by
  intro b last past
  have hlast : last.visibleLines = [(3, 0)] := by decide +kernel
  have hpast : past.visibleLines = [] := by decide +kernel
  obtain ⟨-, -, -, hbox⟩ := gutter_agrees_with_boxes ((Reachable.ofText _ 2).run (.scrollTo 3 0))
  obtain ⟨-, -, hnumbered, -⟩ :=
    gutter_agrees_with_boxes ((Reachable.ofText _ 2).run (.scrollTo 5 0))
  refine ⟨hlast, hpast, by decide +kernel,
    hbox (by decide +kernel) (by decide +kernel) 3 0 (by rw [hlast]; simp), fun p => ?_⟩
  rw [Option.eq_none_iff_forall_ne_some]
  intro box hp
  have hmem := hnumbered p box hp
  rw [hpast] at hmem
  cases hmem

end Buffer

end EditorPane
