import EditorPane.Buffer.Basic

/-!
# Where a buffer is on screen

The window of a buffer is moved, resized and measured; from it follow the lines to number in a
gutter and the box of a character. A character has a box when its line and its first cell are at
least partly visible. The end of a line has a box one cell wide.

## Main definitions

* `Buffer.setViewport`, `Buffer.scrollTo`, `Buffer.resize`, `Buffer.setMetrics`,
  `Buffer.setTabWidth`.
* `Buffer.visibleLines`, `Buffer.box?`.
-/

namespace EditorPane

namespace Buffer

/-! ## Changing the view -/

/-- Look through `v`, whose first line is at least one. -/
def setViewport (b : Buffer) (v : Viewport) : Buffer := { b with viewport := v.clamped }

/-- Scroll to a line and a cell. -/
def scrollTo (b : Buffer) (line cell : Nat) : Buffer :=
  b.setViewport (b.viewport.scrollTo line cell)

/-- Resize the window. -/
def resize (b : Buffer) (width height : Nat) : Buffer :=
  b.setViewport (b.viewport.resize width height)

/-- Change the size of a cell. -/
def setMetrics (b : Buffer) (m : CellMetrics) : Buffer := { b with metrics := m }

/-- Change the tab width, which is at least one. -/
def setTabWidth (b : Buffer) (n : Nat) : Buffer := { b with tabWidth := max n 1 }

/-! ## Lines and boxes -/

/-- The numbers of the visible lines, each with its top edge. -/
def visibleLines (b : Buffer) : List (Nat × Int) :=
  let first := b.viewport.firstLine
  let past := min (first + b.viewport.lineCount b.metrics) (b.document.lineCount + 1)
  (List.range' first (past - first)).map fun line => (line, b.viewport.top b.metrics line)

/-- The box of the character at `p`, or of the end of the line there. -/
def box? (b : Buffer) (p : Position) : Option Rect :=
  match b.document.lineText? p.line with
  | none => none
  | some text =>
    let cell := cellOf b.tabWidth text p.column
    if p.column ≤ text.length && b.viewport.showsLine b.metrics p.line
        && b.viewport.showsCell b.metrics cell then
      let cells := match text[p.column]? with
        | some c => cellWidthAt b.tabWidth c cell
        | none => 1
      some {
        x := b.viewport.left b.metrics cell
        y := b.viewport.top b.metrics p.line
        width := pixelExtent (pixelExtent cells * b.metrics.cellWidth)
        height := b.metrics.lineHeight }
    else none

end Buffer

end EditorPane
