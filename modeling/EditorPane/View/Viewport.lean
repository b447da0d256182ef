/-!
# Viewports

The part of a text that is on screen. A viewport has a first line, a first cell and a size in
pixels; with the size of one cell, the numbers of lines and cells at least partly visible follow.
Pixel coordinates are kept in 32-bit words.

## Main definitions

* `CellMetrics`, `Viewport`, `Rect`.
* `Viewport.lineCount`, `Viewport.cellCount`, `Viewport.showsLine` — what is visible.
* `signedPixel`, `pixelExtent` — a number of pixels as a coordinate and as a length.
* `IsCoordinate` — what a coordinate can be.
-/

namespace EditorPane

/-! ## Pixels -/

/-- A number of pixels as a signed 32-bit coordinate. -/
def signedPixel (n : Nat) : Int := (n : Int).bmod UInt32.size

/-- The number fits a signed 32-bit coordinate. -/
def IsCoordinate (n : Int) : Prop := -(UInt32.size : Int) ≤ 2 * n ∧ 2 * n < UInt32.size

/-- A number of pixels as an unsigned 32-bit length. -/
def pixelExtent (n : Nat) : Nat := n % UInt32.size

theorem signedPixel_of_lt {n : Nat} (h : 2 * n < UInt32.size) : signedPixel n = n := by
  unfold signedPixel UInt32.size at *
  rw [Int.bmod_def]
  omega

theorem toInt_ofInt_of_isCoordinate {n : Int} (h : IsCoordinate n) : (Int32.ofInt n).toInt = n := by
  obtain ⟨hlow, hhigh⟩ := h
  unfold UInt32.size at hlow hhigh
  exact Int32.toInt_ofInt_of_le (by omega) (by omega)

theorem pixelExtent_of_lt {n : Nat} (h : n < UInt32.size) : pixelExtent n = n := Nat.mod_eq_of_lt h

/-- A rectangle of pixels, measured from the top left corner of the text area. -/
structure Rect where
  x : Int
  y : Int
  width : Nat
  height : Nat
  deriving DecidableEq, Repr

/-! ## Viewports -/

/-- The size of one cell in pixels. -/
structure CellMetrics where
  cellWidth : Nat
  lineHeight : Nat
  deriving DecidableEq, Repr

/-- Cells of eight by eighteen pixels. -/
instance : Inhabited CellMetrics := ⟨⟨8, 18⟩⟩

/-- The window through which a text is seen. -/
structure Viewport where
  firstLine : Nat
  firstCell : Nat
  width : Nat
  height : Nat
  deriving DecidableEq, Repr

/-- A window of 800 by 800 pixels at the start of the text. -/
instance : Inhabited Viewport := ⟨⟨1, 0, 800, 800⟩⟩

/-- How many units of the given size it takes to fill a length; a size of zero counts as one. -/
def unitsToFill (length size : Nat) : Nat := (length + (max size 1 - 1)) / max size 1

/-- Every pixel of the length lies in one of the units. -/
theorem lt_unitsToFill_iff {length size k : Nat} :
    k < unitsToFill length size ↔ k * max size 1 < length := by
  have hpos : 0 < max size 1 := by omega
  unfold unitsToFill
  rw [Nat.lt_iff_add_one_le, Nat.le_div_iff_mul_le hpos, Nat.add_mul]
  omega

namespace Viewport

/-- The number of lines at least partly visible. -/
def lineCount (v : Viewport) (m : CellMetrics) : Nat := unitsToFill v.height m.lineHeight

/-- The number of cells of one line at least partly visible. -/
def cellCount (v : Viewport) (m : CellMetrics) : Nat := unitsToFill v.width m.cellWidth

/-- The line is at least partly visible, as far as its number goes. -/
def showsLine (v : Viewport) (m : CellMetrics) (line : Nat) : Bool :=
  v.firstLine ≤ line && line < v.firstLine + v.lineCount m

/-- The cell of a line is at least partly visible. -/
def showsCell (v : Viewport) (m : CellMetrics) (cell : Nat) : Bool :=
  v.firstCell ≤ cell && cell < v.firstCell + v.cellCount m

/-- The window scrolled to the given line and cell. -/
def scrollTo (v : Viewport) (line cell : Nat) : Viewport :=
  { v with firstLine := line, firstCell := cell }

/-- The window with another size. -/
def resize (v : Viewport) (width height : Nat) : Viewport :=
  { v with width := width, height := height }

/-- The window with its first line in the text, whose lines count from one. -/
def clamped (v : Viewport) : Viewport := { v with firstLine := max v.firstLine 1 }

/-- The top edge of a line on or below the first one. -/
def top (v : Viewport) (m : CellMetrics) (line : Nat) : Int :=
  signedPixel ((line - v.firstLine) * m.lineHeight)

/-- The left edge of a cell on or right of the first one. -/
def left (v : Viewport) (m : CellMetrics) (cell : Nat) : Int :=
  signedPixel ((cell - v.firstCell) * m.cellWidth)

end Viewport

end EditorPane
