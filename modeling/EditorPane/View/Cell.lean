import EditorPane.Text.Line
import EditorPane.View.CellWidth

/-!
# Cells of a line

Where the characters of a line fall on a fixed-pitch grid. A tab reaches to the next multiple of
the tab width; every other character has a width of its own.

## Main definitions

* `cellWidthAt` — the cells a character takes when it starts at a given cell.
* `cellOf` — the cell at which a column of a line starts.
-/

namespace EditorPane

/-- The tab width used where none is given. -/
def defaultTabWidth : Nat := 2

/-- The largest cell that a line can reach. -/
def maxCell : Nat := UInt64.size - 1

/-- The cells that `c` takes when it starts at cell `cell`. A tab width of zero counts as one. -/
def cellWidthAt (tabWidth : Nat) (c : Char) (cell : Nat) : Nat :=
  if c = '\t' then max tabWidth 1 - cell % max tabWidth 1 else charWidth c

/-- The cell after the given characters when they start at cell `cell`. -/
def cellAfter (tabWidth : Nat) (cell : Nat) : Text → Nat
  | [] => cell
  | c :: rest => cellAfter tabWidth (min (cell + cellWidthAt tabWidth c cell) maxCell) rest

/-- The cell at which a column of a line starts. Columns past the end count as the end. -/
def cellOf (tabWidth : Nat) (line : Text) (column : Nat) : Nat :=
  cellAfter tabWidth 0 (line.take column)

@[simp] theorem cellOf_zero (tabWidth : Nat) (line : Text) : cellOf tabWidth line 0 = 0 := by
  simp [cellOf, cellAfter]

theorem cellAfter_append (tabWidth cell : Nat) (s t : Text) :
    cellAfter tabWidth cell (s ++ t) = cellAfter tabWidth (cellAfter tabWidth cell s) t := by
  induction s generalizing cell with
  | nil => rfl
  | cons c rest ih => exact ih _

/-- A tab ends on a tab stop. -/
theorem dvd_add_cellWidthAt_tab (tabWidth cell : Nat) :
    max tabWidth 1 ∣ cell + cellWidthAt tabWidth '\t' cell := by
  have hpos : 0 < max tabWidth 1 := by omega
  have hlt := Nat.mod_lt cell hpos
  have hdiv := Nat.div_add_mod cell (max tabWidth 1)
  refine ⟨cell / max tabWidth 1 + 1, ?_⟩
  rw [cellWidthAt, if_pos rfl, Nat.mul_add]
  omega

end EditorPane
