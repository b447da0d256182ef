/-!
# Positions and spans

Logical coordinates in a text. Lines count from one and columns from zero, both in characters,
so a parser's `(line, column)` pair is a position as it stands. Positions are ordered line first;
a span is a half-open range between two positions in that order.

## Main definitions

* `Position`, with `Position.moveRight` — a place and the place some columns further on.
* `Span`, `Span.between`, `Span.singleChar` — half-open ranges, given by any two ends or by the
  one character they cover.
-/

namespace EditorPane

/-- The largest column that moving to the right can reach. -/
def maxColumn : Nat := UInt64.size - 1

/-- A place in a text: a line counted from one and a column counted from zero. -/
structure Position where
  line : Nat
  column : Nat
  deriving DecidableEq, Repr, Inhabited

namespace Position

/-! ## Order -/

instance : LT Position where
  lt p q := p.line < q.line ∨ (p.line = q.line ∧ p.column < q.column)

instance : LE Position where
  le p q := p.line < q.line ∨ (p.line = q.line ∧ p.column ≤ q.column)

theorem lt_iff {p q : Position} :
    p < q ↔ p.line < q.line ∨ (p.line = q.line ∧ p.column < q.column) := Iff.rfl

theorem le_iff {p q : Position} :
    p ≤ q ↔ p.line < q.line ∨ (p.line = q.line ∧ p.column ≤ q.column) := Iff.rfl

instance : DecidableLT Position := fun _ _ => inferInstanceAs (Decidable (_ ∨ _))

instance : DecidableLE Position := fun _ _ => inferInstanceAs (Decidable (_ ∨ _))

/-- Line first, then column. -/
instance : Ord Position where
  compare p q := (compare p.line q.line).then (compare p.column q.column)

protected theorem le_refl (p : Position) : p ≤ p := Or.inr ⟨rfl, Nat.le_refl _⟩

protected theorem le_trans {p q r : Position} (h : p ≤ q) (g : q ≤ r) : p ≤ r := by
  simp only [le_iff] at *
  omega

protected theorem le_of_lt {p q : Position} (h : p < q) : p ≤ q := by
  simp only [le_iff, lt_iff] at *
  omega

protected theorem not_lt {p q : Position} : ¬ p < q ↔ q ≤ p := by
  simp only [le_iff, lt_iff]
  omega

protected theorem le_antisymm {p q : Position} (h : p ≤ q) (g : q ≤ p) : p = q := by
  obtain ⟨l, c⟩ := p
  obtain ⟨m, d⟩ := q
  simp only [le_iff] at h g
  simp only [mk.injEq]
  omega

/-! ## Moving and printing -/

/-- The position `n` columns further right on the same line. The column stops at `maxColumn` and
never moves left. -/
def moveRight (p : Position) (n : Nat) : Position :=
  { p with column := max p.column (min (p.column + n) maxColumn) }

@[simp] theorem line_moveRight (p : Position) (n : Nat) : (p.moveRight n).line = p.line := rfl

theorem column_moveRight {p : Position} {n : Nat} (h : p.column + n ≤ maxColumn) :
    (p.moveRight n).column = p.column + n := by
  simp only [moveRight]
  omega

theorem le_moveRight (p : Position) (n : Nat) : p ≤ p.moveRight n :=
  Or.inr ⟨rfl, Nat.le_max_left _ _⟩

/-- Written `line:column`. -/
instance : ToString Position where
  toString p := s!"{p.line}:{p.column}"

end Position

/-- A half-open range of text. Its ends are in order. -/
structure Span where
  start : Position
  stop : Position
  ordered : start ≤ stop
  deriving DecidableEq, Repr

namespace Span

/-- The span with the given ends, whichever comes first. -/
def between (p q : Position) : Span :=
  if h : q < p then ⟨q, p, Position.le_of_lt h⟩ else ⟨p, q, Position.not_lt.1 h⟩

/-- The span of the one character at `p`; empty at the last column there is. -/
def singleChar (p : Position) : Span := between p (p.moveRight 1)

/-- No text lies in the span. -/
def isEmpty (s : Span) : Bool := s.start = s.stop

/-- `p` lies in the span: the start belongs to it, the stop does not. -/
def contains (s : Span) (p : Position) : Bool := s.start ≤ p && p < s.stop

/-- By start, then by stop. -/
instance : Ord Span where
  compare s t := (compare s.start t.start).then (compare s.stop t.stop)

/-- Written `start..stop`. -/
instance : ToString Span where
  toString s := s!"{s.start}..{s.stop}"

theorem between_of_le {p q : Position} (h : p ≤ q) : between p q = ⟨p, q, h⟩ := by
  rw [between, dif_neg (Position.not_lt.2 h)]

theorem between_comm (p q : Position) : between p q = between q p := by
  unfold between
  split <;> split
  · rename_i h g
    simp only [Position.lt_iff] at h g
    omega
  · rfl
  · rfl
  · rename_i h g
    simp only [mk.injEq]
    have := Position.le_antisymm (Position.not_lt.1 h) (Position.not_lt.1 g)
    exact ⟨this, this.symm⟩

@[simp] theorem start_singleChar (p : Position) : (singleChar p).start = p := by
  rw [singleChar, between_of_le (p.le_moveRight 1)]

@[simp] theorem stop_singleChar (p : Position) : (singleChar p).stop = p.moveRight 1 := by
  rw [singleChar, between_of_le (p.le_moveRight 1)]

end Span

end EditorPane
