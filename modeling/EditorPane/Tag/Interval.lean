import EditorPane.Machine

/-!
# Tagged ranges

A tagged range is a half-open range of offsets together with the number of the tag call that made
it; a larger number means a later call. A range goes along with an edit of its text: an insertion at
its start pushes it on, one strictly inside it makes it longer, and a deletion takes away what it
covered of the deleted text. A range that loses all of its text is gone.

A machine tells these cases apart and computes with words. In a text that a machine can hold no end
comes near the largest word, and a range comes to the same place by moving its two ends.

## Main definitions

* `Interval`, `Interval.covers`.
* `Interval.afterInsertion`, `Interval.afterDeletion` — what becomes of a range, in words.
* `Interval.followInsertion`, `Interval.followDeletion` — what becomes of a range of a text.
-/

namespace EditorPane

/-- A half-open range of offsets, tagged by call number `seq`. -/
structure Interval where
  start : Nat
  stop : Nat
  seq : Nat
  deriving DecidableEq, Repr, Inhabited

/-- Where the boundary at `offset` lies once the text from `start` up to `stop` is deleted. -/
def offsetAfterDeletion (start stop offset : Nat) : Nat :=
  if offset ≤ start then offset else max start (offset - (stop - start))

namespace Interval

/-- The character at `offset` lies in the range. -/
def covers (i : Interval) (offset : Nat) : Bool := i.start ≤ offset && offset < i.stop

@[simp] theorem covers_iff {i : Interval} {offset : Nat} :
    i.covers offset = true ↔ i.start ≤ offset ∧ offset < i.stop := by
  simp [covers]

/-! ## In words -/

/-- The range once `count` characters are inserted before `offset`. -/
def afterInsertion (offset count : Nat) (i : Interval) : Interval :=
  if offset ≤ i.start then
    { i with start := wordAdd i.start count, stop := wordAdd i.stop count }
  else if offset < i.stop then { i with stop := wordAdd i.stop count }
  else i

/-- The range once the text from `start` up to `stop` is deleted, if any of it is left. -/
def afterDeletion (start stop : Nat) (i : Interval) : Option Interval :=
  let count := wordSub stop start
  if i.stop ≤ start then some i
  else if stop ≤ i.start then
    some { i with start := wordSub i.start count, stop := wordSub i.stop count }
  else if start ≤ i.start ∧ i.stop ≤ stop then none
  else if i.start < start ∧ stop < i.stop then some { i with stop := wordSub i.stop count }
  else if i.start < start then some { i with stop := start }
  else some { i with start := start, stop := wordSub i.stop count }

/-! ## In a text -/

/-- The range of a text in which `count` characters are inserted before `offset`. -/
def followInsertion (offset count : Nat) (i : Interval) : Interval :=
  { i with
    start := if offset ≤ i.start then i.start + count else i.start
    stop := if offset < i.stop then i.stop + count else i.stop }

/-- The range of a text from which the part from `start` up to `stop` is deleted, if any of it is
left. -/
def followDeletion (start stop : Nat) (i : Interval) : Option Interval :=
  let first := offsetAfterDeletion start stop i.start
  let last := offsetAfterDeletion start stop i.stop
  if first < last then some { i with start := first, stop := last } else none

@[simp] theorem seq_followInsertion (offset count : Nat) (i : Interval) :
    (i.followInsertion offset count).seq = i.seq := rfl

theorem seq_of_followDeletion {start stop : Nat} {i j : Interval}
    (h : i.followDeletion start stop = some j) : j.seq = i.seq := by
  simp only [followDeletion] at h
  split at h <;> simp_all
  rw [← h]

end Interval

end EditorPane
