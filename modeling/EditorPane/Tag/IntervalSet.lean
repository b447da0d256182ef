import EditorPane.Tag.Interval

/-!
# Sets of tagged ranges

The ranges of one class are kept in an array, sorted by start; ranges with one start stay in the
order in which they were made. Each entry also holds its reach, the greatest end among the ranges
up to and including it. Looking up an offset bisects for the last range that starts at or before
it and scans down from there until the reach says that nothing further down can cover it.

## Main definitions

* `IntervalSet`, with its views `toList` and `ofList`.
* `IntervalSet.insert`, `IntervalSet.covering` — adding a range, and the ranges over an offset.
* `IntervalSet.afterInsertion`, `IntervalSet.afterDeletion` — what becomes of the set in an edit, in
  words.
* `IntervalSet.followInsertion`, `IntervalSet.followDeletion` — what becomes of the set of a text.
-/

namespace EditorPane

/-- A range with the greatest end of the ranges up to it. -/
structure Entry where
  interval : Interval
  reach : Nat
  deriving DecidableEq, Repr, Inhabited

/-- The ranges with their reaches, given the reach of what comes before them. -/
def withReach (reach : Nat) : List Interval → List Entry
  | [] => []
  | i :: rest => ⟨i, max reach i.stop⟩ :: withReach (max reach i.stop) rest

@[simp] theorem map_interval_withReach (reach : Nat) (l : List Interval) :
    (withReach reach l).map Entry.interval = l := by
  induction l generalizing reach with
  | nil => rfl
  | cons i rest ih => simp [withReach, ih]

/-- Sorted ranges with their reaches. -/
structure IntervalSet where
  entries : Array Entry
  deriving DecidableEq, Repr, Inhabited

namespace IntervalSet

/-! ## Views -/

/-- No ranges. -/
def empty : IntervalSet := ⟨#[]⟩

/-- The ranges in order. -/
def toList (s : IntervalSet) : List Interval := s.entries.toList.map Entry.interval

/-- The set of the given ranges, which are taken to be in order. -/
def ofList (l : List Interval) : IntervalSet := ⟨(withReach 0 l).toArray⟩

/-- The number of ranges. -/
def size (s : IntervalSet) : Nat := s.entries.size

/-- There are no ranges. -/
def isEmpty (s : IntervalSet) : Bool := s.entries.isEmpty

@[simp] theorem toList_empty : empty.toList = [] := rfl

@[simp] theorem toList_ofList (l : List Interval) : (ofList l).toList = l := by
  simp [toList, ofList]

@[simp] theorem length_toList (s : IntervalSet) : s.toList.length = s.size := by
  simp [toList, size]

/-! ## Bisection -/

/-- Between `lo` and `hi`, the first entry that starts past `offset`, found by bisection. -/
def bisect (entries : Array Entry) (offset lo hi : Nat) : Nat :=
  if lo < hi then
    match entries[lo + (hi - lo) / 2]? with
    | none => lo
    | some e =>
      if e.interval.start ≤ offset then bisect entries offset (lo + (hi - lo) / 2 + 1) hi
      else bisect entries offset lo (lo + (hi - lo) / 2)
  else lo
termination_by hi - lo

/-- How many ranges start at or before `offset`. -/
def countUpTo (s : IntervalSet) (offset : Nat) : Nat :=
  bisect s.entries offset 0 s.entries.size

/-! ## Operations -/

/-- The set with one more range, placed after those that start no later. Empty ranges are left
out. Only the reaches from the new range on are computed again. -/
def insert (s : IntervalSet) (i : Interval) : IntervalSet :=
  if i.start < i.stop then
    let entries := s.entries.toList
    let place := s.countUpTo i.start
    let before := entries.take place
    let reach := (before.getLast?.map Entry.reach).getD 0
    ⟨(before ++ withReach reach (i :: (entries.drop place).map Entry.interval)).toArray⟩
  else s

/-- The ranges over `offset` among the first `n` entries, last one first. The scan ends at an
entry whose reach is not past `offset`. -/
def scanDown (entries : Array Entry) (offset : Nat) : Nat → List Interval
  | 0 => []
  | n + 1 =>
    match entries[n]? with
    | none => []
    | some e =>
      if e.reach ≤ offset then []
      else if e.interval.covers offset then e.interval :: scanDown entries offset n
      else scanDown entries offset n

/-- The ranges over `offset`, last one first. -/
def covering (s : IntervalSet) (offset : Nat) : List Interval :=
  scanDown s.entries offset (s.countUpTo offset)

/-- The set once `count` characters are inserted before `offset`. -/
def afterInsertion (s : IntervalSet) (offset count : Nat) : IntervalSet :=
  ofList (s.toList.map (Interval.afterInsertion offset count))

/-- The set once the text from `start` up to `stop` is deleted. -/
def afterDeletion (s : IntervalSet) (start stop : Nat) : IntervalSet :=
  ofList ((s.toList.filterMap (Interval.afterDeletion start stop)).mergeSort
    fun i j => i.start ≤ j.start)

/-- The set of a text in which `count` characters are inserted before `offset`. -/
def followInsertion (s : IntervalSet) (offset count : Nat) : IntervalSet :=
  ofList (s.toList.map (Interval.followInsertion offset count))

/-- The set of a text from which the part from `start` up to `stop` is deleted. -/
def followDeletion (s : IntervalSet) (start stop : Nat) : IntervalSet :=
  ofList ((s.toList.filterMap (Interval.followDeletion start stop)).mergeSort
    fun i j => i.start ≤ j.start)

@[simp] theorem toList_followInsertion (s : IntervalSet) (offset count : Nat) :
    (s.followInsertion offset count).toList
      = s.toList.map (Interval.followInsertion offset count) :=
  toList_ofList _

@[simp] theorem toList_followDeletion (s : IntervalSet) (start stop : Nat) :
    (s.followDeletion start stop).toList
      = (s.toList.filterMap (Interval.followDeletion start stop)).mergeSort
          fun i j => i.start ≤ j.start :=
  toList_ofList _

theorem toList_insert (s : IntervalSet) {i : Interval} (h : i.start < i.stop) :
    (s.insert i).toList
      = s.toList.take (s.countUpTo i.start) ++ i :: s.toList.drop (s.countUpTo i.start) := by
  rw [insert, if_pos h]
  simp [toList]

theorem insert_of_le (s : IntervalSet) {i : Interval} (h : i.stop ≤ i.start) : s.insert i = s :=
  if_neg (Nat.not_lt_of_ge h)

end IntervalSet

end EditorPane
