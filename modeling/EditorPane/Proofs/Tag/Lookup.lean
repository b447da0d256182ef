import EditorPane.Proofs.Tag.Following
import Mathlib.Data.List.TakeWhile
import Mathlib.Order.Bounds.Basic

/-!
# Looking up an offset

As long as the ranges of a class are sorted by start and carry their true reaches, a look-up finds
what going through all of them would: bisection ends where the starts pass the offset, and a scan
that stops at a reach misses nothing further down. Every operation keeps ranges that way.

## Main definitions

* `IntervalSet.WellFormed` — sorted ranges with their true reaches.
* `Layers.IsTagged` — a class is tagged at an offset.

## Main results

* `IntervalSet.WellFormed.covering_eq` — a look-up finds the ranges over an offset, last one first.
* `IntervalSet.WellFormed.insert`, `IntervalSet.wellFormed_followDeletion`,
  `IntervalSet.WellFormed.followInsertion`.
-/

namespace EditorPane

/-! ## Reaches -/

/-- The greatest among the given reach and the ends of ranges. -/
def reachOf (reach : Nat) (l : List Interval) : Nat := l.foldl (fun r i => max r i.stop) reach

@[simp] theorem reachOf_nil (reach : Nat) : reachOf reach [] = reach := rfl

@[simp] theorem reachOf_cons (reach : Nat) (i : Interval) (l : List Interval) :
    reachOf reach (i :: l) = reachOf (max reach i.stop) l := rfl

theorem withReach_append (reach : Nat) (l m : List Interval) :
    withReach reach (l ++ m) = withReach reach l ++ withReach (reachOf reach l) m := by
  induction l generalizing reach with
  | nil => rfl
  | cons i rest ih => simp only [List.cons_append, withReach, ih, reachOf_cons]

theorem take_withReach (reach : Nat) (l : List Interval) (n : Nat) :
    (withReach reach l).take n = withReach reach (l.take n) := by
  induction l generalizing reach n with
  | nil => simp [withReach]
  | cons i rest ih =>
    cases n with
    | zero => rfl
    | succ n => simp only [withReach, List.take_succ_cons, ih]

theorem getElem?_withReach (reach : Nat) (l : List Interval) (n : Nat) :
    (withReach reach l)[n]? = l[n]?.map fun i => ⟨i, reachOf reach (l.take (n + 1))⟩ := by
  induction l generalizing reach n with
  | nil => rfl
  | cons i rest ih =>
    cases n with
    | zero => rfl
    | succ n =>
      simp only [withReach, List.getElem?_cons_succ, ih, List.take_succ_cons, reachOf_cons]

/-- The reach of the last entry is that of all ranges. -/
theorem reach_getLast?_withReach (reach : Nat) (l : List Interval) :
    ((withReach reach l).getLast?.map Entry.reach).getD reach = reachOf reach l := by
  rcases List.eq_nil_or_concat l with rfl | ⟨before, i, rfl⟩
  · rfl
  · rw [List.concat_eq_append, withReach_append, withReach, withReach, List.getLast?_concat]
    simp [reachOf]

theorem le_reachOf (reach : Nat) (l : List Interval) : reach ≤ reachOf reach l := by
  induction l generalizing reach with
  | nil => exact Nat.le_refl _
  | cons i rest ih => exact (Nat.le_max_left _ _).trans (ih (max reach i.stop))

theorem stop_le_reachOf {reach : Nat} {l : List Interval} {i : Interval} (h : i ∈ l) :
    i.stop ≤ reachOf reach l := by
  induction l generalizing reach with
  | nil => cases h
  | cons j rest ih =>
    rcases List.mem_cons.1 h with rfl | h
    · exact (Nat.le_max_right _ _).trans (le_reachOf _ rest)
    · exact ih h

theorem reachOf_eq_or_exists_stop (reach : Nat) (l : List Interval) :
    reachOf reach l = reach ∨ ∃ i ∈ l, i.stop = reachOf reach l := by
  induction l generalizing reach with
  | nil => exact .inl rfl
  | cons i rest ih =>
    rw [reachOf_cons]
    rcases ih (max reach i.stop) with h | ⟨j, hj, h⟩
    · rcases Nat.le_total i.stop reach with hle | hle
      · exact .inl (h.trans (Nat.max_eq_left hle))
      · exact .inr ⟨i, List.mem_cons_self, (h.trans (Nat.max_eq_right hle)).symm⟩
    · exact .inr ⟨j, List.mem_cons_of_mem i hj, h⟩

/-! ## Well-formed sets -/

namespace IntervalSet

/-- The ranges are sorted by start, and each has the reach of the ranges up to it. -/
structure WellFormed (s : IntervalSet) : Prop where
  sorted : s.toList.Pairwise fun i j => i.start ≤ j.start
  reaches : s.entries.toList = withReach 0 s.toList

theorem wellFormed_ofList {l : List Interval} (h : l.Pairwise fun i j => i.start ≤ j.start) :
    (ofList l).WellFormed := by
  refine ⟨by rwa [toList_ofList], ?_⟩
  rw [toList_ofList, ofList]

theorem wellFormed_empty : empty.WellFormed := wellFormed_ofList (l := []) List.Pairwise.nil

namespace WellFormed

variable {s : IntervalSet} {e : Entry} {n offset : Nat}

theorem ofList_toList (h : s.WellFormed) : ofList s.toList = s := by
  rw [ofList, ← h.reaches]

theorem getElem?_entries (h : s.WellFormed) (n : Nat) :
    s.entries[n]? = s.toList[n]?.map fun i => ⟨i, reachOf 0 (s.toList.take (n + 1))⟩ := by
  rw [← Array.getElem?_toList, h.reaches, getElem?_withReach]

/-- The reach of an entry is the greatest end among the ranges up to it. -/
theorem isGreatest_reach (h : s.WellFormed) (hn : s.entries[n]? = some e) :
    IsGreatest {stop | ∃ i ∈ s.toList.take (n + 1), i.stop = stop} e.reach := by
  rw [h.getElem?_entries, Option.map_eq_some_iff] at hn
  obtain ⟨i, hi, rfl⟩ := hn
  have hmem : i ∈ s.toList.take (n + 1) := by
    rw [List.take_add_one, hi]
    exact List.mem_append_right _ (List.mem_singleton_self i)
  refine ⟨?_, ?_⟩
  · rcases reachOf_eq_or_exists_stop 0 (s.toList.take (n + 1)) with hzero | hstop
    · have hle : i.stop ≤ reachOf 0 (s.toList.take (n + 1)) := stop_le_reachOf hmem
      exact ⟨i, hmem, by dsimp only; omega⟩
    · exact hstop
  · rintro stop ⟨j, hj, rfl⟩
    exact stop_le_reachOf hj

theorem start_le_start (h : s.WellFormed) {m : Nat} {i j : Interval} (hmn : m ≤ n)
    (hi : s.toList[m]? = some i) (hj : s.toList[n]? = some j) : i.start ≤ j.start := by
  obtain ⟨hm, rfl⟩ := List.getElem?_eq_some_iff.1 hi
  obtain ⟨hn, rfl⟩ := List.getElem?_eq_some_iff.1 hj
  rcases Nat.eq_or_lt_of_le hmn with rfl | hlt
  · exact Nat.le_refl _
  · exact List.pairwise_iff_getElem.1 h.sorted m n hm hn hlt

/-! ### Bisection -/

/-- Bisection splits the entries at an offset: those before the place found start at or before it,
all others past it. -/
theorem bisect_splits (h : s.WellFormed) (lo hi : Nat) (hle : lo ≤ hi) (hsize : hi ≤ s.size)
    (hbelow : ∀ n < lo, ∀ i, s.toList[n]? = some i → i.start ≤ offset)
    (habove : ∀ n, hi ≤ n → ∀ i, s.toList[n]? = some i → offset < i.start) :
    bisect s.entries offset lo hi ≤ s.size ∧
      (∀ n < bisect s.entries offset lo hi, ∀ i, s.toList[n]? = some i → i.start ≤ offset) ∧
      ∀ n, bisect s.entries offset lo hi ≤ n → ∀ i, s.toList[n]? = some i → offset < i.start := by
  induction lo, hi using bisect.induct s.entries offset with
  | case1 lo hi hlt hnone =>
    have hmid : lo + (hi - lo) / 2 < s.entries.size := Nat.lt_of_lt_of_le (by omega) hsize
    rw [Array.getElem?_eq_getElem hmid] at hnone
    cases hnone
  | case2 lo hi hlt e hsome hstart ih =>
    rw [bisect, if_pos hlt, hsome]
    simp only [if_pos hstart]
    rw [h.getElem?_entries, Option.map_eq_some_iff] at hsome
    obtain ⟨j, hj, rfl⟩ := hsome
    refine ih (by omega) hsize (fun n hn i hi => ?_) habove
    exact (h.start_le_start (Nat.le_of_lt_succ hn) hi hj).trans hstart
  | case3 lo hi hlt e hsome hstart ih =>
    rw [bisect, if_pos hlt, hsome]
    simp only [if_neg hstart]
    rw [h.getElem?_entries, Option.map_eq_some_iff] at hsome
    obtain ⟨j, hj, rfl⟩ := hsome
    refine ih (by omega) (by omega) hbelow fun n hn i hi => ?_
    exact Nat.lt_of_lt_of_le (Nat.lt_of_not_le hstart) (h.start_le_start hn hj hi)
  | case4 lo hi hge =>
    rw [bisect, if_neg hge]
    exact ⟨hle.trans hsize, hbelow, fun n hn => habove n (by omega)⟩

theorem countUpTo_splits (h : s.WellFormed) (offset : Nat) :
    s.countUpTo offset ≤ s.size ∧
      (∀ n < s.countUpTo offset, ∀ i, s.toList[n]? = some i → i.start ≤ offset) ∧
      ∀ n, s.countUpTo offset ≤ n → ∀ i, s.toList[n]? = some i → offset < i.start := by
  refine h.bisect_splits 0 s.size (Nat.zero_le _) (Nat.le_refl _) (fun n hn => ?_)
    fun n hn i hi => ?_
  · exact absurd hn (Nat.not_lt_zero n)
  · obtain ⟨hlt, -⟩ := List.getElem?_eq_some_iff.1 hi
    rw [length_toList] at hlt
    exact absurd hlt (Nat.not_lt_of_ge hn)

theorem start_le_of_mem_take (h : s.WellFormed) {i : Interval}
    (hi : i ∈ s.toList.take (s.countUpTo offset)) : i.start ≤ offset := by
  obtain ⟨n, hn⟩ := List.mem_iff_getElem?.1 hi
  rw [List.getElem?_take] at hn
  split at hn
  · next hlt => exact (h.countUpTo_splits offset).2.1 n hlt i hn
  · cases hn

theorem lt_start_of_mem_drop (h : s.WellFormed) {i : Interval}
    (hi : i ∈ s.toList.drop (s.countUpTo offset)) : offset < i.start := by
  obtain ⟨n, hn⟩ := List.mem_iff_getElem?.1 hi
  rw [List.getElem?_drop] at hn
  exact (h.countUpTo_splits offset).2.2 _ (Nat.le_add_right _ n) i hn

/-! ### Scanning -/

/-- The scan may end at a reach, since nothing further down covers the offset. -/
theorem scanDown_eq (h : s.WellFormed) (hn : n ≤ s.size) :
    scanDown s.entries offset n
      = ((s.toList.take n).filter fun i => i.covers offset).reverse := by
  induction n with
  | zero => rfl
  | succ n ih =>
    have hlt : n < s.toList.length := by rw [length_toList]; exact hn
    have hget : s.toList[n]? = some s.toList[n] := List.getElem?_eq_getElem hlt
    rw [scanDown, h.getElem?_entries, hget]
    simp only [Option.map_some]
    split
    · next hreach =>
      symm
      rw [List.reverse_eq_nil_iff, List.filter_eq_nil_iff]
      intro i hi
      have hstop : i.stop ≤ reachOf 0 (s.toList.take (n + 1)) := stop_le_reachOf hi
      rw [Interval.covers_iff]
      omega
    · rw [List.take_add_one, hget, Option.toList_some, List.filter_append, List.reverse_append,
        ih (Nat.le_of_succ_le hn)]
      split <;> simp [*]

/-- A look-up finds the ranges over an offset, last one first. -/
theorem covering_eq (h : s.WellFormed) (offset : Nat) :
    s.covering offset = (s.toList.filter fun i => i.covers offset).reverse := by
  have hpast : (s.toList.drop (s.countUpTo offset)).filter (fun i => i.covers offset) = [] := by
    rw [List.filter_eq_nil_iff]
    intro i hi
    have hlt := h.lt_start_of_mem_drop hi
    rw [Interval.covers_iff]
    omega
  have hall : s.toList.filter (fun i => i.covers offset)
      = (s.toList.take (s.countUpTo offset)).filter fun i => i.covers offset := by
    conv_lhs => rw [← List.take_append_drop (s.countUpTo offset) s.toList]
    rw [List.filter_append, hpast, List.append_nil]
  rw [covering, h.scanDown_eq (h.countUpTo_splits offset).1, hall]

theorem mem_covering (h : s.WellFormed) {i : Interval} :
    i ∈ s.covering offset ↔ i ∈ s.toList ∧ i.covers offset = true := by
  rw [h.covering_eq, List.mem_reverse, List.mem_filter]

/-! ### Operations -/

protected theorem insert (h : s.WellFormed) (i : Interval) : (s.insert i).WellFormed := by
  by_cases hlt : i.start < i.stop
  swap
  · rwa [insert_of_le s (Nat.le_of_not_lt hlt)]
  refine ⟨?_, ?_⟩
  · have hsorted := h.sorted
    rw [← List.take_append_drop (s.countUpTo i.start) s.toList, List.pairwise_append] at hsorted
    obtain ⟨hbefore, hafter, hcross⟩ := hsorted
    rw [toList_insert s hlt, List.pairwise_append, List.pairwise_cons]
    refine ⟨hbefore, ⟨fun j hj => Nat.le_of_lt (h.lt_start_of_mem_drop hj), hafter⟩, ?_⟩
    intro j hj k hk
    rcases List.mem_cons.1 hk with rfl | hk
    · exact h.start_le_of_mem_take hj
    · exact hcross j hj k hk
  · -- Only the entries from the new one on are computed again, from the reach of those before.
    have hentries : s.entries.toList.take (s.countUpTo i.start)
        = withReach 0 (s.toList.take (s.countUpTo i.start)) := by
      rw [h.reaches, take_withReach]
    rw [toList_insert s hlt, withReach_append, IntervalSet.insert, if_pos hlt]
    simp only [hentries, reach_getLast?_withReach, toList, List.map_drop]

protected theorem followInsertion (h : s.WellFormed) (offset count : Nat) :
    (s.followInsertion offset count).WellFormed := by
  refine wellFormed_ofList (List.pairwise_map.2 (h.sorted.imp fun hle => ?_))
  grind [Interval.followInsertion]

end WellFormed

theorem wellFormed_followDeletion (s : IntervalSet) (start stop : Nat) :
    (s.followDeletion start stop).WellFormed := by
  refine wellFormed_ofList ((List.pairwise_mergeSort (fun a b c hab hbc => ?_)
    (fun a b => ?_) _).imp of_decide_eq_true)
  · simp only [decide_eq_true_eq] at hab hbc ⊢
    exact hab.trans hbc
  · simp only [Bool.or_eq_true, decide_eq_true_eq]
    exact Nat.le_total a.start b.start

end IntervalSet

/-! ## All classes -/

namespace Layers

variable {l : Layers} {c : VisualClass} {offset : Nat}

/-- A range of the class lies over the offset. -/
def IsTagged (l : Layers) (c : VisualClass) (offset : Nat) : Prop :=
  ∃ i ∈ (l.get c).toList, i.covers offset = true

theorem isTagged_iff_exists_mem_tagsAt : l.IsTagged c offset ↔ ∃ q, (c, q) ∈ l.tagsAt offset := by
  simp only [IsTagged, mem_tagsAt]
  grind

/-- The ranges of every class of a layer are in order. -/
def WellFormedIn (l : Layers) (layer : Layer) : Prop :=
  ∀ c : VisualClass, c.layer = layer → (l.get c).WellFormed

section

variable (h : (l.get c).WellFormed)

include h

theorem wellFormed_get_insert (d : VisualClass) (i : Interval) :
    ((l.insert d i).get c).WellFormed := by
  rw [get_insert]
  split
  · exact h.insert i
  · exact h

theorem wellFormed_get_erase (d : VisualClass) : ((l.erase d).get c).WellFormed := by
  rw [get_erase]
  split
  · exact IntervalSet.wellFormed_empty
  · exact h

theorem wellFormed_get_afterInsertion (offset count : Nat) :
    ((l.afterInsertion offset count).get c).WellFormed := by
  rcases Nat.eq_zero_or_pos count with rfl | hpos
  · exact h
  · rw [get_afterInsertion_of_pos l offset hpos]
    exact h.followInsertion offset count

theorem wellFormed_get_afterDeletion (start stop : Nat) :
    ((l.afterDeletion start stop).get c).WellFormed := by
  by_cases hlt : start < stop
  · rw [get_afterDeletion_of_lt l hlt]
    exact IntervalSet.wellFormed_followDeletion _ start stop
  · rw [afterDeletion, if_pos (Nat.le_of_not_lt hlt)]
    exact h

end

end Layers

end EditorPane
