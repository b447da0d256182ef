import EditorPane.Tag.Layers
import Mathlib.Data.Finset.Lattice.Lemmas
import Mathlib.Data.List.Nodup

/-!
# Tags follow the text

What an insertion or a deletion does to tagged ranges is said here for single characters: a
character that stays keeps its tags, wherever it moves, and a character that is put in gets the
tags that reach from the character before it to the one after it. For the latter the tags have to be
told apart by their numbers, which `Layers.Sound` says they are.

## Main definitions

* `Layers.tagsAt` — the tags over an offset.
* `Interval.Fits`, `Layers.Sound` — ranges lie in the text and have numbers of their own.

## Main results

* `Layers.tagsAt_afterDeletion`, `Layers.tagsAt_afterInsertion_of_lt`,
  `Layers.tagsAt_afterInsertion_of_le`, `Layers.tagsAt_afterInsertion_inside`.
* `Layers.Sound.afterDeletion`, `Layers.Sound.afterInsertion`, `Layers.Sound.insert`.
-/

namespace EditorPane

/-! ## One range -/

namespace Interval

theorem followDeletion_eq_some {start stop : Nat} {i j : Interval} :
    i.followDeletion start stop = some j ↔
      offsetAfterDeletion start stop i.start < offsetAfterDeletion start stop i.stop ∧
        j = ⟨offsetAfterDeletion start stop i.start, offsetAfterDeletion start stop i.stop,
          i.seq⟩ := by
  simp only [followDeletion]
  split <;> simp_all [eq_comm]

/-- A deletion takes the deleted characters out of a range, and the range away with the last. -/
theorem covers_followDeletion {start stop : Nat} (hle : start ≤ stop) (i : Interval)
    (offset : Nat) : (∃ j, i.followDeletion start stop = some j ∧ j.covers offset = true) ↔
      i.covers (if offset < start then offset else offset + (stop - start)) = true := by
  have hmoved : (∃ j, i.followDeletion start stop = some j ∧ j.covers offset = true) ↔
      offsetAfterDeletion start stop i.start ≤ offset ∧
        offset < offsetAfterDeletion start stop i.stop := by
    constructor
    · rintro ⟨j, hj, hcovers⟩
      obtain ⟨-, rfl⟩ := followDeletion_eq_some.1 hj
      exact covers_iff.1 hcovers
    · intro h
      exact ⟨_, followDeletion_eq_some.2 ⟨Nat.lt_of_le_of_lt h.1 h.2, rfl⟩, covers_iff.2 h⟩
  rw [hmoved, covers_iff]
  grind [offsetAfterDeletion]

theorem followInsertion_zero (offset : Nat) : followInsertion offset 0 = id := by
  funext i
  simp [followInsertion]

theorem covers_followInsertion_of_lt (i : Interval) {offset count o : Nat} (h : o < offset) :
    (i.followInsertion offset count).covers o = i.covers o := by
  rw [Bool.eq_iff_iff, covers_iff, covers_iff]
  grind [followInsertion]

theorem covers_followInsertion_of_le (i : Interval) {offset count o : Nat}
    (h : offset + count ≤ o) :
    (i.followInsertion offset count).covers o = i.covers (o - count) := by
  rw [Bool.eq_iff_iff, covers_iff, covers_iff]
  grind [followInsertion]

/-- What is inserted belongs to the ranges that it is strictly inside of. -/
theorem covers_followInsertion_inside (i : Interval) {offset count o : Nat} (hle : offset ≤ o)
    (hlt : o < offset + count) :
    (i.followInsertion offset count).covers o = true ↔ i.start < offset ∧ offset < i.stop := by
  rw [covers_iff]
  grind [followInsertion]

/-- The range has characters, all of them among the first `length`, and a number below `next`. -/
structure Fits (length next : Nat) (i : Interval) : Prop where
  nonempty : i.start < i.stop
  inside : i.stop ≤ length
  numbered : i.seq < next

namespace Fits

variable {length next : Nat} {i j : Interval}

theorem followInsertion (h : i.Fits length next) (offset count : Nat) :
    (i.followInsertion offset count).Fits (length + count) next := by
  obtain ⟨hnonempty, hinside, hnumbered⟩ := h
  exact ⟨by grind [Interval.followInsertion], by grind [Interval.followInsertion], hnumbered⟩

theorem followDeletion (h : i.Fits length next) {start stop : Nat} (hle : start ≤ stop)
    (hstop : stop ≤ length) (hj : i.followDeletion start stop = some j) :
    j.Fits (length - (stop - start)) next := by
  obtain ⟨hnonempty, hinside, hnumbered⟩ := h
  obtain ⟨hleft, rfl⟩ := followDeletion_eq_some.1 hj
  exact ⟨hleft, by grind [offsetAfterDeletion], hnumbered⟩

end Fits

end Interval

/-! ## The ranges of a class -/

namespace IntervalSet

theorem perm_toList_insert (s : IntervalSet) {i : Interval} (h : i.start < i.stop) :
    (s.insert i).toList.Perm (i :: s.toList) := by
  rw [toList_insert s h]
  exact List.perm_middle.trans (by rw [List.take_append_drop])

theorem perm_toList_followDeletion (s : IntervalSet) (start stop : Nat) :
    (s.followDeletion start stop).toList.Perm
      (s.toList.filterMap (Interval.followDeletion start stop)) := by
  rw [toList_followDeletion]
  exact List.mergeSort_perm _ _

end IntervalSet

theorem sublist_seq_filterMap (start stop : Nat) (l : List Interval) :
    ((l.filterMap (Interval.followDeletion start stop)).map Interval.seq).Sublist
      (l.map Interval.seq) := by
  induction l with
  | nil => exact List.Sublist.slnil
  | cons i rest ih =>
    cases hi : i.followDeletion start stop with
    | none =>
      rw [List.filterMap_cons_none hi]
      exact ih.cons i.seq
    | some j =>
      rw [List.filterMap_cons_some hi, List.map_cons, Interval.seq_of_followDeletion hi]
      exact ih.cons_cons i.seq

/-! ## All classes -/

namespace Layers

variable {l : Layers} {c : VisualClass} {start stop offset count o q : Nat}

theorem perm_toList_get_afterDeletion (hlt : start < stop) (l : Layers) (c : VisualClass) :
    ((l.afterDeletion start stop).get c).toList.Perm
      ((l.get c).toList.filterMap (Interval.followDeletion start stop)) := by
  rw [get_afterDeletion_of_lt l hlt]
  exact IntervalSet.perm_toList_followDeletion _ _ _

theorem mem_toList_get_afterDeletion (hlt : start < stop) {i : Interval} :
    i ∈ ((l.afterDeletion start stop).get c).toList ↔
      ∃ j ∈ (l.get c).toList, j.followDeletion start stop = some i := by
  rw [(perm_toList_get_afterDeletion hlt l c).mem_iff, List.mem_filterMap]

theorem toList_get_afterInsertion (l : Layers) (offset count : Nat) (c : VisualClass) :
    ((l.afterInsertion offset count).get c).toList
      = (l.get c).toList.map (Interval.followInsertion offset count) := by
  rcases Nat.eq_zero_or_pos count with rfl | hpos
  · rw [afterInsertion_zero, Interval.followInsertion_zero, List.map_id]
  · rw [get_afterInsertion_of_pos l offset hpos, IntervalSet.toList_followInsertion]

theorem length_flatMap_insert (l : Layers) (c : VisualClass) {i : Interval} (h : i.start < i.stop)
    (classes : List VisualClass) :
    (classes.flatMap fun d => ((l.insert c i).get d).toList).length
      = (classes.flatMap fun d => (l.get d).toList).length + classes.count c := by
  induction classes with
  | nil => rfl
  | cons d rest ih =>
    rw [List.flatMap_cons, List.flatMap_cons, List.length_append, List.length_append, ih,
      get_insert]
    by_cases hcd : c = d
    · subst hcd
      rw [if_pos rfl, ((l.get c).perm_toList_insert h).length_eq, List.length_cons,
        List.count_cons_self]
      omega
    · rw [if_neg hcd, List.count_cons_of_ne (Ne.symm hcd), Nat.add_assoc]

/-- A new range is one more in all. -/
theorem count_insert (l : Layers) (c : VisualClass) {i : Interval} (h : i.start < i.stop) :
    (l.insert c i).count = l.count + 1 := by
  have honce := List.count_eq_one_of_mem VisualClass.nodup_all c.mem_all
  rw [count, length_flatMap_insert l c h, honce, count]

/-- The tags over an offset, each a class with the number of its tag call. -/
def tagsAt (l : Layers) (offset : Nat) : Finset (VisualClass × Nat) :=
  (VisualClass.all.flatMap fun c =>
    ((l.get c).toList.filter fun i => i.covers offset).map fun i => (c, i.seq)).toFinset

@[simp] theorem mem_tagsAt :
    (c, q) ∈ l.tagsAt offset ↔ ∃ i ∈ (l.get c).toList, i.covers offset = true ∧ i.seq = q := by
  simp [tagsAt, VisualClass.mem_all, and_assoc]

/-- A character that is not deleted keeps its tags. -/
theorem tagsAt_afterDeletion (hle : start ≤ stop) :
    (l.afterDeletion start stop).tagsAt o
      = l.tagsAt (if o < start then o else o + (stop - start)) := by
  rcases Nat.eq_or_lt_of_le hle with rfl | hlt
  · simp
  ext ⟨c, q⟩
  rw [mem_tagsAt, mem_tagsAt]
  simp only [mem_toList_get_afterDeletion hlt]
  constructor
  · rintro ⟨j, ⟨i, hi, hij⟩, hcovers, rfl⟩
    exact ⟨i, hi, (i.covers_followDeletion hle o).1 ⟨j, hij, hcovers⟩,
      (Interval.seq_of_followDeletion hij).symm⟩
  · rintro ⟨i, hi, hcovers, rfl⟩
    obtain ⟨j, hij, hcovers⟩ := (i.covers_followDeletion hle o).2 hcovers
    exact ⟨j, ⟨i, hi, hij⟩, hcovers, Interval.seq_of_followDeletion hij⟩

theorem mem_tagsAt_afterInsertion : (c, q) ∈ (l.afterInsertion offset count).tagsAt o ↔
    ∃ i ∈ (l.get c).toList, (i.followInsertion offset count).covers o = true ∧ i.seq = q := by
  rw [mem_tagsAt, toList_get_afterInsertion]
  simp

theorem tagsAt_afterInsertion_of_lt (h : o < offset) :
    (l.afterInsertion offset count).tagsAt o = l.tagsAt o := by
  ext ⟨c, q⟩
  rw [mem_tagsAt_afterInsertion, mem_tagsAt]
  simp only [Interval.covers_followInsertion_of_lt _ h]

theorem tagsAt_afterInsertion_of_le (h : offset + count ≤ o) :
    (l.afterInsertion offset count).tagsAt o = l.tagsAt (o - count) := by
  ext ⟨c, q⟩
  rw [mem_tagsAt_afterInsertion, mem_tagsAt]
  simp only [Interval.covers_followInsertion_of_le _ h]

theorem mem_tagsAt_insert {i : Interval} (h : i.start < i.stop) {call : VisualClass × Nat} :
    call ∈ (l.insert c i).tagsAt o ↔
      call ∈ l.tagsAt o ∨ i.covers o = true ∧ call = (c, i.seq) := by
  obtain ⟨d, q⟩ := call
  rw [mem_tagsAt, mem_tagsAt, get_insert]
  split
  · next hcd =>
    simp only [((l.get d).perm_toList_insert h).mem_iff, List.exists_mem_cons_iff, hcd]
    grind
  · grind

theorem mem_tagsAt_erase {call : VisualClass × Nat} :
    call ∈ (l.erase c).tagsAt o ↔ call.1 ≠ c ∧ call ∈ l.tagsAt o := by
  obtain ⟨d, q⟩ := call
  rw [mem_tagsAt, mem_tagsAt, get_erase]
  split
  · next hcd => simp [hcd]
  · next hcd => simp [Ne.symm hcd]

/-! ## Sound layers -/

/-- In a text of `length` characters, and with the next tag call numbered `next`, every range fits,
and no two ranges of a class share a number. -/
structure Sound (l : Layers) (length next : Nat) : Prop where
  fits : ∀ c, ∀ i ∈ (l.get c).toList, i.Fits length next
  distinct : ∀ c, ((l.get c).toList.map Interval.seq).Nodup

namespace Sound

variable {length next : Nat}

theorem empty : Layers.empty.Sound length next := by
  constructor <;> simp

theorem start_lt_stop (h : l.Sound length next) (c : VisualClass) :
    ∀ i ∈ (l.get c).toList, i.start < i.stop :=
  fun i hi => (h.fits c i hi).nonempty

theorem eq_of_seq_eq (h : l.Sound length next) {i j : Interval} (hi : i ∈ (l.get c).toList)
    (hj : j ∈ (l.get c).toList) (hseq : i.seq = j.seq) : i = j :=
  List.inj_on_of_nodup_map (h.distinct c) hi hj hseq

/-- No tag reaches past the end of the text. -/
theorem tagsAt_eq_empty (h : l.Sound length next) (hle : length ≤ offset) :
    l.tagsAt offset = ∅ := by
  ext ⟨c, q⟩
  simp only [mem_tagsAt, Interval.covers_iff, Finset.notMem_empty, iff_false]
  rintro ⟨i, hi, hcovers, -⟩
  have := (h.fits c i hi).inside
  omega

theorem afterDeletion (h : l.Sound length next) (hle : start ≤ stop) (hstop : stop ≤ length) :
    (l.afterDeletion start stop).Sound (length - (stop - start)) next := by
  rcases Nat.eq_or_lt_of_le hle with rfl | hlt
  · simpa using h
  refine ⟨fun c i hi => ?_, fun c => ?_⟩
  · obtain ⟨j, hmem, hj⟩ := (mem_toList_get_afterDeletion hlt).1 hi
    exact (h.fits c j hmem).followDeletion hle hstop hj
  · rw [((perm_toList_get_afterDeletion hlt l c).map Interval.seq).nodup_iff]
    exact (h.distinct c).sublist (sublist_seq_filterMap start stop _)

theorem afterInsertion (h : l.Sound length next) (offset count : Nat) :
    (l.afterInsertion offset count).Sound (length + count) next := by
  refine ⟨fun c i hi => ?_, fun c => ?_⟩
  · rw [toList_get_afterInsertion] at hi
    obtain ⟨j, hj, rfl⟩ := List.mem_map.1 hi
    exact (h.fits c j hj).followInsertion offset count
  · rw [toList_get_afterInsertion, List.map_map]
    exact h.distinct c

theorem insert (h : l.Sound length next) (c : VisualClass) (hlt : start < stop)
    (hstop : stop ≤ length) : (l.insert c ⟨start, stop, next⟩).Sound length (next + 1) := by
  have hlater {d : VisualClass} {i : Interval} (hi : i ∈ (l.get d).toList) :
      i.Fits length (next + 1) :=
    { h.fits d i hi with numbered := Nat.lt_succ_of_lt (h.fits d i hi).numbered }
  have hperm := (l.get c).perm_toList_insert (i := ⟨start, stop, next⟩) hlt
  refine ⟨fun d i hi => ?_, fun d => ?_⟩
  · rw [get_insert] at hi
    split at hi
    · next hcd =>
      subst hcd
      rw [hperm.mem_iff, List.mem_cons] at hi
      rcases hi with rfl | hi
      · exact ⟨hlt, hstop, Nat.lt_succ_self next⟩
      · exact hlater hi
    · exact hlater hi
  · rw [get_insert]
    split
    · next hcd =>
      -- The new number is not taken, since all others are below it.
      subst hcd
      rw [(hperm.map Interval.seq).nodup_iff, List.map_cons, List.nodup_cons]
      refine ⟨?_, h.distinct c⟩
      intro hnew
      obtain ⟨i, hi, hseq⟩ := List.mem_map.1 hnew
      exact Nat.ne_of_lt (h.fits c i hi).numbered hseq
    · exact h.distinct d

theorem erase (h : l.Sound length next) (c : VisualClass) : (l.erase c).Sound length next := by
  refine ⟨fun d i hi => ?_, fun d => ?_⟩
  · rw [get_erase] at hi
    split at hi
    · simp at hi
    · exact h.fits d i hi
  · rw [get_erase]
    split
    · simp
    · exact h.distinct d

/-- An inserted character has the tags that the characters on both sides of it share. -/
theorem tagsAt_afterInsertion_inside (h : l.Sound length next) (hle : offset ≤ o)
    (hlt : o < offset + count) : (l.afterInsertion offset count).tagsAt o
      = if offset = 0 then ∅ else l.tagsAt (offset - 1) ∩ l.tagsAt offset := by
  ext ⟨c, q⟩
  rw [mem_tagsAt_afterInsertion]
  simp only [Interval.covers_followInsertion_inside _ hle hlt]
  split
  · next hzero => simp [hzero]
  · next hpos =>
    rw [Finset.mem_inter, mem_tagsAt, mem_tagsAt]
    constructor
    · rintro ⟨i, hi, ⟨hstart, hstop⟩, rfl⟩
      exact ⟨⟨i, hi, Interval.covers_iff.2 (by omega), rfl⟩,
        ⟨i, hi, Interval.covers_iff.2 (by omega), rfl⟩⟩
    · rintro ⟨⟨i, hi, hbefore, rfl⟩, ⟨j, hj, hafter, hseq⟩⟩
      -- One number, one range: what ends on the left and what starts on the right is not this tag.
      obtain rfl := h.eq_of_seq_eq hj hi hseq
      rw [Interval.covers_iff] at hbefore hafter
      exact ⟨j, hj, by omega, rfl⟩

end Sound

end Layers

end EditorPane
