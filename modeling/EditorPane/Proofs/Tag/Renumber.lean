import EditorPane.Tag.Layers

/-!
# Renumbering tag calls

The numbers of tag calls matter only in comparison with each other. Raising all of them alike
changes neither where a range is put nor what is found over an offset nor which class shows there.

## Main definitions

* `Interval.renumber`, `IntervalSet.renumber`, `Layers.renumber` — all numbers raised by `k`.

## Main results

* `IntervalSet.renumber_insert` — adding a range commutes with renumbering.
* `Layers.classesAt_renumber`, `Layers.dominantAt_renumber` — what is shown stays.
-/

namespace EditorPane

/-- The range with its number raised by `k`. -/
def Interval.renumber (k : Nat) (i : Interval) : Interval := { i with seq := i.seq + k }

def Entry.renumber (k : Nat) (e : Entry) : Entry := { e with interval := e.interval.renumber k }

theorem withReach_map_renumber (k reach : Nat) (l : List Interval) :
    withReach reach (l.map (Interval.renumber k)) = (withReach reach l).map (Entry.renumber k) := by
  induction l generalizing reach with
  | nil => rfl
  | cons i rest ih =>
    simp only [List.map_cons, withReach, ih]
    rfl

/-! ## The ranges of a class -/

namespace IntervalSet

/-- The ranges with their numbers raised by `k`. -/
def renumber (k : Nat) (s : IntervalSet) : IntervalSet := ⟨s.entries.map (Entry.renumber k)⟩

@[simp] theorem renumber_empty (k : Nat) : empty.renumber k = empty := by
  simp [renumber, empty]

theorem toList_renumber (k : Nat) (s : IntervalSet) :
    (s.renumber k).toList = s.toList.map (Interval.renumber k) := by
  simp only [toList, renumber, Array.toList_map, List.map_map]
  rfl

theorem bisect_map_renumber (k : Nat) (entries : Array Entry) (offset lo hi : Nat) :
    bisect (entries.map (Entry.renumber k)) offset lo hi = bisect entries offset lo hi := by
  induction lo, hi using bisect.induct entries offset with
  | case1 lo hi hlt hnone =>
    rw [bisect, bisect.eq_def entries, if_pos hlt, if_pos hlt, Array.getElem?_map, hnone]
    rfl
  | case2 lo hi hlt e hsome hle ih =>
    have hle' : (e.renumber k).interval.start ≤ offset := hle
    rw [bisect, bisect.eq_def entries, if_pos hlt, if_pos hlt, Array.getElem?_map, hsome]
    simp only [Option.map_some, if_pos hle, if_pos hle']
    exact ih
  | case3 lo hi hlt e hsome hgt ih =>
    have hgt' : ¬ (e.renumber k).interval.start ≤ offset := hgt
    rw [bisect, bisect.eq_def entries, if_pos hlt, if_pos hlt, Array.getElem?_map, hsome]
    simp only [Option.map_some, if_neg hgt, if_neg hgt']
    exact ih
  | case4 lo hi hge => rw [bisect, bisect.eq_def entries, if_neg hge, if_neg hge]

@[simp] theorem countUpTo_renumber (k : Nat) (s : IntervalSet) (offset : Nat) :
    (s.renumber k).countUpTo offset = s.countUpTo offset := by
  simp only [countUpTo, renumber, bisect_map_renumber, Array.size_map]

/-- A range is put in the same place, whatever the numbers. -/
theorem renumber_insert (k : Nat) (s : IntervalSet) (i : Interval) :
    (s.insert i).renumber k = (s.renumber k).insert (i.renumber k) := by
  by_cases hlt : i.start < i.stop
  · have hlt' : (i.renumber k).start < (i.renumber k).stop := hlt
    have hentries : (s.renumber k).entries.toList = s.entries.toList.map (Entry.renumber k) :=
      Array.toList_map
    have hplace : (s.renumber k).countUpTo (i.renumber k).start = s.countUpTo i.start :=
      countUpTo_renumber k s i.start
    have hreach (l : List Entry) : ((l.map (Entry.renumber k)).getLast?.map Entry.reach)
        = l.getLast?.map Entry.reach := by
      rw [List.getLast?_map, Option.map_map]
      rfl
    have hafter (l : List Entry) : (l.map (Entry.renumber k)).map Entry.interval
        = (l.map Entry.interval).map (Interval.renumber k) := by
      rw [List.map_map, List.map_map]
      rfl
    rw [insert, insert, if_pos hlt, if_pos hlt']
    simp only [hentries, hplace, ← List.map_take, ← List.map_drop, hreach, hafter,
      ← List.map_cons, withReach_map_renumber, ← List.map_append]
    rw [renumber, List.map_toArray]
  · have hle' : (i.renumber k).stop ≤ (i.renumber k).start := Nat.le_of_not_lt hlt
    rw [insert_of_le s (Nat.le_of_not_lt hlt), insert_of_le _ hle']

theorem scanDown_map_renumber (k : Nat) (entries : Array Entry) (offset n : Nat) :
    scanDown (entries.map (Entry.renumber k)) offset n
      = (scanDown entries offset n).map (Interval.renumber k) := by
  induction n with
  | zero => rfl
  | succ n ih =>
    rw [scanDown, scanDown, Array.getElem?_map]
    cases entries[n]? with
    | none => rfl
    | some e =>
      have hreach : (e.renumber k).reach = e.reach := rfl
      have hcovers : (e.renumber k).interval.covers offset = e.interval.covers offset := rfl
      simp only [Option.map_some, hreach, hcovers, ih]
      split
      · rfl
      · split <;> rfl

@[simp] theorem covering_renumber (k : Nat) (s : IntervalSet) (offset : Nat) :
    (s.renumber k).covering offset = (s.covering offset).map (Interval.renumber k) := by
  rw [covering, countUpTo_renumber, renumber, scanDown_map_renumber, covering]

end IntervalSet

/-! ## All classes -/

namespace Layers

/-- All ranges with their numbers raised by `k`. -/
def renumber (k : Nat) (l : Layers) : Layers := l.map (IntervalSet.renumber k)

@[simp] theorem get_renumber (k : Nat) (l : Layers) (c : VisualClass) :
    (l.renumber k).get c = (l.get c).renumber k := get_map _ l c

@[simp] theorem count_renumber (k : Nat) (l : Layers) : (l.renumber k).count = l.count := by
  simp [count, IntervalSet.toList_renumber, List.length_flatMap]

/-- The classes over an offset do not depend on numbers. -/
@[simp] theorem classesAt_renumber (k : Nat) (l : Layers) (offset : Nat) :
    (l.renumber k).classesAt offset = l.classesAt offset := by
  simp [classesAt]

def Candidate.renumber (k : Nat) (a : Candidate) : Candidate := { a with seq := a.seq + k }

theorem Candidate.outranks_renumber (k : Nat) (a b : Candidate) :
    (a.renumber k).outranks (b.renumber k) = a.outranks b := by
  rw [Bool.eq_iff_iff]
  simp only [outranks, Bool.or_eq_true, Bool.and_eq_true, decide_eq_true_eq]
  simp [renumber]

theorem Candidate.strongest_map_renumber (k : Nat) (l : List Candidate) :
    strongest (l.map (renumber k)) = (strongest l).map (renumber k) := by
  induction l with
  | nil => rfl
  | cons a rest ih =>
    rw [List.map_cons, strongest, strongest, ih]
    cases strongest rest with
    | none => rfl
    | some b =>
      simp only [Option.map_some, outranks_renumber]
      split <;> rfl

theorem candidatesAt_renumber (k : Nat) (l : Layers) (layer : Layer) (offset : Nat) :
    (l.renumber k).candidatesAt layer offset
      = (l.candidatesAt layer offset).map (Candidate.renumber k) := by
  simp only [candidatesAt, get_renumber, IntervalSet.covering_renumber, List.map_map,
    List.map_flatMap]
  rfl

/-- What shows in a layer depends on the ranges of its classes only. -/
theorem dominantAt_congr {l m : Layers} {layer : Layer}
    (h : ∀ c : VisualClass, c.layer = layer → l.get c = m.get c) (offset : Nat) :
    l.dominantAt layer offset = m.dominantAt layer offset := by
  have hcandidates : l.candidatesAt layer offset = m.candidatesAt layer offset := by
    rw [candidatesAt, candidatesAt, List.flatMap_def, List.flatMap_def]
    refine congrArg List.flatten (List.map_congr_left fun c hc => ?_)
    rw [h c (of_decide_eq_true (List.mem_filter.1 hc).2)]
  rw [dominantAt, dominantAt, hcandidates]

/-- Of the tags over an offset the same one shows, since all are raised alike. -/
@[simp] theorem dominantAt_renumber (k : Nat) (l : Layers) (layer : Layer) (offset : Nat) :
    (l.renumber k).dominantAt layer offset = l.dominantAt layer offset := by
  rw [dominantAt, candidatesAt_renumber, Candidate.strongest_map_renumber, Option.map_map]
  rfl

end Layers

end EditorPane
