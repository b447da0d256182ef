import EditorPane.Tag.VisualClass
import EditorPane.Tag.IntervalSet

/-!
# Tag layers

The tagged ranges of a text, one set per visual class, and the rule by which one class shows where
several overlap: the highest priority wins, among equal priorities the latest tag call.

## Main definitions

* `Layers`, read by `Layers.get` and changed by `Layers.set` and `Layers.map`.
* `Layers.classesAt`, `Layers.dominantAt` — the classes over an offset and the one that shows.
-/

namespace EditorPane

/-- A set of ranges for every class. -/
structure Layers where
  sets : Vector IntervalSet 11
  deriving DecidableEq

namespace Layers

/-! ## Access -/

/-- Nothing is tagged. -/
def empty : Layers := ⟨Vector.replicate 11 IntervalSet.empty⟩

/-- The ranges of a class. -/
def get (l : Layers) (c : VisualClass) : IntervalSet := l.sets[c.index]

/-- The layers with other ranges for one class. -/
def set (l : Layers) (c : VisualClass) (s : IntervalSet) : Layers := ⟨l.sets.set c.index s⟩

/-- The layers with every class's ranges changed alike. -/
def map (f : IntervalSet → IntervalSet) (l : Layers) : Layers := ⟨l.sets.map f⟩

@[simp] theorem get_empty (c : VisualClass) : empty.get c = IntervalSet.empty := by
  simp [get, empty]

@[simp] theorem get_map (f : IntervalSet → IntervalSet) (l : Layers) (c : VisualClass) :
    (l.map f).get c = f (l.get c) := by
  simp [get, map]

@[simp] theorem get_set_self (l : Layers) (c : VisualClass) (s : IntervalSet) :
    (l.set c s).get c = s := by
  simp [get, set]

theorem get_set_of_ne (l : Layers) {c d : VisualClass} (s : IntervalSet) (h : c ≠ d) :
    (l.set c s).get d = l.get d := by
  have : (c.index : Nat) ≠ d.index := fun e => h (VisualClass.index_injective (Fin.ext e))
  simp [get, set, Vector.getElem_set_ne, this]

theorem get_set (l : Layers) (c d : VisualClass) (s : IntervalSet) :
    (l.set c s).get d = if c = d then s else l.get d := by
  split
  · next h => subst h; simp
  · next h => exact get_set_of_ne l s h

theorem exists_index_eq (i : Fin 11) : ∃ c ∈ VisualClass.all, c.index = i := by
  revert i
  decide

/-- Layers with the same ranges for every class are equal. -/
@[ext] theorem ext {l m : Layers} (h : ∀ c, l.get c = m.get c) : l = m := by
  obtain ⟨a⟩ := l
  obtain ⟨b⟩ := m
  congr 1
  apply Vector.ext
  intro i hi
  obtain ⟨c, -, hc⟩ := exists_index_eq ⟨i, hi⟩
  simpa [get, hc] using h c

/-! ## Reading -/

/-- The number of ranges of all classes. -/
def count (l : Layers) : Nat := (VisualClass.all.flatMap fun c => (l.get c).toList).length

/-- The classes with a range over `offset`, in the order of all classes. -/
def classesAt (l : Layers) (offset : Nat) : List VisualClass :=
  VisualClass.all.filter fun c => !((l.get c).covering offset).isEmpty

/-- A range over some offset: its class and its call number. -/
structure Candidate where
  visualClass : VisualClass
  seq : Nat
  deriving DecidableEq, Repr

/-- `a` shows over `b`: by priority, then by call, then by the order of all classes. -/
def Candidate.outranks (a b : Candidate) : Bool :=
  b.visualClass.priority < a.visualClass.priority
    || (b.visualClass.priority = a.visualClass.priority
      && (b.seq < a.seq || (b.seq = a.seq && b.visualClass.index < a.visualClass.index)))

/-- The candidate that no other outranks. -/
def Candidate.strongest : List Candidate → Option Candidate
  | [] => none
  | a :: rest =>
    match strongest rest with
    | none => some a
    | some b => if b.outranks a then some b else some a

/-- The ranges of one layer over `offset`. -/
def candidatesAt (l : Layers) (layer : Layer) (offset : Nat) : List Candidate :=
  (VisualClass.all.filter fun c => c.layer = layer).flatMap fun c =>
    ((l.get c).covering offset).map fun i => ⟨c, i.seq⟩

/-- The class that shows at `offset` in a layer. -/
def dominantAt (l : Layers) (layer : Layer) (offset : Nat) : Option VisualClass :=
  (Candidate.strongest (l.candidatesAt layer offset)).map Candidate.visualClass

/-! ## Changing -/

/-- The layers with one more range for a class. -/
def insert (l : Layers) (c : VisualClass) (i : Interval) : Layers := l.set c ((l.get c).insert i)

/-- The layers without the ranges of a class. -/
def erase (l : Layers) (c : VisualClass) : Layers := l.set c IntervalSet.empty

/-- The layers once `count` characters are inserted before `offset`. -/
def afterInsertion (l : Layers) (offset count : Nat) : Layers :=
  if count = 0 then l else l.map fun s => s.followInsertion offset count

/-- The layers once the text from `start` up to `stop` is deleted. -/
def afterDeletion (l : Layers) (start stop : Nat) : Layers :=
  if stop ≤ start then l else l.map fun s => s.followDeletion start stop

theorem get_insert (l : Layers) (c d : VisualClass) (i : Interval) :
    (l.insert c i).get d = if c = d then (l.get d).insert i else l.get d := by
  rw [insert, get_set]
  split
  · next h => rw [h]
  · rfl

theorem get_erase (l : Layers) (c d : VisualClass) :
    (l.erase c).get d = if c = d then IntervalSet.empty else l.get d := get_set l c d _

@[simp] theorem afterInsertion_zero (l : Layers) (offset : Nat) :
    l.afterInsertion offset 0 = l := rfl

@[simp] theorem afterDeletion_self (l : Layers) (offset : Nat) :
    l.afterDeletion offset offset = l := if_pos (Nat.le_refl offset)

theorem get_afterInsertion_of_pos (l : Layers) (offset : Nat) {count : Nat} (h : 0 < count)
    (c : VisualClass) :
    (l.afterInsertion offset count).get c = (l.get c).followInsertion offset count := by
  rw [afterInsertion, if_neg (Nat.ne_of_gt h), get_map]

theorem get_afterDeletion_of_lt (l : Layers) {start stop : Nat} (h : start < stop)
    (c : VisualClass) :
    (l.afterDeletion start stop).get c = (l.get c).followDeletion start stop := by
  rw [afterDeletion, if_neg (Nat.not_le_of_gt h), get_map]

end Layers

end EditorPane
