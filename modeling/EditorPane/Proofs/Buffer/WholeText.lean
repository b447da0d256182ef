import EditorPane.Proofs.Buffer.Reachable
import EditorPane.Proofs.Text.RoundTrip

/-!
# Replacing the whole text

The span of the whole text is made of positions, and replacing the text under it turns these into
offsets again, strictly at the start and by clamping at the end. Both ends come back as the ends of
the text, however it breaks into lines, so the request is never refused. And as every range lies in
the text, there is nothing of it that survives.

## Main results

* `range?_wholeSpan` — the span of the whole text stands for all of it.
* `Layers.Sound.afterDeletion_eq_empty` — no range outlives its text.
* `setText_starts_over` — what replacing the whole text leaves.
-/

namespace EditorPane

/-! ## All of a text -/

namespace Document

variable {d : Document}

@[simp] theorem offset?_origin (d : Document) : d.offset? ⟨1, 0⟩ = some 0 := by
  rw [← d.positionAt_zero]
  exact offset?_positionAt (Nat.zero_le _) d.not_splitsBreak_zero

end Document

namespace IntervalSet

theorem eq_empty_of_toList {s : IntervalSet} (h : s.toList = []) : s = .empty := by
  obtain ⟨entries⟩ := s
  simp only [toList, List.map_eq_nil_iff, Array.toList_eq_nil_iff] at h
  rw [h, empty]

end IntervalSet

namespace Layers

variable {l : Layers} {length next : Nat}

@[simp] theorem afterInsertion_empty (offset count : Nat) :
    Layers.empty.afterInsertion offset count = .empty := by
  ext c
  rw [get_empty]
  apply IntervalSet.eq_empty_of_toList
  simp [toList_get_afterInsertion]

/-- No range fits into a text without characters. -/
theorem Sound.eq_empty (h : l.Sound 0 next) : l = .empty := by
  ext c
  rw [get_empty]
  apply IntervalSet.eq_empty_of_toList
  rw [List.eq_nil_iff_forall_not_mem]
  intro i hi
  obtain ⟨hnonempty, hinside, -⟩ := h.fits c i hi
  omega

/-- No range outlives all of its text. -/
theorem Sound.afterDeletion_eq_empty (h : l.Sound length next) :
    l.afterDeletion 0 length = .empty := by
  have hrest := h.afterDeletion (Nat.zero_le length) (Nat.le_refl length)
  rw [Nat.sub_zero, Nat.sub_self] at hrest
  exact hrest.eq_empty

end Layers

namespace Buffer

variable {b : Buffer}

/-- The span of the whole text stands for all of it. -/
theorem range?_wholeSpan (b : Buffer) :
    b.document.range? b.wholeSpan = some (0, b.document.charCount) :=
  Document.range?_between_positionAt b.document.offset?_origin (Nat.zero_le _) (Nat.le_refl _)

/-- So replacing the text under it is never refused. -/
theorem replace_wholeSpan (b : Buffer) (new : Text) :
    b.replace b.wholeSpan new = .ok (b.setText new) := by
  rw [replace, range?_wholeSpan]
  rfl

/-- All that is left is what is not about the text: the window and the number of the next tag
call. -/
theorem setText_eq (h : b.Sound) (new : Text) : b.setText new =
    (⟨.replace, b.version + 1, 0, new.length⟩,
      { b with
        document := ⟨new⟩
        layers := .empty
        version := b.version + 1
        observers := b.observers.map (· ++ [⟨.replace, b.version + 1, 0, new.length⟩]) }) := by
  have hlayers : b.layers.afterDeletion 0 b.document.charCount = .empty :=
    Layers.Sound.afterDeletion_eq_empty h
  have hdocument : (b.document.delete 0 (b.document.charCount - 0)).insert 0 new = ⟨new⟩ := by
    simp [Document.insert, Document.delete, Document.charCount]
  simp only [setText, splice, hlayers, hdocument, Layers.afterInsertion_empty, Nat.zero_add]
  rfl

/-- Replacing the whole text of a buffer, whatever requests led to it, is never refused for the span
of the text that is there. It leaves the new text without any tag, raises the version by one and
reports once to every observer that all of the text is new. The rest of the buffer stays as it
is. -/
theorem setText_starts_over (h : b.Reachable) (new : Text) :
    let e : MutationEvent := ⟨.replace, b.version + 1, 0, new.length⟩
    let b' := b.run (.setText new)
    b.replace b.wholeSpan new = .ok (e, b') ∧ b.run? (.setText new) = .ok (some e, b') ∧
      b'.text = new ∧ (∀ v, b'.taggedSpans v = []) ∧ b'.tagCount = 0 ∧
      b'.version = b.version + 1 ∧
      (∀ i < b.observers.length, b'.received i = b.received i ++ [e]) ∧
      b' = { b with
        document := ⟨new⟩
        layers := .empty
        version := b.version + 1
        observers := b.observers.map (· ++ [e]) } := by
  intro e b'
  obtain ⟨hevent, hstate⟩ := Prod.ext_iff.1 (setText_eq h.sound new)
  change b' = _ at hstate
  have hset : b.setText new = (e, b') := Prod.ext hevent rfl
  refine ⟨by rw [replace_wholeSpan, hset], ?_, ?_, fun v => ?_, ?_, ?_, fun i hi => ?_, hstate⟩
  · exact congrArg (fun r : MutationEvent × Buffer => Except.ok (some r.1, r.2)) hset
  · rw [hstate]
    rfl
  · rw [hstate]
    simp [taggedSpans]
  · rw [hstate]
    rfl
  · rw [hstate]
  · rw [hstate]
    exact received_notify b e hi

/-- The text ends in a break and a `\r` by itself, and a range reaches over both. The new text is
empty. -/
theorem setText_starts_over_empty :
    let b := (((ofText "a\r\n\r".toList 2).run
      (.tag (.between ⟨1, 0⟩ ⟨3, 0⟩) .comment)).observe).run (.scrollTo 3 0)
    let b' := b.run (.setText [])
    b.Reachable ∧ b.wholeSpan = .between ⟨1, 0⟩ ⟨3, 0⟩ ∧ b.tagCount = 1 ∧
      b.replace b.wholeSpan [] = .ok (⟨.replace, 1, 0, 0⟩, b') ∧ b'.text = [] ∧ b'.tagCount = 0 ∧
      b'.received 0 = [⟨.replace, 1, 0, 0⟩] ∧ b'.viewport.firstLine = 3 := by
  intro b b'
  have hreach : b.Reachable := .run (.observe (.run (.ofText _ _) _)) _
  obtain ⟨hreplace, -, htext, -, hcount, -, hreceived, hrest⟩ := setText_starts_over hreach []
  exact ⟨hreach, by decide +kernel, by decide +kernel, hreplace, htext, hcount,
    hreceived 0 (by decide), by rw [show b' = _ from hrest]; rfl⟩

end Buffer

end EditorPane
