import EditorPane.Proofs.Buffer.Locality
import EditorPane.Proofs.Buffer.Store
import EditorPane.Proofs.Tag.Composition

/-!
# Undoing an insertion

An insertion reports the offsets of the new text. Deleting the text between their places brings back
the text and every range: an end that the insertion has moved lies behind the new text and moves
back, any other end is not behind it and stays. It does not matter what the new text is and where it
breaks into lines. The one thing that can be in the way is the place where it begins, which is not a
valid position if a `\n` has been put behind a `\r`.

## Main results

* `IntervalSet.WellFormed.followDeletion_followInsertion` — the ranges of a class come back, with
  their order and their reaches.
* `Document.splitsBreak_insert_iff` — when an insertion begins inside of a break.
* `Buffer.splice_splice` — a buffer without what was put into it.
* `Buffer.delete_undoes_insert` — when the deletion is accepted, and what it leaves.
-/

namespace EditorPane

/-! ## Ranges -/

theorem Interval.followDeletion_followInsertion {i : Interval} (h : i.start < i.stop)
    (offset count : Nat) :
    (i.followInsertion offset count).followDeletion offset (offset + count) = some i := by
  have hstart : offsetAfterDeletion offset (offset + count) (i.followInsertion offset count).start
      = i.start := by
    grind [followInsertion, offsetAfterDeletion]
  have hstop : offsetAfterDeletion offset (offset + count) (i.followInsertion offset count).stop
      = i.stop := by
    grind [followInsertion, offsetAfterDeletion]
  rw [followDeletion_eq_some, hstart, hstop]
  exact ⟨h, rfl⟩

namespace IntervalSet.WellFormed

variable {s : IntervalSet}

/-- The ranges come back as they were, in their order and with their reaches. -/
theorem followDeletion_followInsertion (h : s.WellFormed)
    (hnonempty : ∀ i ∈ s.toList, i.start < i.stop) (offset count : Nat) :
    (s.followInsertion offset count).followDeletion offset (offset + count) = s := by
  have hback : (s.followInsertion offset count).toList.filterMap
      (Interval.followDeletion offset (offset + count)) = s.toList := by
    rw [toList_followInsertion, List.filterMap_map]
    refine (List.filterMap_congr fun i hi => ?_).trans List.filterMap_some
    exact Interval.followDeletion_followInsertion (hnonempty i hi) offset count
  rw [(h.followInsertion offset count).followDeletion_eq, hback, h.ofList_toList]

end IntervalSet.WellFormed

theorem Layers.Sound.afterDeletion_afterInsertion {l : Layers} {length next : Nat}
    (h : l.Sound length next) (hwell : ∀ c, (l.get c).WellFormed) (offset count : Nat) :
    (l.afterInsertion offset count).afterDeletion offset (offset + count) = l := by
  rcases Nat.eq_zero_or_pos count with rfl | hpos
  · rw [afterInsertion_zero, Nat.add_zero, afterDeletion_self]
  · ext c
    rw [get_afterDeletion_of_lt _ (Nat.lt_add_of_pos_right hpos),
      get_afterInsertion_of_pos _ _ hpos]
    exact (hwell c).followDeletion_followInsertion (h.start_lt_stop c) offset count

/-! ## Text -/

namespace Document

variable {d : Document} {o : Nat}

theorem take_insert (h : o ≤ d.charCount) (new : Text) :
    (d.insert o new).text.take o = d.text.take o := by
  rw [text_insert, List.append_assoc, List.take_left' (List.length_take_of_le h)]

theorem drop_insert (h : o ≤ d.charCount) (new : Text) :
    (d.insert o new).text.drop o = new ++ d.text.drop o := by
  rw [text_insert, List.append_assoc, List.drop_left' (List.length_take_of_le h)]

theorem delete_insert (h : o ≤ d.charCount) (new : Text) :
    (d.insert o new).delete o new.length = d := by
  rw [delete, take_insert h, ← List.drop_drop, drop_insert h, List.drop_left,
    List.take_append_drop]

/-- An insertion that does not cut a break in two begins inside of one if it puts a `\n` behind a
`\r`. -/
theorem splitsBreak_insert_iff (h : o ≤ d.charCount) (hsplit : ¬ d.SplitsBreak o) (new : Text) :
    (d.insert o new).SplitsBreak o ↔
      (d.text.take o).getLast? = some '\r' ∧ new.head? = some '\n' := by
  cases o with
  | zero => simp [not_splitsBreak_zero]
  | succ n =>
    have hbefore : (d.insert (n + 1) new).text[n]? = d.text[n]? :=
      getElem?_of_take_eq (take_insert h new) n.lt_succ_self
    have hbehind : (d.insert (n + 1) new).text[n + 1]? = (new ++ d.text.drop (n + 1)).head? := by
      rw [← List.head?_drop, drop_insert h]
    have hlast : (d.text.take (n + 1)).getLast? = d.text[n]? := by
      obtain ⟨c, hc⟩ := exists_getElem?_of_lt h
      rw [List.take_add_one, hc, Option.toList_some, List.getLast?_concat]
    rw [splitsBreak_succ] at hsplit ⊢
    rw [hbefore, hbehind, hlast]
    cases new with
    | nil =>
      -- without new text the two characters are next to each other in the old one
      rw [List.nil_append, List.head?_drop, List.head?_nil]
      simpa using hsplit
    | cons c rest => rw [List.cons_append, List.head?_cons, List.head?_cons]

/-- The place of an offset is not valid inside of a break. -/
theorem offset?_positionAt_eq_none (ho : o ≤ d.charCount) (hsplit : d.SplitsBreak o) :
    d.offset? (d.positionAt o) = none := by
  rw [Option.eq_none_iff_forall_ne_some]
  intro o' hoffset
  obtain ⟨-, -, -, hplace⟩ := isAt_positionAt ho
  obtain ⟨-, -, -, hsame⟩ := offset?_eq_some hoffset
  rw [← hplace, ← hsame] at hsplit
  exact not_splitsBreak_of_offset? hoffset hsplit

/-- So the span between the places of two offsets stands for the text between them unless it starts
inside of a break. -/
theorem range?_between_places {o' : Nat} (ho : o ≤ o') (hle : o' ≤ d.charCount)
    [Decidable (d.SplitsBreak o)] :
    d.range? (Span.between (d.positionAt o) (d.positionAt o')) =
      if d.SplitsBreak o then none else some (o, o') := by
  split
  · next hsplit =>
    rw [Span.between_of_le (positionAt_le_positionAt ho hle), range?,
      offset?_positionAt_eq_none (ho.trans hle) hsplit]
  · next hsplit => exact range?_between_positionAt (offset?_positionAt (ho.trans hle) hsplit) ho hle

/-- The span between the places of what has been inserted stands for it unless a `\n` has been put
behind a `\r`. -/
theorem range?_insert (h : o ≤ d.charCount) (hsplit : ¬ d.SplitsBreak o) (new : Text) :
    (d.insert o new).range? (.between ((d.insert o new).positionAt o)
        ((d.insert o new).positionAt (o + new.length))) =
      if (d.text.take o).getLast? = some '\r' ∧ new.head? = some '\n' then none
      else some (o, o + new.length) := by
  classical
  have hstop : o + new.length ≤ (d.insert o new).charCount := by
    rw [charCount_insert]
    exact Nat.add_le_add_right h _
  rw [range?_between_places (Nat.le_add_right o _) hstop]
  simp only [splitsBreak_insert_iff h hsplit]

end Document

/-! ## Buffers -/

namespace Buffer

variable {b : Buffer}

theorem splice_insertion (b : Buffer) (kind : MutationKind) (o : Nat) (new : Text) :
    let e : MutationEvent := ⟨kind, b.version + 1, o, o + new.length⟩
    b.splice kind o o new = (e, { b with
      document := b.document.insert o new
      layers := b.layers.afterInsertion o new.length
      version := b.version + 1
      observers := b.observers.map (· ++ [e]) }) := by
  simp [splice, notify, Document.insert, Document.delete]

theorem splice_deletion (b : Buffer) (kind : MutationKind) (start stop : Nat) :
    let e : MutationEvent := ⟨kind, b.version + 1, start, start⟩
    b.splice kind start stop [] = (e, { b with
      document := b.document.delete start (stop - start)
      layers := b.layers.afterDeletion start stop
      version := b.version + 1
      observers := b.observers.map (· ++ [e]) }) := by
  simp [splice, notify, Document.insert, Document.delete]

/-- What is left of a buffer without what was put into it: its version and its observers know of
both edits, the rest is as before. -/
theorem splice_splice (h : b.Kept) (first second : MutationKind) {o : Nat}
    (ho : o ≤ b.document.charCount) (new : Text) :
    let e : MutationEvent := ⟨first, b.version + 1, o, o + new.length⟩
    let e' : MutationEvent := ⟨second, b.version + 2, o, o⟩
    (b.splice first o o new).2.splice second o (o + new.length) [] = (e', { b with
      version := b.version + 2
      observers := b.observers.map (· ++ [e, e']) }) := by
  have hlayers : (b.layers.afterInsertion o new.length).afterDeletion o (o + new.length)
      = b.layers :=
    Layers.Sound.afterDeletion_afterInsertion h.sound h.wellFormed o new.length
  simp [splice_insertion, splice_deletion, hlayers, Document.delete_insert ho, Function.comp_def]

theorem delete_of_range? {s : Span} {refused : Prop} [Decidable refused] {start stop : Nat}
    (h : b.document.range? s = if refused then none else some (start, stop)) :
    b.delete s =
      if refused then .error (.invalidSpan s) else .ok (b.splice .delete start stop []) := by
  by_cases hrefused : refused <;> simp [delete, h, hrefused]

/-- The span of the text that an edit has put into the buffer. -/
def spanOf (b : Buffer) (e : MutationEvent) : Span :=
  .between (b.document.positionAt e.start) (b.document.positionAt e.stop)

/-- An insertion at a valid position is accepted, whatever requests led to the buffer, and puts the
new text there. To delete the span of what it reports is accepted as well unless the insertion has
put a `\n` behind a `\r`, so always if the text had no `\r` before. The deletion leaves the buffer
as it was before the insertion, every range with its ends, its number and its rank among the others.
Only the version has grown by two, and every observer has been told of both edits. -/
theorem delete_undoes_insert (hb : b.Reachable) {p : Position} (hp : b.document.isValid p = true)
    (new : Text) : ∃ e inserted, b.insert p new = .ok (e, inserted) ∧
      b.document.offset? p = some e.start ∧
      inserted.text = b.text.take e.start ++ new ++ b.text.drop e.start ∧
      let e' : MutationEvent := ⟨.delete, b.version + 2, e.start, e.start⟩
      let restored : Buffer := { b with
        version := b.version + 2
        observers := b.observers.map (· ++ [e, e']) }
      ('\r' ∉ b.text → inserted.delete (inserted.spanOf e) = .ok (e', restored)) ∧
      inserted.delete (inserted.spanOf e) =
        if (b.text.take e.start).getLast? = some '\r' ∧ new.head? = some '\n' then
          .error (.invalidSpan (inserted.spanOf e))
        else .ok (e', restored) := by
  obtain ⟨o, ho⟩ : ∃ o, b.document.offset? p = some o := ⟨_, if_pos hp⟩
  have hle : o ≤ b.document.charCount := Document.offset?_le_charCount ho
  have hinsert : b.insert p new = .ok (b.splice .insert o o new) := by rw [insert, ho]
  have hundone := splice_splice hb.kept .insert .delete hle new
  have hrange := Document.range?_insert hle (Document.not_splitsBreak_of_offset? ho) new
  obtain ⟨e, inserted, hinserted⟩ : ∃ e inserted, b.splice .insert o o new = (e, inserted) :=
    ⟨_, _, rfl⟩
  rw [hinserted] at hinsert hundone
  obtain ⟨rfl, hdocument⟩ : e = ⟨.insert, b.version + 1, o, o + new.length⟩ ∧
      inserted.document = b.document.insert o new := by
    rw [splice_insertion, Prod.mk.injEq] at hinserted
    exact ⟨hinserted.1.symm, by rw [← hinserted.2]⟩
  rw [← hdocument] at hrange
  have htext : inserted.text = b.text.take o ++ new ++ b.text.drop o :=
    congrArg Document.text hdocument
  refine ⟨_, inserted, hinsert, ho, htext, ?_⟩
  intro e' restored
  have hdelete := delete_of_range? hrange
  rw [hundone] at hdelete
  refine ⟨fun hreturn => hdelete.trans (if_neg ?_), hdelete⟩
  rintro ⟨hlast, -⟩
  exact hreturn (List.mem_of_mem_take (List.mem_of_getLast? hlast))

/-- Between two characters goes a text with a break. The string starts there and moves, the comment
ends there and stays, and the keyword reaches over it and grows. -/
theorem delete_undoes_insert_with_break :
    let b := ((((ofText "ab\ncd".toList 2).observe.run
      (.tag (.between ⟨1, 1⟩ ⟨2, 1⟩) .string)).run
      (.tag (.between ⟨1, 0⟩ ⟨1, 1⟩) .comment)).run (.tag (.between ⟨1, 0⟩ ⟨1, 2⟩) .keyword))
    let e : MutationEvent := ⟨.insert, 1, 1, 4⟩
    let e' : MutationEvent := ⟨.delete, 2, 1, 1⟩
    let inserted := b.run (.insert ⟨1, 1⟩ "x\ny".toList)
    b.Reachable ∧ b.document.isValid ⟨1, 1⟩ = true ∧ '\r' ∉ b.text ∧
      inserted.text = "ax\nyb\ncd".toList ∧ inserted.spanOf e = .between ⟨1, 1⟩ ⟨2, 1⟩ ∧
      (inserted.layers.get .string).toList = [⟨4, 7, 0⟩] ∧
      (inserted.layers.get .comment).toList = [⟨0, 1, 1⟩] ∧
      (inserted.layers.get .keyword).toList = [⟨0, 5, 2⟩] ∧
      inserted.delete (inserted.spanOf e) =
        .ok (e', { b with version := 2, observers := [[e, e']] }) := by
  intro b e e' inserted
  have hreach : b.Reachable := .run (.run (.run (.observe (.ofText _ _)) _) _) _
  have hvalid : b.document.isValid ⟨1, 1⟩ = true := by decide +kernel
  have hreturn : '\r' ∉ b.text := by decide +kernel
  have hinserted : b.insert ⟨1, 1⟩ "x\ny".toList = .ok (e, inserted) := rfl
  obtain ⟨e₁, inserted₁, hinsert, -, htext, hdelete, -⟩ :=
    delete_undoes_insert hreach hvalid "x\ny".toList
  rw [hinserted, Except.ok.injEq, Prod.mk.injEq] at hinsert
  obtain ⟨rfl, rfl⟩ := hinsert
  exact ⟨hreach, hvalid, hreturn, htext.trans (by decide +kernel), by decide +kernel,
    by decide +kernel, by decide +kernel, by decide +kernel, hdelete hreturn⟩

end Buffer

end EditorPane
