import EditorPane.Diagnostic.Surface
import EditorPane.Proofs.Buffer.Reachable
import EditorPane.Proofs.Tag.Lookup
import EditorPane.Proofs.Text.Positions

/-!
# The tag store

However a buffer came about, its tags are in order: the ranges of every class are sorted and carry
their true reaches, they lie in the text, and every range of every class has a number of its own.
Repaints and error displays are tag calls too, so nothing new can come from them.

## Main definitions

* `Buffer.Attained` — the buffers that requests, repaints and error displays lead to.
* `Buffer.InOrder` — what holds of their tags.

## Main results

* `Buffer.Attained.reachable` — repaints and error displays lead nowhere else.
* `Buffer.inOrder_of_attained` — the tags of every such buffer, and the spans they show, are in
  order.
-/

namespace EditorPane

/-! ## Numbers of all classes -/

namespace Layers

variable {l m : Layers} {length next : Nat}

/-- The numbers of all ranges, class by class. -/
def numbers (l : Layers) : List Nat :=
  VisualClass.all.flatMap fun c => (l.get c).toList.map Interval.seq

theorem mem_numbers {q : Nat} : q ∈ l.numbers ↔ ∃ c, ∃ i ∈ (l.get c).toList, i.seq = q := by
  simp [numbers, VisualClass.mem_all]

/-- No range of one class has the number of a range of another. -/
def Apart (l : Layers) : Prop :=
  ∀ c d, ∀ i ∈ (l.get c).toList, ∀ j ∈ (l.get d).toList, i.seq = j.seq → c = d

theorem apart_empty : Layers.empty.Apart := by
  intro c d i hi
  simp at hi

/-- Ranges that keep their classes and numbers stay apart. -/
theorem Apart.of_seq_mem (h : l.Apart)
    (hseq : ∀ c, ∀ i ∈ (m.get c).toList, ∃ j ∈ (l.get c).toList, j.seq = i.seq) : m.Apart := by
  intro c d i hi j hj hij
  obtain ⟨i', hi', hiseq⟩ := hseq c i hi
  obtain ⟨j', hj', hjseq⟩ := hseq d j hj
  exact h c d i' hi' j' hj' (hiseq.trans (hij.trans hjseq.symm))

theorem Apart.afterInsertion (h : l.Apart) (offset count : Nat) :
    (l.afterInsertion offset count).Apart := by
  refine h.of_seq_mem fun c i hi => ?_
  rw [toList_get_afterInsertion] at hi
  obtain ⟨j, hj, rfl⟩ := List.mem_map.1 hi
  exact ⟨j, hj, rfl⟩

theorem Apart.afterDeletion (h : l.Apart) {start stop : Nat} (hle : start ≤ stop) :
    (l.afterDeletion start stop).Apart := by
  rcases Nat.eq_or_lt_of_le hle with rfl | hlt
  · rwa [afterDeletion_self]
  · refine h.of_seq_mem fun c i hi => ?_
    obtain ⟨j, hj, hij⟩ := (mem_toList_get_afterDeletion hlt).1 hi
    exact ⟨j, hj, (Interval.seq_of_followDeletion hij).symm⟩

theorem Apart.erase (h : l.Apart) (c : VisualClass) : (l.erase c).Apart := by
  refine h.of_seq_mem fun d i hi => ?_
  rw [get_erase] at hi
  split at hi
  · simp at hi
  · exact ⟨i, hi, rfl⟩

/-- The number of a new range is not taken by any class. -/
theorem Apart.insert (h : l.Apart) (hl : l.Sound length next) (c : VisualClass) {start stop : Nat}
    (hlt : start < stop) : (l.insert c ⟨start, stop, next⟩).Apart := by
  have hmem {d : VisualClass} {i : Interval}
      (hi : i ∈ ((l.insert c ⟨start, stop, next⟩).get d).toList) :
      c = d ∧ i.seq = next ∨ i ∈ (l.get d).toList := by
    rw [get_insert] at hi
    split at hi
    · next hcd =>
      rw [((l.get d).perm_toList_insert hlt).mem_iff, List.mem_cons] at hi
      rcases hi with rfl | hi
      · exact .inl ⟨hcd, rfl⟩
      · exact .inr hi
    · exact .inr hi
  intro d e i hi j hj hij
  rcases hmem hi with ⟨hd, hi⟩ | hi <;> rcases hmem hj with ⟨he, hj⟩ | hj
  · exact hd.symm.trans he
  · have := (hl.fits e j hj).numbered
    omega
  · have := (hl.fits d i hi).numbered
    omega
  · exact h d e i hi j hj hij

theorem nodup_numbers (hl : l.Sound length next) (h : l.Apart) : l.numbers.Nodup := by
  refine List.nodup_flatMap.2 ⟨fun c _ => hl.distinct c, VisualClass.nodup_all.imp ?_⟩
  intro c d hne q hc hd
  obtain ⟨i, hi, rfl⟩ := List.mem_map.1 hc
  obtain ⟨j, hj, hij⟩ := List.mem_map.1 hd
  exact hne (h c d i hi j hj hij.symm)

end Layers

/-- The reaches of the ranges, in their order. -/
def IntervalSet.reaches (s : IntervalSet) : List Nat := s.entries.toList.map Entry.reach

namespace Buffer

variable {b b' : Buffer} {c : Command}

/-! ## Attained buffers -/

/-- The buffers that requests, repaints and error displays lead to, with observers registered at
any time. -/
inductive Attained : Buffer → Prop where
  | ofText (t : Text) (tabWidth : Nat) : Attained (ofText t tabWidth)
  | observe {b : Buffer} (h : Attained b) : Attained b.observe
  | run {b : Buffer} (h : Attained b) (c : Command) : Attained (b.run c)
  | clear {b : Buffer} (h : Attained b) : Attained b.clearForeground
  | apply {b : Buffer} (h : Attained b) (d : Decorator) (batch : List DecorationCommand) :
      Attained (d.apply b batch).2.1
  | sync {b : Buffer} (h : Attained b) (s : ErrorSurface) (errors : List SyntaxError) :
      Attained (s.sync b errors).2.1

theorem Reachable.untag (h : b.Reachable) (v : VisualClass) : (b.untag v).Reachable :=
  h.run (.untag v)

theorem Reachable.tag (h : b.Reachable) {s : Span} {v : VisualClass} (htag : b.tag s v = .ok b') :
    b'.Reachable := by
  have hrun : b.run? (.tag s v) = .ok (none, b') := by
    rw [run?, htag]
    rfl
  rw [← run_of_ok hrun]
  exact h.run (.tag s v)

theorem Reachable.tagAll (h : b.Reachable) (batch : List DecorationCommand) :
    (b.tagAll batch).2.Reachable := by
  refine tagAll_keeps (motive := Reachable) h ?_
  intro _ _ _ _ hb htag
  exact hb.tag htag

theorem Reachable.clearForeground (h : b.Reachable) : b.clearForeground.Reachable := by
  unfold Buffer.clearForeground
  generalize VisualClass.all.filter (fun c => c.layer = .foreground) = classes
  induction classes generalizing b with
  | nil => exact h
  | cons v rest ih => exact ih (h.untag v)

/-- Repaints and error displays lead nowhere that requests do not. -/
theorem Attained.reachable (h : b.Attained) : b.Reachable := by
  induction h with
  | ofText t tabWidth => exact .ofText t tabWidth
  | observe _ ih => exact .observe ih
  | run _ c ih => exact .run ih c
  | clear _ ih => exact ih.clearForeground
  | apply _ d batch ih => exact ih.clearForeground.tagAll batch
  | sync _ s errors ih => exact (ih.untag .error).tagAll _

/-! ## Tags in order -/

/-- What holds of the tags of a buffer: the ranges of every class are sorted by start, each has the
greatest end of the ranges up to it as its reach, all lie in the text, and no two of them have one
number, nor any the number of a tag call to come. -/
structure InOrder (b : Buffer) : Prop where
  sorted : ∀ v, (b.layers.get v).toList.Pairwise fun i j => i.start ≤ j.start
  length_reaches : ∀ v, (b.layers.get v).reaches.length = (b.layers.get v).toList.length
  reach_isGreatest : ∀ v n reach, (b.layers.get v).reaches[n]? = some reach →
    IsGreatest {stop | ∃ i ∈ (b.layers.get v).toList.take (n + 1), i.stop = stop} reach
  inside : ∀ v, ∀ i ∈ (b.layers.get v).toList, i.start < i.stop ∧ i.stop ≤ b.document.charCount
  nodup_numbers : b.layers.numbers.Nodup
  lt_nextSeq : ∀ q ∈ b.layers.numbers, q < b.nextSeq

/-- What is kept from step to step. -/
structure Kept (b : Buffer) : Prop where
  sound : b.Sound
  wellFormed : ∀ v, (b.layers.get v).WellFormed
  apart : b.layers.Apart

theorem Kept.effect {event : Option MutationEvent} (h : b.Kept) (heffect : Effect b c event b') :
    b'.Kept := by
  refine ⟨h.sound.effect heffect, fun v => ?_, ?_⟩
  · cases heffect with
    | edit kind r hedit =>
      exact Layers.wellFormed_get_afterInsertion
        (Layers.wellFormed_get_afterDeletion (h.wellFormed v) _ _) _ _
    | tag w start stop => exact Layers.wellFormed_get_insert (h.wellFormed v) w _
    | untag w => exact Layers.wellFormed_get_erase (h.wellFormed v) w
    | view => exact h.wellFormed v
  · cases heffect with
    | edit kind r hedit =>
      exact (h.apart.afterDeletion (bounds_of_replacement? hedit).1).afterInsertion _ _
    | tag w start stop hlt => exact h.apart.insert h.sound w hlt
    | untag w => exact h.apart.erase w
    | view => exact h.apart

theorem Reachable.kept (h : b.Reachable) : b.Kept := by
  refine h.induction (fun t tabWidth => ?_) (fun _ ih => ⟨ih.sound, ih.wellFormed, ih.apart⟩)
    fun _ _ _ _ ih => ih.effect
  refine ⟨(Reachable.ofText t tabWidth).sound, fun v => ?_, Layers.apart_empty⟩
  have hget : ((Buffer.ofText t tabWidth).layers.get v) = .empty := Layers.get_empty v
  rw [hget]
  exact IntervalSet.wellFormed_empty

theorem Kept.inOrder (h : b.Kept) : b.InOrder where
  sorted v := (h.wellFormed v).sorted
  length_reaches v := by simp [IntervalSet.reaches, IntervalSet.toList]
  reach_isGreatest v n reach hreach := by
    rw [IntervalSet.reaches, List.getElem?_map, Array.getElem?_toList,
      Option.map_eq_some_iff] at hreach
    obtain ⟨e, he, rfl⟩ := hreach
    exact (h.wellFormed v).isGreatest_reach he
  inside v i hi := ⟨(h.sound.fits v i hi).nonempty, (h.sound.fits v i hi).inside⟩
  nodup_numbers := Layers.nodup_numbers h.sound h.apart
  lt_nextSeq q hq := by
    obtain ⟨v, i, hi, rfl⟩ := Layers.mem_numbers.1 hq
    exact (h.sound.fits v i hi).numbered

/-! ## Tagged spans -/

namespace InOrder

variable {v : VisualClass} (h : b.InOrder)

include h

/-- A tagged range shows as a span of the text. -/
theorem isAt_ends {i : Interval} (hi : i ∈ (b.layers.get v).toList) :
    b.document.IsAt (b.document.positionAt i.start) i.start ∧
      b.document.IsAt (b.document.positionAt i.stop) i.stop := by
  obtain ⟨hlt, hstop⟩ := h.inside v i hi
  exact ⟨Document.isAt_positionAt (hlt.le.trans hstop), Document.isAt_positionAt hstop⟩

theorem between_ends {i : Interval} (hi : i ∈ (b.layers.get v).toList) :
    b.document.positionAt i.start < b.document.positionAt i.stop ∧
      (Span.between (b.document.positionAt i.start) (b.document.positionAt i.stop)).start
        = b.document.positionAt i.start ∧
      (Span.between (b.document.positionAt i.start) (b.document.positionAt i.stop)).stop
        = b.document.positionAt i.stop := by
  obtain ⟨hstart, hstop⟩ := h.isAt_ends hi
  have hlt := hstart.lt_of_lt hstop (h.inside v i hi).1
  rw [Span.between_of_le (Position.le_of_lt hlt)]
  exact ⟨hlt, rfl, rfl⟩

theorem pairwise_taggedSpans : (b.taggedSpans v).Pairwise fun s t => s.start ≤ t.start := by
  refine List.pairwise_map.2 ((h.sorted v).imp_of_mem fun {i j} hi hj hij => ?_)
  rw [(h.between_ends hi).2.1, (h.between_ends hj).2.1]
  exact Document.positionAt_le_positionAt hij (h.isAt_ends hj).1.le_charCount

end InOrder

/-- Whatever requests, repaints and error displays a buffer has been through, accepted or refused,
its tags are in order. So the spans it reports for a class are sorted by start, and each of them is
a nonempty part of the text. -/
theorem inOrder_of_attained (h : b.Attained) : b.InOrder ∧ ∀ v,
    (b.taggedSpans v).Pairwise (fun s t => s.start ≤ t.start) ∧
      ∀ s ∈ b.taggedSpans v, s.start < s.stop ∧ ∃ start stop, start < stop ∧
        stop ≤ b.document.charCount ∧ b.document.IsAt s.start start ∧
        b.document.IsAt s.stop stop := by
  have horder := h.reachable.kept.inOrder
  refine ⟨horder, fun v => ⟨horder.pairwise_taggedSpans, fun s hs => ?_⟩⟩
  obtain ⟨i, hi, rfl⟩ := List.mem_map.1 hs
  obtain ⟨hlt, hstart, hstop⟩ := horder.between_ends hi
  obtain ⟨hnonempty, hinside⟩ := horder.inside v i hi
  rw [hstart, hstop]
  exact ⟨hlt, i.start, i.stop, hnonempty, hinside, horder.isAt_ends hi⟩

/-- A keyword and a string are repainted, an error is shown, and the first line goes together with
its break. What is left of the keyword starts the text, and the string has moved up. -/
theorem inOrder_after_join :
    let painted := (Decorator.mk 0).apply (ofText "ab\r\ncd".toList 2)
      [⟨.keyword, .between ⟨1, 1⟩ ⟨2, 1⟩⟩, ⟨.keyword, .between ⟨9, 0⟩ ⟨9, 1⟩⟩,
        ⟨.string, .between ⟨2, 1⟩ ⟨2, 2⟩⟩]
    let shown := (ErrorSurface.empty default).sync painted.2.1 [⟨2, 0, "c"⟩]
    let joined := shown.2.1.run (.delete (.between ⟨1, 0⟩ ⟨1, 4⟩))
    joined.Attained ∧ joined.InOrder ∧ joined.text = "cd".toList ∧ joined.nextSeq = 3 ∧
      (joined.layers.get .keyword).toList = [⟨0, 1, 0⟩] ∧
      (joined.layers.get .string).toList = [⟨1, 2, 1⟩] ∧
      joined.taggedSpans .error = [.between ⟨1, 0⟩ ⟨1, 1⟩] := by
  intro painted shown joined
  have hattained : joined.Attained := .run (.sync (.apply (.ofText _ _) _ _) _ _) _
  exact ⟨hattained, (inOrder_of_attained hattained).1, by decide +kernel, by decide +kernel,
    by decide +kernel, by decide +kernel, by decide +kernel⟩

end Buffer

end EditorPane
