import EditorPane.Proofs.Buffer.Repaint
import EditorPane.Proofs.Tag.Dominance

/-!
# What a batch tags

A list of decoration commands tags what its commands address and keeps what was tagged before; the
commands that address nothing are refused. A repaint and a list of errors start from empty ranges of
their own layer, so what is then tagged is a matter of the commands alone, and in order whatever the
ranges were before.

## Main definitions

* `Document.Addresses` — the offsets that a span tags.
* `Buffer.taggedRanges`, `DecorationCommand.rangeIn?` — what is tagged, and what a command adds.

## Main results

* `Buffer.isTagged_tagAll`, `Buffer.isTagged_repaint`, `Buffer.isTagged_tagErrors`.
* `Buffer.foregroundAt_repaint`, `Buffer.backgroundAt_tagErrors` — what shows follows from that.
* `Buffer.perm_taggedRanges_tagAll`, `Buffer.rejected_tagAll` — each command adds one range or none,
  or is refused.
* `Buffer.tagCount_tagAll`, `Buffer.applied_tagAll` — how many ranges there are, and how many
  commands are accepted.
* `Buffer.perm_taggedRanges_repaint`, `Buffer.tagCount_repaint` — the ranges after a repaint.
-/

namespace EditorPane

/-- Tagging the span tags the offset. -/
def Document.Addresses (d : Document) (s : Span) (offset : Nat) : Prop :=
  ∃ start stop, d.range? s = some (start, stop) ∧ start ≤ offset ∧ offset < stop

theorem Document.addresses_iff {d : Document} {s : Span} {start stop offset : Nat}
    (h : d.range? s = some (start, stop)) :
    d.Addresses s offset ↔ start ≤ offset ∧ offset < stop := by
  simp [Addresses, h]

/-- The offsets that tagging the span tags, if there are any. -/
def Document.nonemptyRange? (d : Document) (s : Span) : Option (Nat × Nat) :=
  (d.range? s).filter fun r => r.1 < r.2

/-- The range that the command adds to a class, if it adds one. -/
def DecorationCommand.rangeIn? (d : Document) (c : VisualClass) (command : DecorationCommand) :
    Option (Nat × Nat) :=
  if command.visualClass = c then d.nonemptyRange? command.span else none

theorem DecorationCommand.mem_rangeIn?_iff {d : Document} {c : VisualClass}
    {command : DecorationCommand} {r : Nat × Nat} : command.rangeIn? d c = some r ↔
      command.visualClass = c ∧ d.nonemptyRange? command.span = some r := by
  simp [rangeIn?]

theorem Document.addresses_iff_exists_mem {d : Document} {s : Span} {offset : Nat} :
    d.Addresses s offset ↔
      ∃ r, d.nonemptyRange? s = some r ∧ r.1 ≤ offset ∧ offset < r.2 := by
  simp only [Addresses, nonemptyRange?, Option.filter_eq_some_iff]
  grind

namespace Buffer

variable {b b' : Buffer} {s : Span} {c v : VisualClass} {offset : Nat}

theorem tag_eq_error_iff {e : BufferError} :
    b.tag s v = .error e ↔ b.document.range? s = none ∧ e = .invalidSpan s := by
  unfold tag
  split
  · next hnone => simp [hnone, eq_comm]
  · next hsome => split <;> simp [hsome]

/-- A tag call is accepted if its span addresses something, be it empty. -/
theorem exists_tag_eq_ok_iff :
    (∃ b', b.tag s v = .ok b') ↔ (b.document.range? s).isSome = true := by
  unfold tag
  cases b.document.range? s with
  | none => simp
  | some range =>
    dsimp only
    split <;> simp

/-! ## One command -/

/-- The ranges tagged with a class, without the numbers of their calls. -/
def taggedRanges (b : Buffer) (c : VisualClass) : List (Nat × Nat) :=
  (b.layers.get c).toList.map fun i => (i.start, i.stop)

theorem taggedSpans_eq_map (b : Buffer) (c : VisualClass) : b.taggedSpans c
    = (b.taggedRanges c).map fun r =>
      Span.between (b.document.positionAt r.1) (b.document.positionAt r.2) := by
  rw [taggedSpans, taggedRanges, List.map_map]
  rfl

@[simp] theorem length_taggedSpans (b : Buffer) (c : VisualClass) :
    (b.taggedSpans c).length = (b.taggedRanges c).length := by
  rw [taggedSpans_eq_map, List.length_map]

theorem isTagged_iff_exists_mem_taggedRanges :
    b.layers.IsTagged c offset ↔ ∃ r ∈ b.taggedRanges c, r.1 ≤ offset ∧ offset < r.2 := by
  simp [Layers.IsTagged, taggedRanges, Interval.covers_iff]

/-- A tag call leaves the ranges of other classes alone. -/
theorem get_of_tag_of_ne (h : b.tag s v = .ok b') (hne : v ≠ c) :
    b'.layers.get c = b.layers.get c := by
  obtain ⟨_, _, -, ⟨-, rfl⟩ | ⟨-, rfl⟩⟩ := tag_cases h
  · exact (Layers.get_insert _ _ _ _).trans (if_neg hne)
  · rfl

/-- So does a tag call whose span addresses no text. -/
theorem get_of_tag_of_eq_none (h : b.tag s v = .ok b')
    (hnone : DecorationCommand.rangeIn? b.document c ⟨v, s⟩ = none) :
    b'.layers.get c = b.layers.get c := by
  by_cases hv : v = c
  · obtain ⟨start, stop, hrange, ⟨hlt, -⟩ | ⟨-, rfl⟩⟩ := tag_cases h
    · simp [DecorationCommand.rangeIn?, Document.nonemptyRange?, hv, hrange] at hnone
      exact absurd hlt (Nat.not_lt_of_ge hnone)
    · rfl
  · exact get_of_tag_of_ne h hv

/-- A tag call adds what its span addresses, if that is any text at all. -/
theorem perm_taggedRanges_of_tag (h : b.tag s v = .ok b') : (b'.taggedRanges c).Perm
    ((DecorationCommand.rangeIn? b.document c ⟨v, s⟩).toList ++ b.taggedRanges c) := by
  by_cases hv : v = c
  swap
  · rw [taggedRanges, get_of_tag_of_ne h hv, DecorationCommand.rangeIn?, if_neg hv]
    exact .refl _
  subst hv
  obtain ⟨start, stop, hrange, hcases⟩ := tag_cases h
  rw [DecorationCommand.rangeIn?, if_pos rfl, Document.nonemptyRange?, hrange]
  obtain ⟨hlt, rfl⟩ | ⟨hge, rfl⟩ := hcases
  · have hinsert := (b.layers.get v).perm_toList_insert (i := ⟨start, stop, b.nextSeq⟩) hlt
    simpa [taggedRanges, Layers.get_insert, Option.filter, hlt] using hinsert.map _
  · simp [Option.filter, Nat.not_lt_of_ge hge]

theorem isTagged_of_tag (h : b.tag s v = .ok b') : b'.layers.IsTagged c offset ↔
    b.layers.IsTagged c offset ∨ v = c ∧ b.document.Addresses s offset := by
  simp only [isTagged_iff_exists_mem_taggedRanges, (perm_taggedRanges_of_tag h).mem_iff,
    List.mem_append, Option.mem_toList, DecorationCommand.mem_rangeIn?_iff]
  grind [Document.addresses_iff_exists_mem]

/-- A tag call is counted if its span addresses text. -/
theorem tagCount_of_tag (h : b.tag s v = .ok b') : b'.tagCount
    = b.tagCount + if (b.document.nonemptyRange? s).isSome then 1 else 0 := by
  obtain ⟨start, stop, hrange, hcases⟩ := tag_cases h
  rw [Document.nonemptyRange?, hrange]
  obtain ⟨hlt, rfl⟩ | ⟨hge, rfl⟩ := hcases
  · simpa [tagCount, Option.filter, hlt] using Layers.count_insert b.layers v hlt
  · simp [Option.filter, Nat.not_lt_of_ge hge]

theorem version_of_tag (h : b.tag s v = .ok b') : b'.version = b.version := by
  obtain ⟨_, _, -, ⟨-, rfl⟩ | ⟨-, rfl⟩⟩ := tag_cases h <;> rfl

theorem wellFormed_get_of_tag (h : b.tag s v = .ok b') (hb : (b.layers.get c).WellFormed) :
    (b'.layers.get c).WellFormed := by
  obtain ⟨_, _, -, ⟨-, rfl⟩ | ⟨-, rfl⟩⟩ := tag_cases h
  · exact Layers.wellFormed_get_insert hb v _
  · exact hb

/-! ## All commands of a batch -/

/-- After a batch, a class has the ranges it had before and one for each command of its own that
addresses text. -/
theorem perm_taggedRanges_tagAll (b : Buffer) (batch : List DecorationCommand) :
    ((b.tagAll batch).2.taggedRanges c).Perm
      (batch.filterMap (DecorationCommand.rangeIn? b.document c) ++ b.taggedRanges c) := by
  induction batch generalizing b with
  | nil => exact .refl _
  | cons d rest ih =>
    have hcons : (d :: rest).filterMap (DecorationCommand.rangeIn? b.document c)
        = (d.rangeIn? b.document c).toList
          ++ rest.filterMap (DecorationCommand.rangeIn? b.document c) := by
      cases hd : d.rangeIn? b.document c <;> simp [hd]
    rw [tagAll, hcons]
    split
    · next b' htag =>
      have hrest := ih b'
      rw [document_of_tag htag] at hrest
      refine hrest.trans (((perm_taggedRanges_of_tag htag).append_left _).trans ?_)
      rw [← List.append_assoc]
      exact List.perm_append_comm.append_right _
    · next e htag =>
      have hnone : d.rangeIn? b.document c = none := by
        simp [DecorationCommand.rangeIn?, Document.nonemptyRange?, (tag_eq_error_iff.1 htag).1]
      rw [hnone]
      exact ih b

theorem tagCount_tagAll (b : Buffer) (batch : List DecorationCommand) : (b.tagAll batch).2.tagCount
    = b.tagCount + batch.countP fun d => (b.document.nonemptyRange? d.span).isSome := by
  induction batch generalizing b with
  | nil => rfl
  | cons d rest ih =>
    rw [tagAll, List.countP_cons]
    split
    · next b' htag =>
      have hrest := ih b'
      rw [document_of_tag htag, tagCount_of_tag htag] at hrest
      dsimp only
      omega
    · next e htag =>
      have hnone : b.document.nonemptyRange? d.span = none := by
        simp [Document.nonemptyRange?, (tag_eq_error_iff.1 htag).1]
      simp [ih, hnone]

/-- What is tagged after a batch was tagged before or is addressed by one of the commands. -/
theorem isTagged_tagAll (b : Buffer) (batch : List DecorationCommand) :
    (b.tagAll batch).2.layers.IsTagged c offset ↔ b.layers.IsTagged c offset ∨
      ∃ d ∈ batch, d.visualClass = c ∧ b.document.Addresses d.span offset := by
  simp only [isTagged_iff_exists_mem_taggedRanges, (perm_taggedRanges_tagAll b batch).mem_iff,
    List.mem_append, List.mem_filterMap, DecorationCommand.mem_rangeIn?_iff]
  constructor
  · rintro ⟨r, ⟨d, hd, hclass, hr⟩ | hr, hover⟩
    · exact .inr ⟨d, hd, hclass, Document.addresses_iff_exists_mem.2 ⟨r, hr, hover⟩⟩
    · exact .inl ⟨r, hr, hover⟩
  · rintro (⟨r, hr, hover⟩ | ⟨d, hd, hclass, haddressed⟩)
    · exact ⟨r, .inr hr, hover⟩
    · obtain ⟨r, hr, hover⟩ := Document.addresses_iff_exists_mem.1 haddressed
      exact ⟨r, .inl ⟨d, hd, hclass, hr⟩, hover⟩

theorem wellFormed_get_tagAll (hb : (b.layers.get c).WellFormed)
    (batch : List DecorationCommand) : ((b.tagAll batch).2.layers.get c).WellFormed := by
  refine tagAll_keeps (motive := fun b' => (b'.layers.get c).WellFormed) hb ?_
  intro _ _ _ _ hb htag
  exact wellFormed_get_of_tag htag hb

/-- A class that no command adds a range to keeps its ranges. -/
theorem get_tagAll_of_forall_eq_none (b : Buffer) {batch : List DecorationCommand}
    (h : ∀ d ∈ batch, d.rangeIn? b.document c = none) :
    (b.tagAll batch).2.layers.get c = b.layers.get c := by
  refine (tagAll_keeps (motive := fun b' => b'.document = b.document ∧
    b'.layers.get c = b.layers.get c) ⟨rfl, rfl⟩ ?_).2
  rintro b₁ b₂ d hd ⟨hdocument, hget⟩ htag
  have hnone := h d hd
  rw [← hdocument] at hnone
  exact ⟨(document_of_tag htag).trans hdocument, (get_of_tag_of_eq_none htag hnone).trans hget⟩

/-- A class that no command names keeps its ranges. -/
theorem get_tagAll_of_forall_ne (b : Buffer) {batch : List DecorationCommand}
    (h : ∀ d ∈ batch, d.visualClass ≠ c) :
    (b.tagAll batch).2.layers.get c = b.layers.get c :=
  b.get_tagAll_of_forall_eq_none fun d hd => if_neg (h d hd)

theorem version_tagAll (b : Buffer) (batch : List DecorationCommand) :
    (b.tagAll batch).2.version = b.version := by
  refine tagAll_keeps (motive := fun b' => b'.version = b.version) rfl ?_
  intro _ _ _ _ hb htag
  exact (version_of_tag htag).trans hb

/-- What is refused are the commands whose spans address no text, in their order. -/
theorem rejected_tagAll (b : Buffer) (batch : List DecorationCommand) :
    (b.tagAll batch).1.rejected = (batch.filter fun d => (b.document.range? d.span).isNone).map
      fun d => (d, .invalidSpan d.span) := by
  induction batch generalizing b with
  | nil => rfl
  | cons d rest ih =>
    rw [tagAll, List.filter_cons]
    split
    · next b' htag =>
      have hsome := exists_tag_eq_ok_iff.1 ⟨b', htag⟩
      simp [ih, document_of_tag htag, Option.ne_none_iff_isSome.2 hsome]
    · next e htag =>
      obtain ⟨hnone, rfl⟩ := tag_eq_error_iff.1 htag
      simp [ih, hnone]

theorem skipped_tagAll (b : Buffer) (batch : List DecorationCommand) :
    (b.tagAll batch).1.skipped
      = batch.countP fun d => (b.document.range? d.span).isNone := by
  rw [TagReport.skipped, rejected_tagAll, List.length_map, List.countP_eq_length_filter]

theorem applied_tagAll (b : Buffer) (batch : List DecorationCommand) :
    (b.tagAll batch).1.applied
      = batch.countP fun d => (b.document.range? d.span).isSome := by
  have htotal := b.applied_add_skipped_tagAll batch
  have hlength := batch.length_eq_countP_add_countP fun d => (b.document.range? d.span).isSome
  simp only [skipped_tagAll, Bool.not_eq_true, Option.isSome_eq_false_iff,
    Bool.decide_eq_true] at htotal hlength
  omega

theorem skipped_tagAll_eq_zero_iff (b : Buffer) (batch : List DecorationCommand) :
    (b.tagAll batch).1.skipped = 0 ↔ ∀ d ∈ batch, (b.document.range? d.span).isSome = true := by
  simp [skipped_tagAll, List.countP_eq_zero, Option.isSome_iff_ne_none]

/-! ## Layers that start empty -/

theorem get_clearForeground (hc : c.layer = .foreground) :
    b.clearForeground.layers.get c = IntervalSet.empty := by
  rw [clearForeground_eq, get_foldl_erase, if_pos (by simp [hc, c.mem_all])]

theorem taggedRanges_clearForeground (b : Buffer) (c : VisualClass) :
    b.clearForeground.taggedRanges c
      = if c.layer = .foreground then [] else b.taggedRanges c := by
  rw [taggedRanges, clearForeground_eq, get_foldl_erase]
  simp only [List.mem_filter, c.mem_all, true_and, decide_eq_true_eq]
  split <;> rfl

/-- What is left once the foreground is clear are the errors. -/
theorem tagCount_clearForeground (b : Buffer) :
    b.clearForeground.tagCount = (b.taggedRanges .error).length := by
  have hsize (v : VisualClass) :
      (b.clearForeground.layers.get v).toList.length = (b.clearForeground.taggedRanges v).length :=
    (List.length_map _).symm
  simp [tagCount, Layers.count, hsize, taggedRanges_clearForeground, VisualClass.all,
    VisualClass.layer]

/-- After a repaint, a class has one range for each command of its own that addresses text. An error
is no matter of the foreground and keeps the ranges it had. -/
theorem perm_taggedRanges_repaint (b : Buffer) (batch : List DecorationCommand) (c : VisualClass) :
    ((b.repaint batch).2.taggedRanges c).Perm
      (batch.filterMap (DecorationCommand.rangeIn? b.document c)
        ++ if c.layer = .foreground then [] else b.taggedRanges c) := by
  have hperm := b.clearForeground.perm_taggedRanges_tagAll (c := c) batch
  rwa [document_clearForeground, taggedRanges_clearForeground] at hperm

theorem tagCount_repaint (b : Buffer) (batch : List DecorationCommand) :
    (b.repaint batch).2.tagCount = (b.taggedRanges .error).length
      + batch.countP fun d => (b.document.nonemptyRange? d.span).isSome := by
  rw [repaint, tagCount_tagAll, tagCount_clearForeground, document_clearForeground]

theorem applied_repaint (b : Buffer) (batch : List DecorationCommand) :
    (b.repaint batch).1.applied
      = batch.countP fun d => (b.document.range? d.span).isSome := by
  rw [repaint, applied_tagAll, document_clearForeground]

theorem skipped_repaint (b : Buffer) (batch : List DecorationCommand) :
    (b.repaint batch).1.skipped
      = batch.countP fun d => (b.document.range? d.span).isNone := by
  rw [repaint, skipped_tagAll, document_clearForeground]

theorem isTagged_repaint (b : Buffer) (batch : List DecorationCommand)
    (hc : c.layer = .foreground) : (b.repaint batch).2.layers.IsTagged c offset ↔
      ∃ d ∈ batch, d.visualClass = c ∧ b.document.Addresses d.span offset := by
  have hnot : ¬ b.clearForeground.layers.IsTagged c offset := by
    simp [Layers.IsTagged, get_clearForeground hc]
  rw [repaint, isTagged_tagAll, document_clearForeground]
  simp [hnot]

theorem skipped_repaint_eq_zero_iff (b : Buffer) (batch : List DecorationCommand) :
    (b.repaint batch).1.skipped = 0 ↔
      ∀ d ∈ batch, (b.document.range? d.span).isSome = true := by
  rw [repaint, skipped_tagAll_eq_zero_iff, document_clearForeground]

theorem wellFormedIn_repaint (b : Buffer) (batch : List DecorationCommand) :
    (b.repaint batch).2.layers.WellFormedIn .foreground := by
  intro c hc
  refine wellFormed_get_tagAll ?_ batch
  rw [get_clearForeground hc]
  exact IntervalSet.wellFormed_empty

/-- A repaint leaves positions where they are. -/
theorem foregroundAt_repaint (b : Buffer) (batch : List DecorationCommand) (p : Position) :
    (b.repaint batch).2.foregroundAt p = (b.document.offset? p).bind
      ((b.repaint batch).2.layers.dominantAt .foreground) := by
  rw [foregroundAt, dominantAt, (SameView.repaint b batch).document]
  cases b.document.offset? p <;> rfl

theorem isTagged_tagErrors (b : Buffer) (errors : List SyntaxError) :
    (ErrorSurface.tagErrors b errors).2.layers.IsTagged .error offset ↔
      ∃ e ∈ errors, b.document.Addresses e.anchor offset := by
  have hnot : ¬ (b.layers.erase .error).IsTagged .error offset := by
    simp [Layers.IsTagged, Layers.get_erase]
  rw [ErrorSurface.tagErrors, isTagged_tagAll, document_untag, layers_untag]
  simp [hnot]

theorem backgroundAt_tagErrors (b : Buffer) (errors : List SyntaxError) (p : Position) :
    (ErrorSurface.tagErrors b errors).2.backgroundAt p = (b.document.offset? p).bind
      ((ErrorSurface.tagErrors b errors).2.layers.dominantAt .background) := by
  rw [backgroundAt, dominantAt, (SameView.tagErrors b errors).document]
  cases b.document.offset? p <;> rfl

theorem wellFormedIn_tagErrors (b : Buffer) (errors : List SyntaxError) :
    (ErrorSurface.tagErrors b errors).2.layers.WellFormedIn .background := by
  intro c hc
  have herror : c = .error := by cases c <;> first | rfl | cases hc
  refine wellFormed_get_tagAll ?_ _
  rw [layers_untag, Layers.get_erase, if_pos herror.symm]
  exact IntervalSet.wellFormed_empty

end Buffer

end EditorPane
