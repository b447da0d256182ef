import EditorPane.Proofs.Buffer.Batch

/-!
# The order of a batch

The commands of a batch are numbered in their order, and numbers decide between classes of one
priority where both are tagged. So the order can show only at a character that two commands with
such classes share. If there is none, a batch may be applied in any order. The ranges of a class
come in another order then, but they are the same ranges; what is refused depends on the text alone.

## Main definitions

* `DecorationCommand.Competes` — between the two, the later command shows.
* `Document.TagsApart` — two spans tag no character in common.

## Main results

* `Buffer.isTagged_repaint_of_perm`, `Buffer.perm_taggedSpans_repaint` — what is tagged.
* `Buffer.foregroundAt_repaint_of_perm` — what shows.
* `Buffer.apply_in_any_order` — applying a batch in two orders.
-/

namespace EditorPane

/-- The commands put different classes of one priority in the foreground. -/
def DecorationCommand.Competes (c e : DecorationCommand) : Prop :=
  c.visualClass.layer = .foreground ∧ e.visualClass.layer = .foreground ∧
    c.visualClass ≠ e.visualClass ∧ c.visualClass.priority = e.visualClass.priority

instance (c e : DecorationCommand) : Decidable (c.Competes e) := inferInstanceAs (Decidable (_ ∧ _))

/-- The ranges that the two spans tag have no character in common. -/
def Document.TagsApart (d : Document) (s t : Span) : Prop :=
  ∀ r ∈ d.nonemptyRange? s, ∀ q ∈ d.nonemptyRange? t, r.2 ≤ q.1 ∨ q.2 ≤ r.1

instance (d : Document) (s t : Span) : Decidable (d.TagsApart s t) :=
  inferInstanceAs (Decidable (∀ r ∈ d.nonemptyRange? s, ∀ q ∈ d.nonemptyRange? t,
    r.2 ≤ q.1 ∨ q.2 ≤ r.1))

theorem Document.TagsApart.not_addresses {d : Document} {s t : Span} {offset : Nat}
    (h : d.TagsApart s t) (hs : d.Addresses s offset) : ¬ d.Addresses t offset := by
  intro ht
  obtain ⟨r, hr, hrstart, hrstop⟩ := addresses_iff_exists_mem.1 hs
  obtain ⟨q, hq, hqstart, hqstop⟩ := addresses_iff_exists_mem.1 ht
  rcases h r hr q hq with hbefore | hbehind
  · omega
  · omega

namespace Buffer

variable {b : Buffer} {batch other : List DecorationCommand} {c e : VisualClass} {offset : Nat}

/-! ## What is tagged -/

section

variable (hperm : batch.Perm other)

include hperm

theorem isTagged_repaint_of_perm (hc : c.layer = .foreground) :
    (b.repaint batch).2.layers.IsTagged c offset ↔
      (b.repaint other).2.layers.IsTagged c offset := by
  rw [isTagged_repaint b batch hc, isTagged_repaint b other hc]
  simp only [hperm.mem_iff]

theorem perm_taggedSpans_repaint (b : Buffer) (c : VisualClass) :
    ((b.repaint batch).2.taggedSpans c).Perm ((b.repaint other).2.taggedSpans c) := by
  have hranges : ((b.repaint batch).2.taggedRanges c).Perm ((b.repaint other).2.taggedRanges c) :=
    (b.perm_taggedRanges_repaint batch c).trans
      (((hperm.filterMap _).append_right _).trans (b.perm_taggedRanges_repaint other c).symm)
  rw [taggedSpans_eq_map, taggedSpans_eq_map, (SameView.repaint b batch).document,
    (SameView.repaint b other).document]
  exact hranges.map _

/-- The commands refused are the same, only in another order. -/
theorem skipped_repaint_of_perm (b : Buffer) :
    (b.repaint batch).1.skipped = (b.repaint other).1.skipped := by
  rw [skipped_repaint, skipped_repaint]
  exact hperm.countP_eq _

theorem applied_repaint_of_perm (b : Buffer) :
    (b.repaint batch).1.applied = (b.repaint other).1.applied := by
  rw [applied_repaint, applied_repaint]
  exact hperm.countP_eq _

end

/-! ## What shows -/

section

variable (hapart : ∀ c ∈ batch, ∀ e ∈ batch, c.Competes e → b.document.TagsApart c.span e.span)

include hapart

/-- No character is tagged with two classes that compete. -/
theorem eq_of_isTagged_repaint (hc : c.layer = .foreground) (he : e.layer = .foreground)
    (hctag : (b.repaint batch).2.layers.IsTagged c offset)
    (hetag : (b.repaint batch).2.layers.IsTagged e offset) (hpriority : c.priority = e.priority) :
    c = e := by
  by_contra hne
  obtain ⟨first, hfirst, rfl, haddressed⟩ := (isTagged_repaint b batch hc).1 hctag
  obtain ⟨second, hsecond, rfl, haddressed'⟩ := (isTagged_repaint b batch he).1 hetag
  have hbetween := hapart first hfirst second hsecond ⟨hc, he, hne, hpriority⟩
  exact hbetween.not_addresses haddressed haddressed'

theorem foregroundAt_repaint_of_perm (hperm : batch.Perm other) (p : Position) :
    (b.repaint batch).2.foregroundAt p = (b.repaint other).2.foregroundAt p := by
  rw [foregroundAt_repaint, foregroundAt_repaint]
  congr 1
  funext offset
  refine Layers.dominantAt_congr_of_isTagged (wellFormedIn_repaint b batch)
    (wellFormedIn_repaint b other) (fun c hc => isTagged_repaint_of_perm hperm hc) ?_
  intro c e hc he hctag hetag hpriority
  exact eq_of_isTagged_repaint hapart hc he hctag hetag hpriority

end

/-- Apply a batch to a buffer in any two orders. Let any two of its commands that put different
classes of one priority in the foreground tag no character in common, once their spans are clamped
to the text; commands may overlap otherwise. Then as many commands are accepted and refused, the
same class shows at every position, and every class has the same spans, each as often. -/
theorem apply_in_any_order (b : Buffer) {batch other : List DecorationCommand}
    (hperm : batch.Perm other)
    (hapart : ∀ c ∈ batch, ∀ e ∈ batch, c.Competes e → b.document.TagsApart c.span e.span)
    (d : Decorator) :
    let first := d.apply b batch
    let second := d.apply b other
    first.1.applied = second.1.applied ∧
    first.1.skipped = second.1.skipped ∧
    (∀ p, first.2.1.foregroundAt p = second.2.1.foregroundAt p) ∧
    ∀ v, (first.2.1.taggedSpans v).Perm (second.2.1.taggedSpans v) :=
  ⟨applied_repaint_of_perm hperm b, skipped_repaint_of_perm hperm b,
    foregroundAt_repaint_of_perm hapart hperm, perm_taggedSpans_repaint hperm b⟩

/-- A batch and its reverse: a comment over a keyword, two overlapping strings, a number behind
them, an error, a range that has lost its text and one that has lost its line. -/
theorem apply_in_any_order_reverse :
    let b := ofText "ab\ncd".toList 2
    let batch : List DecorationCommand := [⟨.keyword, .between ⟨1, 0⟩ ⟨1, 2⟩⟩,
      ⟨.comment, .between ⟨1, 1⟩ ⟨1, 2⟩⟩, ⟨.string, .between ⟨2, 0⟩ ⟨2, 1⟩⟩,
      ⟨.string, .between ⟨2, 0⟩ ⟨2, 1⟩⟩, ⟨.int, .between ⟨2, 1⟩ ⟨2, 9⟩⟩,
      ⟨.error, .between ⟨1, 0⟩ ⟨1, 1⟩⟩, ⟨.function, .between ⟨2, 2⟩ ⟨2, 4⟩⟩,
      ⟨.function, .between ⟨3, 0⟩ ⟨3, 1⟩⟩]
    let first := (default : Decorator).apply b batch
    let second := (default : Decorator).apply b batch.reverse
    batch.Perm batch.reverse ∧
      (∀ c ∈ batch, ∀ e ∈ batch, c.Competes e → b.document.TagsApart c.span e.span) ∧
      first.1.applied = 7 ∧ second.1.applied = 7 ∧ second.1.skipped = 1 ∧
      second.2.1.foregroundAt ⟨1, 1⟩ = some .comment ∧
      second.2.1.foregroundAt ⟨2, 1⟩ = some .int ∧
      (second.2.1.taggedSpans .string).Perm (first.2.1.taggedSpans .string) := by
  intro b batch
  dsimp only
  have hperm : batch.Perm batch.reverse := batch.reverse_perm.symm
  have hapart : ∀ c ∈ batch, ∀ e ∈ batch, c.Competes e → b.document.TagsApart c.span e.span := by
    decide +kernel
  obtain ⟨happlied, hskipped, hshown, hspans⟩ := apply_in_any_order b hperm hapart default
  refine ⟨hperm, hapart, by decide +kernel, ?_, ?_, ?_, ?_, (hspans .string).symm⟩
  · rw [← happlied]
    decide +kernel
  · rw [← hskipped]
    decide +kernel
  · rw [← hshown]
    decide +kernel
  · rw [← hshown]
    decide +kernel

/-- Where the ranges of two classes of one priority meet, the later command shows. -/
example :
    let b := ofText "ab".toList 2
    let word : DecorationCommand := ⟨.keyword, .between ⟨1, 0⟩ ⟨1, 2⟩⟩
    let quote : DecorationCommand := ⟨.string, .between ⟨1, 1⟩ ⟨1, 2⟩⟩
    (b.repaint [word, quote]).2.foregroundAt ⟨1, 1⟩ = some .string ∧
      (b.repaint [quote, word]).2.foregroundAt ⟨1, 1⟩ = some .keyword := by
  decide +kernel

end Buffer

end EditorPane
