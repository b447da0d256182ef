import EditorPane.Buffer.Command
import EditorPane.Proofs.Buffer.Batch

/-!
# A batch replaces the foreground

Applying a batch to two buffers with the same text gives the same foreground and the same report,
however differently they were tagged before. Their ranges get different numbers, but in the same
order. A class shows only where a command puts it, and a character shows nothing only if no
foreground command covers it. Errors belong to another layer and stay, unless a command of the batch
is one.

## Main definitions

* `DecorationCommand.Covers` — a command tags the character at a position.
* `Buffer.SameForeground` — two buffers have the same foreground.

## Main results

* `Buffer.get_error_repaint`, `Buffer.version_repaint` — what a repaint leaves alone.
* `Buffer.covers_of_foregroundAt_repaint`, `Buffer.not_covers_of_foregroundAt_repaint`.
* `Buffer.repaint_congr` — repaints of the same text agree.
* `Buffer.apply_forgets_tags` — applying a batch.
-/

namespace EditorPane

/-- The command tags the character at a position of the text. -/
def DecorationCommand.Covers (c : DecorationCommand) (d : Document) (p : Position) : Prop :=
  ∃ offset, d.offset? p = some offset ∧ d.Addresses c.span offset

namespace Buffer

variable {a b : Buffer} {p : Position} {v : VisualClass}

/-! ## What a repaint leaves alone -/

theorem version_repaint (b : Buffer) (batch : List DecorationCommand) :
    (b.repaint batch).2.version = b.version := by
  rw [repaint, version_tagAll, clearForeground_eq]

/-- A batch without errors keeps the errors, their numbers included. -/
theorem get_error_repaint (b : Buffer) {batch : List DecorationCommand}
    (h : ∀ c ∈ batch, c.visualClass ≠ .error) :
    (b.repaint batch).2.layers.get .error = b.layers.get .error := by
  rw [repaint, get_tagAll_of_forall_ne _ h, clearForeground_eq, get_foldl_erase]
  exact if_neg (by decide)

/-! ## What shows -/

/-- A class shows only where a command of the batch puts it. -/
theorem covers_of_foregroundAt_repaint {batch : List DecorationCommand}
    (h : (b.repaint batch).2.foregroundAt p = some v) :
    v.layer = .foreground ∧ ∃ c ∈ batch, c.visualClass = v ∧ c.Covers b.document p := by
  rw [foregroundAt_repaint, Option.bind_eq_some_iff] at h
  obtain ⟨offset, hoffset, hshows⟩ := h
  obtain ⟨hlayer, htag⟩ := Layers.isTagged_of_dominantAt (wellFormedIn_repaint b batch) hshows
  obtain ⟨c, hc, hclass, haddressed⟩ := (isTagged_repaint b batch hlayer).1 htag
  exact ⟨hlayer, c, hc, hclass, offset, hoffset, haddressed⟩

/-- Where nothing shows, no foreground command of the batch has put anything. -/
theorem not_covers_of_foregroundAt_repaint {batch : List DecorationCommand}
    (h : (b.repaint batch).2.foregroundAt p = none) {c : DecorationCommand} (hc : c ∈ batch)
    (hlayer : c.visualClass.layer = .foreground) : ¬ c.Covers b.document p := by
  rintro ⟨offset, hoffset, haddressed⟩
  rw [foregroundAt_repaint, hoffset, Option.bind_some,
    Layers.dominantAt_eq_none_iff (wellFormedIn_repaint b batch)] at h
  exact h c.visualClass hlayer ((isTagged_repaint b batch hlayer).2 ⟨c, hc, rfl, haddressed⟩)

/-! ## Two buffers -/

/-- The buffers have the same spans of every foreground class, and show the same class at every
position. -/
structure SameForeground (a b : Buffer) : Prop where
  taggedSpans : ∀ v : VisualClass, v.layer = .foreground → a.taggedSpans v = b.taggedSpans v
  foregroundAt : ∀ p, a.foregroundAt p = b.foregroundAt p

theorem SameForeground.symm (h : a.SameForeground b) : b.SameForeground a :=
  ⟨fun v hv => (h.taggedSpans v hv).symm, fun p => (h.foregroundAt p).symm⟩

theorem SameForeground.of_renumbered {k : Nat}
    (h : Renumbered k (fun v => v.layer = .foreground) a b) : a.SameForeground b where
  taggedSpans _ hv := (h.taggedSpans_eq_of_mem hv).symm
  foregroundAt p := (h.dominantAt_eq_of_layer (fun _ hv => hv) p).symm

/-- Repaints of the same text agree. -/
theorem repaint_congr (h : a.document = b.document) (batch : List DecorationCommand) :
    (a.repaint batch).1 = (b.repaint batch).1 ∧
      (a.repaint batch).2.SameForeground (b.repaint batch).2 := by
  -- The numbers of the one that has made more tag calls are those of the other, raised.
  rcases Nat.le_total a.nextSeq b.nextSeq with hle | hle
  · obtain ⟨k, hk⟩ := Nat.exists_eq_add_of_le hle
    obtain ⟨hreport, hrenumbered⟩ := renumbered_repaint h.symm hk batch
    exact ⟨hreport, .of_renumbered hrenumbered⟩
  · obtain ⟨k, hk⟩ := Nat.exists_eq_add_of_le hle
    obtain ⟨hreport, hrenumbered⟩ := renumbered_repaint h hk batch
    exact ⟨hreport.symm, (SameForeground.of_renumbered hrenumbered).symm⟩

/-- Two buffers hold the same text and are tagged in any two ways. A batch that is applied to both
is reported on alike, and afterwards both have the same spans of every foreground class and show the
same class at every position. What shows was put there by a command of the batch, and nothing shows
only where no foreground command puts anything. The text and its version stay, and so do the errors
if the batch has none. -/
theorem apply_forgets_tags (htext : a.text = b.text) (d e : Decorator)
    (batch : List DecorationCommand) :
    let first := d.apply a batch
    let second := e.apply b batch
    first.1 = second.1 ∧
    first.2.1.SameForeground second.2.1 ∧
    (∀ p v, first.2.1.foregroundAt p = some v →
      v.layer = .foreground ∧ ∃ c ∈ batch, c.visualClass = v ∧ c.Covers a.document p) ∧
    (∀ p, first.2.1.foregroundAt p = none →
      ∀ c ∈ batch, c.visualClass.layer = .foreground → ¬ c.Covers a.document p) ∧
    first.2.1.text = a.text ∧ first.2.1.version = a.version ∧
    ((∀ c ∈ batch, c.visualClass ≠ .error) →
      first.2.1.layers.get .error = a.layers.get .error) := by
  intro first second
  have hdocument : a.document = b.document := congrArg Document.mk htext
  obtain ⟨hreport, hsame⟩ := repaint_congr hdocument batch
  refine ⟨hreport, hsame, ?_, ?_, ?_, a.version_repaint batch, a.get_error_repaint⟩
  · intro p v hv
    exact covers_of_foregroundAt_repaint hv
  · intro p hnone c hc hlayer
    exact not_covers_of_foregroundAt_repaint hnone hc hlayer
  · exact congrArg Document.text (SameView.repaint a batch).document

/-- One text is tagged and typed on, the other shows an error and has a longer past. The batch has a
span that ends behind its line and one that has lost its text. -/
theorem apply_forgets_grown_keyword :
    let a := ((ofText "abc".toList 2).run (.tag (.between ⟨1, 0⟩ ⟨1, 3⟩) .keyword)).run
      (.insert ⟨1, 1⟩ ['#'])
    let b := ((((ofText "a#".toList 2).run (.tag (.singleChar ⟨1, 0⟩) .error)).run
      (.tag (.singleChar ⟨1, 1⟩) .comment)).run (.insert ⟨1, 2⟩ ['b', 'c'])).run
      (.tag (.between ⟨1, 1⟩ ⟨1, 3⟩) .string)
    let batch : List DecorationCommand := [⟨.mainText, .between ⟨1, 0⟩ ⟨1, 2⟩⟩,
      ⟨.int, .between ⟨1, 1⟩ ⟨1, 9⟩⟩, ⟨.keyword, .between ⟨2, 0⟩ ⟨2, 1⟩⟩]
    let first := (default : Decorator).apply a batch
    let second := (default : Decorator).apply b batch
    a.text = b.text ∧ a.nextSeq ≠ b.nextSeq ∧ first.1 = second.1 ∧ first.1.applied = 2 ∧
      first.1.skipped = 1 ∧ first.2.1.taggedSpans .keyword = [] ∧
      second.2.1.foregroundAt ⟨1, 0⟩ = some .mainText ∧
      second.2.1.foregroundAt ⟨1, 3⟩ = some .int ∧
      second.2.1.taggedSpans .error = [.singleChar ⟨1, 0⟩] := by
  intro a b batch first second
  have htext : a.text = b.text := by decide +kernel
  have hkept : (∀ c ∈ batch, c.visualClass ≠ .error) := by decide
  obtain ⟨hreport, hsame, -⟩ := apply_forgets_tags htext default default batch
  obtain ⟨-, -, -, -, -, -, herror⟩ := apply_forgets_tags htext.symm default default batch
  refine ⟨htext, by decide +kernel, hreport, by decide +kernel, by decide +kernel,
    (hsame.taggedSpans .keyword rfl).trans (by decide +kernel), ?_, ?_, ?_⟩
  · exact (hsame.foregroundAt ⟨1, 0⟩).symm.trans (by decide +kernel)
  · exact (hsame.foregroundAt ⟨1, 3⟩).symm.trans (by decide +kernel)
  · rw [taggedSpans, herror hkept]
    decide +kernel

end Buffer

end EditorPane
