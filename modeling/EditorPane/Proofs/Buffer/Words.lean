import EditorPane.Proofs.Buffer.Store
import EditorPane.Proofs.Tag.Composition

/-!
# Ranges of a buffer in words

A buffer takes its ranges along with an edit by moving their two ends. A machine tells cases apart
and computes with words. Every range lies in the text, so both come to the same set as long as the
number of characters fits a word.

## Main results

* `Layers.Sound.get_afterDeletion`, `Layers.Sound.get_afterInsertion` — the ranges of one class.
* `Buffer.ranges_follow_in_words` — the ranges after an edit of a reachable buffer.
-/

namespace EditorPane

namespace Layers.Sound

variable {l : Layers} {length next : Nat} (h : l.Sound length next)
  (hwell : ∀ c, (l.get c).WellFormed)

include h hwell

/-- A deletion of nothing is left out, which a set of ranges with characters does not notice. -/
theorem get_afterDeletion {start stop : Nat} (hle : start ≤ stop) (c : VisualClass) :
    (l.afterDeletion start stop).get c = (l.get c).afterDeletion start stop := by
  rw [IntervalSet.afterDeletion_eq_follow (h.start_lt_stop c) hle]
  rcases hle.eq_or_lt with rfl | hlt
  · rw [afterDeletion_self, (hwell c).followDeletion_self (h.start_lt_stop c)]
  · exact get_afterDeletion_of_lt l hlt c

theorem get_afterInsertion {count : Nat} (hfits : length + count < UInt64.size) (offset : Nat)
    (c : VisualClass) :
    (l.afterInsertion offset count).get c = (l.get c).afterInsertion offset count := by
  have hroom : (l.get c).HasRoom (.insertion offset count) := fun i hi _ =>
    (Nat.add_le_add_right (h.fits c i hi).inside count).trans_lt hfits
  rw [IntervalSet.afterInsertion_eq_follow (h.start_lt_stop c) hroom]
  rcases Nat.eq_zero_or_pos count with rfl | hpos
  · rw [afterInsertion_zero, (hwell c).followInsertion_zero]
  · exact get_afterInsertion_of_pos l offset hpos c

end Layers.Sound

namespace Buffer

variable {b b' : Buffer} {c : Command}

/-- Through every accepted edit to a text with fewer characters than there are words, the ranges of
a class become those that are computed in words. -/
theorem ranges_follow_in_words {event : MutationEvent} (hb : b.Reachable)
    (h : b.run? c = .ok (some event, b')) (hfits : b'.text.length < UInt64.size) :
    ∃ r, b.replacement? c = some r ∧ ∀ v, b'.layers.get v
      = ((b.layers.get v).afterDeletion r.start r.stop).afterInsertion r.start r.new.length := by
  cases effect h with
  | edit kind r hr =>
    obtain ⟨hle, hstop⟩ := bounds_of_replacement? hr
    have hdeleted := hb.sound.afterDeletion hle hstop
    have hwell (v : VisualClass) : ((b.layers.afterDeletion r.start r.stop).get v).WellFormed :=
      Layers.wellFormed_get_afterDeletion (hb.kept.wellFormed v) _ _
    have hcount : (b.replaced kind r).2.text.length
        = b.document.charCount - (r.stop - r.start) + r.new.length := charCount_replaced kind hr
    refine ⟨r, hr, fun v => ?_⟩
    rw [replaced, layers_splice, hdeleted.get_afterInsertion hwell (hcount ▸ hfits),
      hb.sound.get_afterDeletion hb.kept.wellFormed hle]

end Buffer

end EditorPane
