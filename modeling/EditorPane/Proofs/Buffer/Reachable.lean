import EditorPane.Proofs.Buffer.Effect
import EditorPane.Proofs.Tag.Following

/-!
# Reachable buffers

What every buffer satisfies that requests can lead to, by induction on how it was reached. Each
property is kept by every effect that a request can have.

## Main definitions

* `Buffer.Reachable` — the buffers that requests lead to.
* `Buffer.Sound`, `Buffer.Framed` — what holds of them.

## Main results

* `Buffer.Reachable.sound` — the ranges of a reachable buffer lie in its text and are told apart by
  their numbers.
* `Buffer.Reachable.framed` — its window starts in the text and its tabs have a width.
-/

namespace EditorPane.Buffer

variable {b b' : Buffer} {c : Command}

/-- The buffers that requests lead to, with observers registered at any time. -/
inductive Reachable : Buffer → Prop where
  | ofText (t : Text) (tabWidth : Nat) : Reachable (ofText t tabWidth)
  | observe {b : Buffer} (h : Reachable b) : Reachable b.observe
  | run {b : Buffer} (h : Reachable b) (c : Command) : Reachable (b.run c)

/-- What fresh buffers satisfy, and observers and effects preserve, holds of every reachable
buffer. -/
theorem Reachable.induction {P : Buffer → Prop} (fresh : ∀ t tabWidth, P (Buffer.ofText t tabWidth))
    (observed : ∀ b, P b → P b.observe)
    (step : ∀ b c event b', P b → Effect b c event b' → P b') (h : b.Reachable) : P b := by
  induction h with
  | ofText t tabWidth => exact fresh t tabWidth
  | observe _ ih => exact observed _ ih
  | @run b _ c ih =>
    rcases b.run_eq_self_or_effect c with hsame | ⟨event, heffect⟩
    · rw [hsame]
      exact ih
    · exact step b c event _ ih heffect

/-! ## Sound ranges -/

/-- The ranges of the buffer lie in its text and are told apart by their numbers. -/
def Sound (b : Buffer) : Prop := b.layers.Sound b.document.charCount b.nextSeq

theorem Sound.effect {event : Option MutationEvent} (h : b.Sound)
    (heffect : Effect b c event b') : b'.Sound := by
  cases heffect with
  | edit kind r hedit =>
    obtain ⟨hle, hstop⟩ := bounds_of_replacement? hedit
    rw [Sound, charCount_replaced kind hedit]
    exact (Layers.Sound.afterDeletion h hle hstop).afterInsertion r.start r.new.length
  | tag v start stop hlt hinside => exact Layers.Sound.insert h v hlt hinside
  | untag v => exact Layers.Sound.erase h v
  | view => exact h

theorem Reachable.sound (h : b.Reachable) : b.Sound :=
  h.induction (fun _ _ => Layers.Sound.empty) (fun _ ih => ih) fun _ _ _ _ ih => ih.effect

/-! ## The view -/

/-- The window starts at a line of the text, and tabs have a width. -/
structure Framed (b : Buffer) : Prop where
  firstLine_pos : 0 < b.viewport.firstLine
  tabWidth_pos : 0 < b.tabWidth

theorem Framed.ofText (t : Text) (tabWidth : Nat) : (ofText t tabWidth).Framed :=
  ⟨Nat.one_pos, Nat.le_max_right tabWidth 1⟩

theorem Framed.effect {event : Option MutationEvent} (h : b.Framed)
    (heffect : Effect b c event b') : b'.Framed := by
  cases heffect with
  | edit | tag | untag => exact ⟨h.firstLine_pos, h.tabWidth_pos⟩
  | view v m w hv hw =>
    refine ⟨?_, ?_⟩
    · rcases hv with rfl | hv
      · exact h.firstLine_pos
      · exact hv
    · rcases hw with rfl | hw
      · exact h.tabWidth_pos
      · exact hw

theorem Reachable.framed (h : b.Reachable) : b.Framed :=
  h.induction Framed.ofText (fun _ ih => ⟨ih.firstLine_pos, ih.tabWidth_pos⟩)
    fun _ _ _ _ ih => ih.effect

end EditorPane.Buffer
