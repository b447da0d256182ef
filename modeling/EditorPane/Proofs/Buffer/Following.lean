import EditorPane.Proofs.Buffer.Reachable

/-!
# Tags follow the text of a buffer

Through every accepted edit a character that stays keeps its tags, and new text is tagged only
where it is put strictly inside of a tagged range.

## Main definitions

* `Buffer.tagsAt` — the tags over an offset.
* `Buffer.Follows` — how tags come out of a replacement.

## Main results

* `Buffer.tags_follow_edit` — tags follow every edit of a reachable buffer.
-/

namespace EditorPane.Buffer

/-- The tags over the character at an offset: each a class with the number of its tag call. -/
def tagsAt (b : Buffer) (offset : Nat) : Finset (VisualClass × Nat) := b.layers.tagsAt offset

/-- The tags of `b'` are those of `b`, taken along by a replacement. -/
structure Follows (b : Buffer) (r : Replacement) (b' : Buffer) : Prop where
  before : ∀ o < r.start, b'.tagsAt o = b.tagsAt o
  after : ∀ o, r.start + r.new.length ≤ o →
    b'.tagsAt o = b.tagsAt (o - r.new.length + (r.stop - r.start))
  /-- A new character has the tags that the characters on both sides of the gap share. -/
  inserted : ∀ o, r.start ≤ o → o < r.start + r.new.length →
    b'.tagsAt o = if r.start = 0 ∨ r.stop = b.document.charCount then ∅
      else b.tagsAt (r.start - 1) ∩ b.tagsAt r.stop
  /-- A range that is left comes from a tag over some character that stayed. -/
  survivor : ∀ c, ∀ i ∈ (b'.layers.get c).toList, ∃ o < b.document.charCount,
    (o < r.start ∨ r.stop ≤ o) ∧ (c, i.seq) ∈ b.tagsAt o

variable {b b' : Buffer} {c : Command}

theorem follows_replaced (hb : b.Sound) (kind : MutationKind) {r : Replacement}
    (hr : b.replacement? c = some r) : b.Follows r (b.replaced kind r).2 := by
  obtain ⟨hle, hstop⟩ := bounds_of_replacement? hr
  have hdeleted := Layers.Sound.afterDeletion hb hle hstop
  have hlayers : (b.replaced kind r).2.layers
      = (b.layers.afterDeletion r.start r.stop).afterInsertion r.start r.new.length := rfl
  refine ⟨fun o ho => ?_, fun o ho => ?_, fun o hle' hlt => ?_, fun d i hi => ?_⟩
  · rw [tagsAt, hlayers, Layers.tagsAt_afterInsertion_of_lt ho, Layers.tagsAt_afterDeletion hle,
      if_pos ho, tagsAt]
  · have hpast : ¬ o - r.new.length < r.start := by omega
    rw [tagsAt, hlayers, Layers.tagsAt_afterInsertion_of_le ho, Layers.tagsAt_afterDeletion hle,
      if_neg hpast, tagsAt]
  · rw [tagsAt, hlayers, hdeleted.tagsAt_afterInsertion_inside hle' hlt]
    by_cases hzero : r.start = 0
    · rw [if_pos hzero, if_pos (.inl hzero)]
    · -- The gap closed, the characters next to it are the one before it and the one after it.
      have hbefore : r.start - 1 < r.start := by omega
      have hgap : r.start + (r.stop - r.start) = r.stop := by omega
      rw [if_neg hzero, Layers.tagsAt_afterDeletion hle, Layers.tagsAt_afterDeletion hle,
        if_pos hbefore, if_neg (Nat.lt_irrefl _), hgap]
      by_cases hend : r.stop = b.document.charCount
      · rw [if_pos (.inr hend), Layers.Sound.tagsAt_eq_empty hb (Nat.le_of_eq hend.symm),
          Finset.inter_empty]
      · rw [if_neg (not_or.2 ⟨hzero, hend⟩), tagsAt, tagsAt]
  · rw [hlayers, Layers.toList_get_afterInsertion] at hi
    obtain ⟨j, hj, rfl⟩ := List.mem_map.1 hi
    -- What is left of a range once the text is deleted starts with a character that stayed.
    have hlt := (hdeleted.fits d j hj).nonempty
    have htag : (d, j.seq) ∈ (b.layers.afterDeletion r.start r.stop).tagsAt j.start :=
      Layers.mem_tagsAt.2 ⟨j, hj, Interval.covers_iff.2 ⟨Nat.le_refl _, hlt⟩, rfl⟩
    rw [Layers.tagsAt_afterDeletion hle] at htag
    refine ⟨_, ?_, ?_, htag⟩
    · by_contra hout
      rw [Layers.Sound.tagsAt_eq_empty hb (Nat.le_of_not_lt hout)] at htag
      simp at htag
    · split <;> omega

/-- Every accepted edit replaces a range of offsets of the text by new text, and the tags follow
it. -/
theorem tags_follow_edit {event : MutationEvent} (hb : b.Reachable)
    (h : b.run? c = .ok (some event, b')) :
    ∃ r, b.replacement? c = some r ∧ r.start ≤ r.stop ∧ r.stop ≤ b.document.charCount ∧
      b'.text = b.text.take r.start ++ r.new ++ b.text.drop r.stop ∧ b.Follows r b' := by
  cases effect h with
  | edit kind r hr =>
    obtain ⟨hle, hstop⟩ := bounds_of_replacement? hr
    exact ⟨r, hr, hle, hstop, text_replaced kind hr, follows_replaced hb.sound kind hr⟩

/-- The blank of `ab cd` is replaced inside a keyword and just before a string. The keyword grows,
the string moves. -/
theorem tags_follow_wider_blank :
    let tagged := ((ofText "ab cd".toList 4).run (.tag (.between ⟨1, 0⟩ ⟨1, 4⟩) .keyword)).run
      (.tag (.between ⟨1, 3⟩ ⟨1, 5⟩) .string)
    let widen := Command.replace (.between ⟨1, 2⟩ ⟨1, 3⟩) "---".toList
    tagged.Reachable ∧
      tagged.run? widen = .ok (some ⟨.replace, 1, 2, 5⟩, tagged.run widen) ∧
      tagged.Follows ⟨2, 3, "---".toList⟩ (tagged.run widen) ∧
      (tagged.run widen).tagsAt 4 = {(.keyword, 0)} ∧
      (tagged.run widen).tagsAt 5 = {(.keyword, 0), (.string, 1)} := by
  intro tagged widen
  have hreach : tagged.Reachable := .run (.run (.ofText _ _) _) _
  have hrun : tagged.run? widen = .ok (some ⟨.replace, 1, 2, 5⟩, tagged.run widen) := rfl
  refine ⟨hreach, hrun, ?_, by decide +kernel, by decide +kernel⟩
  obtain ⟨r, hr, -, -, -, hfollows⟩ := tags_follow_edit hreach hrun
  have hreplace : tagged.replacement? widen = some ⟨2, 3, "---".toList⟩ := by decide +kernel
  rw [hreplace, Option.some.injEq] at hr
  rw [hr]
  exact hfollows

end EditorPane.Buffer
