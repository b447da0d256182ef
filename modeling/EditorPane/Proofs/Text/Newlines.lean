import EditorPane.Proofs.Text.Positions

/-!
# Texts broken at newlines

In a text whose only breaks are `\n` and `\r\n` the lines can be counted by the `\n` alone: one that
has none in it goes in front of the line behind it, and every line but the last ends in one. A word
that ends in neither `\n` nor `\r` is shown in full by its line.

## Main definitions

* `breaksAtNewlines` — the texts.
* `EndsShown` — the words.

## Main results

* `rawLines_append` — what stands before a line on the same line.
* `dropTerminator_append` — a word is shown in full.
* `Document.isAt_of_offset?` — every valid position is the place of its offset.
-/

namespace EditorPane

/-- Every line break of the text is a `\n`, with or without a `\r` before it. -/
def breaksAtNewlines : Text → Bool
  | [] => true
  | c :: rest => (!breaksAfter c rest || c == '\n') && breaksAtNewlines rest

/-- The word is not empty and ends in a character that its line shows. -/
def EndsShown (w : Text) : Prop := ∃ c, w.getLast? = some c ∧ c ≠ '\n' ∧ c ≠ '\r'

variable {t u w rest : Text} {c : Char}

theorem breaksAtNewlines_cons : breaksAtNewlines (c :: rest) = true ↔
    (breaksAfter c rest = true → c = '\n') ∧ breaksAtNewlines rest = true := by
  simp [breaksAtNewlines, imp_iff_not_or]

theorem breaksAtNewlines_of_append (h : breaksAtNewlines (u ++ t) = true) :
    breaksAtNewlines t = true := by
  induction u with
  | nil => exact h
  | cons c u ih => exact ih (breaksAtNewlines_cons.1 h).2

/-! ## Lines -/

theorem rawLines_newline (rest : Text) : rawLines ('\n' :: rest) = ['\n'] :: rawLines rest := by
  rw [rawLines, if_pos (by simp [breaksAfter, isLineBreak])]

/-- Text without a `\n` belongs to the line behind it. -/
theorem rawLines_append (h : breaksAtNewlines (u ++ rest) = true) (hu : '\n' ∉ u) {l : Text}
    {ls : List Text} (hrest : rawLines rest = l :: ls) : rawLines (u ++ rest) = (u ++ l) :: ls := by
  induction u with
  | nil => exact hrest
  | cons c u ih =>
    rw [List.cons_append, breaksAtNewlines_cons] at h
    rw [List.mem_cons, not_or] at hu
    have hnot : ¬ breaksAfter c (u ++ rest) = true := fun hbreak => hu.1 (h.1 hbreak).symm
    rw [List.cons_append, rawLines, if_neg hnot, ih h.2 hu.2]
    rfl

theorem getLast?_of_lt_length_rawLines (h : breaksAtNewlines t = true) {n : Nat} {raw : Text}
    (hraw : (rawLines t)[n]? = some raw) (hn : n + 1 < (rawLines t).length) :
    raw.getLast? = some '\n' := by
  induction t generalizing n raw with
  | nil => simp [rawLines] at hn
  | cons c rest ih =>
    rw [breaksAtNewlines_cons] at h
    rw [rawLines] at hraw hn
    split at hraw
    · next hbreak =>
      rw [if_pos hbreak, List.length_cons] at hn
      cases n with
      | zero =>
        cases hraw
        rw [h.1 hbreak]
        rfl
      | succ n => exact ih h.2 hraw (Nat.lt_of_succ_lt_succ hn)
    · next hbreak =>
      rw [if_neg hbreak] at hn
      obtain ⟨l, ls, hls⟩ := List.exists_cons_of_ne_nil (rawLines_ne_nil rest)
      rw [hls, consFirst] at hraw hn
      have hlast (n : Nat) (raw : Text) := @ih h.2 n raw
      rw [hls] at hlast
      cases n with
      | zero =>
        cases hraw
        rw [List.getLast?_cons, hlast 0 l rfl hn]
        rfl
      | succ n => exact hlast (n + 1) raw hraw hn

/-! ## What lines show -/

theorem dropLastIf_append (h : u.getLast? ≠ some c) (t : Text) :
    dropLastIf c (u ++ t) = u ++ dropLastIf c t := by
  unfold dropLastIf
  rcases List.eq_nil_or_concat t with rfl | ⟨t, x, rfl⟩
  · simp [h]
  · rw [List.concat_eq_append, ← List.append_assoc, List.getLast?_concat, List.getLast?_concat,
      List.dropLast_concat, List.dropLast_concat]
    split
    · rfl
    · rw [List.append_assoc]

/-- A line shows a word with all that stands before it. -/
theorem dropTerminator_append (h : EndsShown u) (t : Text) :
    dropTerminator (u ++ t) = u ++ dropTerminator t := by
  obtain ⟨c, hc, hnewline, hreturn⟩ := h
  unfold dropTerminator
  rw [dropLastIf_append (by simpa [hc] using hnewline),
    dropLastIf_append (by simpa [hc] using hreturn)]

theorem EndsShown.append (h : EndsShown w) (u : Text) : EndsShown (u ++ w) := by
  obtain ⟨c, hc, hne⟩ := h
  exact ⟨c, by rw [List.getLast?_append, hc]; rfl, hne⟩

namespace Document

variable {d : Document} {p : Position} {o : Nat}

/-- Where lines end in `\n`, the end of what a line shows comes before the next line. -/
theorem isAt_of_offset? (h : breaksAtNewlines d.text = true) (ho : d.offset? p = some o) :
    d.IsAt p o := by
  obtain ⟨raw, hraw, hcolumn, rfl⟩ := offset?_eq_some ho
  obtain ⟨n, hline, hn⟩ := exists_of_rawLine? hraw
  refine ⟨raw, hraw, ?_, rfl⟩
  rcases Nat.lt_or_eq_of_le (line_le_of_rawLine? hraw) with hlt | heq
  · rw [hline] at hlt
    have hlast := getLast?_of_lt_length_rawLines h hn hlt
    obtain ⟨shown, rfl⟩ := List.getLast?_eq_some_iff.1 hlast
    have hterminator : 0 < terminatorLength (shown ++ ['\n']) := by
      simp only [terminatorLength, List.reverse_append, List.reverse_singleton,
        List.singleton_append]
      split <;> simp_all
    grind
  · exact .inr ⟨heq, hcolumn.trans (Nat.sub_le _ _)⟩

end Document

end EditorPane
