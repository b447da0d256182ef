import EditorPane.Buffer.Edit
import EditorPane.Machine

/-!
# Offsets lie in the text

The lines start one behind the other and together make up the text, so whatever offset a position
or a span stands for, it is at most the number of characters.

## Main results

* `Document.lineStart_succ` — a line ends where the next one starts.
* `Document.offset?_le_charCount`, `Document.range?_bounds`.
* `Document.clampedOffset_eq_words` — sums of offsets and columns in machine words.
-/

namespace EditorPane.Document

theorem lineStart_le_charCount (d : Document) (line : Nat) : d.lineStart line ≤ d.charCount := by
  have hflat := congrArg List.flatten (List.take_append_drop (line - 1) d.lines)
  rw [List.flatten_append, lines, flatten_rawLines] at hflat
  rw [charCount, ← hflat, List.length_append, lineStart, lines]
  exact Nat.le_add_right _ _

theorem lineStart_succ {d : Document} {line : Nat} {raw : Text}
    (h : d.rawLine? line = some raw) : d.lineStart (line + 1) = d.lineStart line + raw.length := by
  unfold rawLine? at h
  split at h
  · cases h
  · next hline =>
    have hsucc : line + 1 - 1 = line - 1 + 1 := by omega
    rw [lineStart, lineStart, hsucc, List.take_add_one, h, Option.toList_some, List.flatten_append,
      List.length_append, List.flatten_singleton]

theorem offset?_eq_some {d : Document} {p : Position} {offset : Nat}
    (h : d.offset? p = some offset) : ∃ raw, d.rawLine? p.line = some raw ∧
      p.column ≤ raw.length - terminatorLength raw ∧ offset = d.lineStart p.line + p.column := by
  unfold offset? isValid lineLength? at h
  cases hraw : d.rawLine? p.line with
  | none => simp [hraw] at h
  | some raw =>
    simp only [hraw, Option.map_some, decide_eq_true_eq, Option.ite_none_right_eq_some,
      Option.some.injEq] at h
    exact ⟨raw, rfl, h.1, h.2.symm⟩

theorem offset?_le_charCount {d : Document} {p : Position} {offset : Nat}
    (h : d.offset? p = some offset) : offset ≤ d.charCount := by
  obtain ⟨raw, hraw, hcolumn, rfl⟩ := offset?_eq_some h
  have hnext := d.lineStart_le_charCount (p.line + 1)
  rw [lineStart_succ hraw] at hnext
  omega

theorem clampedOffset_le_charCount (d : Document) (p : Position) :
    d.clampedOffset p ≤ d.charCount :=
  Nat.le_trans (Nat.min_le_right _ _) (d.lineStart_le_charCount _)

/-- For a column that fits a word together with the text, the sum in the clamped offset does not
wrap around. -/
theorem clampedOffset_eq_words {d : Document} {p : Position}
    (hfits : d.charCount + p.column < UInt64.size) :
    let line := max 1 (min p.line d.lineCount)
    d.clampedOffset p = min (wordAdd (d.lineStart line) p.column) (d.lineStart (line + 1)) := by
  intro line
  have hline : d.lineStart line + p.column < UInt64.size :=
    Nat.lt_of_le_of_lt (Nat.add_le_add_right (d.lineStart_le_charCount line) p.column) hfits
  rw [wordAdd_of_lt hline]
  rfl

/-- The offsets that a span addresses are in order and lie in the text. -/
theorem range?_bounds {d : Document} {s : Span} {start stop : Nat}
    (h : d.range? s = some (start, stop)) : start ≤ stop ∧ stop ≤ d.charCount := by
  unfold range? at h
  split at h
  · dsimp only at h
    split at h
    · cases h
    · next hle =>
      cases h
      exact ⟨Nat.le_of_not_lt hle, d.clampedOffset_le_charCount _⟩
  · cases h

end EditorPane.Document
