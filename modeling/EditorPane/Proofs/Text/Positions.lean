import EditorPane.Proofs.Text.Offsets
import Mathlib.Order.Monotone.Basic

/-!
# Positions of offsets

Every offset of a text has one place in it: a column of a line that is inside the line, break
included, or at the very end of the text. Places are ordered as their offsets are. What a line
shows is the front part of its raw text, and each of its columns is a valid position. A span with a
valid start addresses text as soon as its last line exists.

## Main definitions

* `Document.IsAt` — a position is the place of an offset.

## Main results

* `Document.drop_lineStart` — a line stands where it starts.
* `Document.isAt_positionAt`, `Document.IsAt.eq_positionAt` — the place of an offset is found.
* `Document.IsAt.lt_of_lt`, `Document.IsAt.eq_of_eq` — places are ordered as their offsets are.
* `Document.offset?_of_lineText?`, `Document.isValid_iff` — the columns that a line shows.
* `Document.range?_between`, `Document.range?_between_positionAt` — what a span addresses.
-/

namespace EditorPane

/-! ## Shown parts of lines -/

theorem dropTerminator_eq_take (raw : Text) :
    dropTerminator raw = raw.take (raw.length - terminatorLength raw) := by
  obtain ⟨l, rfl⟩ : ∃ l, raw = l.reverse := ⟨raw.reverse, raw.reverse_reverse.symm⟩
  unfold dropTerminator dropLastIf terminatorLength
  rw [List.reverse_reverse]
  rcases l with _ | ⟨x, l⟩
  · rfl
  by_cases hx : x = '\n'
  · subst hx
    rcases l with _ | ⟨y, l⟩
    · rfl
    · by_cases hy : y = '\r'
      · subst hy
        simp
      · simp [hy, List.take_append, List.take_of_length_le]
  · by_cases hx' : x = '\r'
    · subst hx'
      simp
    · simp [hx, hx', List.take_of_length_le]

theorem length_dropTerminator (raw : Text) :
    (dropTerminator raw).length = raw.length - terminatorLength raw := by
  rw [dropTerminator_eq_take, List.length_take]
  omega

theorem prefix_dropTerminator (raw : Text) : dropTerminator raw <+: raw := by
  rw [dropTerminator_eq_take]
  exact List.take_prefix _ _

namespace Document

variable {d : Document} {p q : Position} {line o o' : Nat} {raw lineText : Text}

/-! ## Starts of lines -/

theorem rawLine?_succ (d : Document) (n : Nat) : d.rawLine? (n + 1) = d.lines[n]? := rfl

theorem exists_of_rawLine? (h : d.rawLine? line = some raw) :
    ∃ n, line = n + 1 ∧ d.lines[n]? = some raw := by
  cases line with
  | zero => cases h
  | succ n => exact ⟨n, rfl, h⟩

theorem line_pos_of_rawLine? (h : d.rawLine? line = some raw) : 0 < line := by
  obtain ⟨n, rfl, -⟩ := exists_of_rawLine? h
  exact n.succ_pos

theorem line_le_of_rawLine? (h : d.rawLine? line = some raw) : line ≤ d.lineCount := by
  obtain ⟨n, rfl, hraw⟩ := exists_of_rawLine? h
  exact (List.getElem?_eq_some_iff.1 hraw).1

theorem monotone_lineStart (d : Document) : Monotone d.lineStart := by
  apply monotone_nat_of_le_succ
  intro n
  cases hraw : d.rawLine? n with
  | some raw =>
    rw [lineStart_succ hraw]
    exact Nat.le_add_right _ _
  | none =>
    cases n with
    | zero => exact Nat.le_refl _
    | succ n =>
      rw [rawLine?_succ, List.getElem?_eq_none_iff] at hraw
      rw [lineStart, lineStart, List.take_of_length_le (by omega),
        List.take_of_length_le (by omega)]

/-- The text from the start of a line on begins with that line. -/
theorem drop_lineStart (h : d.rawLine? line = some raw) :
    d.text.drop (d.lineStart line) = raw ++ d.text.drop (d.lineStart (line + 1)) := by
  obtain ⟨n, rfl, hraw⟩ := exists_of_rawLine? h
  obtain ⟨hn, rfl⟩ := List.getElem?_eq_some_iff.1 hraw
  have hdrop (m : Nat) : d.text.drop (d.lineStart (m + 1)) = (d.lines.drop m).flatten := by
    have hflat : d.text = (d.lines.take m).flatten ++ (d.lines.drop m).flatten := by
      rw [← List.flatten_append, List.take_append_drop, lines, flatten_rawLines]
    rw [hflat, lineStart, Nat.add_sub_cancel, List.drop_left]
  rw [hdrop, hdrop, List.drop_eq_getElem_cons hn, List.flatten_cons]

theorem getElem?_of_rawLine? (h : d.rawLine? line = some raw) {k : Nat} {c : Char}
    (hk : raw[k]? = some c) : d.text[d.lineStart line + k]? = some c := by
  have hlt : k < raw.length := (List.getElem?_eq_some_iff.1 hk).1
  rw [← List.getElem?_drop, drop_lineStart h, List.getElem?_append_left hlt, hk]

/-- The last line goes on to the end of the text. -/
@[simp] theorem lineStart_lineCount_succ (d : Document) :
    d.lineStart (d.lineCount + 1) = d.charCount := by
  rw [lineStart, Nat.add_sub_cancel, lineCount, List.take_length, lines, flatten_rawLines,
    charCount]

theorem lt_lineCount_of_lineStart_lt (h : d.lineStart (line + 1) < d.charCount) :
    line < d.lineCount := by
  by_contra hlast
  have hend := d.monotone_lineStart (Nat.add_le_add_right (Nat.le_of_not_lt hlast) 1)
  rw [lineStart_lineCount_succ] at hend
  omega

theorem mem_slice {start stop : Nat} {c : Char} (h : d.text[o]? = some c) (hstart : start ≤ o)
    (hstop : o < stop) : c ∈ d.slice start stop := by
  rw [slice, List.mem_iff_getElem?]
  refine ⟨o - start, ?_⟩
  rw [List.getElem?_drop, Nat.add_sub_cancel' hstart, List.getElem?_take_of_lt hstop, h]

/-! ## Places -/

/-- The position is the place of the offset: a column of a line, before the next line if there is
one. -/
def IsAt (d : Document) (p : Position) (offset : Nat) : Prop :=
  ∃ raw, d.rawLine? p.line = some raw ∧
    (p.column < raw.length ∨ p.line = d.lineCount ∧ p.column ≤ raw.length) ∧
    d.lineStart p.line + p.column = offset

theorem IsAt.of_lt (h : d.rawLine? line = some raw) {k : Nat} (hk : k < raw.length) :
    d.IsAt ⟨line, k⟩ (d.lineStart line + k) :=
  ⟨raw, h, .inl hk, rfl⟩

theorem IsAt.lt_of_line_lt (hp : d.IsAt p o) (hq : d.IsAt q o') (h : p.line < q.line) : o < o' := by
  obtain ⟨raw, hraw, hcolumn, rfl⟩ := hp
  obtain ⟨raw', hraw', -, rfl⟩ := hq
  have hnext := d.monotone_lineStart (Nat.succ_le_of_lt h)
  have hlast := line_le_of_rawLine? hraw'
  rw [Nat.succ_eq_add_one, lineStart_succ hraw] at hnext
  omega

/-- Places are ordered as their offsets are. -/
theorem IsAt.lt_of_lt (hp : d.IsAt p o) (hq : d.IsAt q o') (h : o < o') : p < q := by
  rcases Nat.lt_trichotomy p.line q.line with hlt | heq | hgt
  · exact .inl hlt
  · obtain ⟨-, -, -, rfl⟩ := hp
    obtain ⟨-, -, -, rfl⟩ := hq
    rw [heq] at h
    exact .inr ⟨heq, by omega⟩
  · have := hq.lt_of_line_lt hp hgt
    omega

theorem IsAt.eq_of_eq (hp : d.IsAt p o) (hq : d.IsAt q o) : p = q := by
  have hline : p.line = q.line := by
    rcases Nat.lt_trichotomy p.line q.line with hlt | heq | hgt
    · exact absurd (hp.lt_of_line_lt hq hlt) (Nat.lt_irrefl o)
    · exact heq
    · exact absurd (hq.lt_of_line_lt hp hgt) (Nat.lt_irrefl o)
  obtain ⟨-, -, -, hpo⟩ := hp
  obtain ⟨-, -, -, hqo⟩ := hq
  rw [hline] at hpo
  obtain ⟨l, c⟩ := p
  obtain ⟨m, e⟩ := q
  simp only [Position.mk.injEq] at *
  omega

theorem locate_spec (line : Nat) (ls : List Text) (hne : ls ≠ []) (offset : Nat)
    (h : offset ≤ ls.flatten.length) : ∃ n raw, (locate line ls offset).line = line + n ∧
      ls[n]? = some raw ∧
      ((locate line ls offset).column < raw.length ∨
        n + 1 = ls.length ∧ (locate line ls offset).column ≤ raw.length) ∧
      (ls.take n).flatten.length + (locate line ls offset).column = offset := by
  induction line, ls, offset using locate.induct with
  | case1 => contradiction
  | case2 line l offset =>
    exact ⟨0, l, rfl, rfl, .inr ⟨rfl, by simpa [locate] using h⟩, by simp [locate]⟩
  | case3 line l rest offset hrest hlt =>
    refine ⟨0, l, ?_, rfl, .inl ?_, ?_⟩ <;> simp [locate, hlt]
  | case4 line l rest offset hrest hge ih =>
    rw [List.flatten_cons, List.length_append] at h
    obtain ⟨n, raw, hline, hraw, hcolumn, hoffset⟩ := ih (by simpa using hrest) (by omega)
    rw [locate, if_neg hge]
    refine ⟨n + 1, raw, by omega, hraw, ?_, ?_⟩
    · rw [List.length_cons]
      omega
    · rw [List.take_succ_cons, List.flatten_cons, List.length_append]
      omega
    · exact hrest

theorem isAt_positionAt (h : o ≤ d.charCount) : d.IsAt (d.positionAt o) o := by
  have hlength : o ≤ d.lines.flatten.length := by rwa [lines, flatten_rawLines]
  obtain ⟨n, raw, hline, hraw, hcolumn, hoffset⟩ :=
    locate_spec 1 d.lines (rawLines_ne_nil _) o hlength
  rw [Nat.add_comm] at hline
  rw [positionAt, Nat.min_eq_left h]
  refine ⟨raw, by rw [hline, rawLine?_succ, hraw], ?_, ?_⟩
  · rw [hline, lineCount]
    exact hcolumn
  · rw [hline, lineStart, Nat.add_sub_cancel, hoffset]

theorem positionAt_le_positionAt (h : o ≤ o') (hle : o' ≤ d.charCount) :
    d.positionAt o ≤ d.positionAt o' := by
  rcases Nat.eq_or_lt_of_le h with rfl | hlt
  · exact Position.le_refl _
  · exact Position.le_of_lt ((isAt_positionAt (h.trans hle)).lt_of_lt (isAt_positionAt hle) hlt)

theorem IsAt.le_charCount (h : d.IsAt p o) : o ≤ d.charCount := by
  obtain ⟨raw, hraw, hcolumn, rfl⟩ := h
  have hnext := d.lineStart_le_charCount (p.line + 1)
  rw [lineStart_succ hraw] at hnext
  omega

theorem IsAt.eq_positionAt (h : d.IsAt p o) : p = d.positionAt o :=
  h.eq_of_eq (isAt_positionAt h.le_charCount)

/-! ## What lines show -/

theorem lineLength?_of_rawLine? (h : d.rawLine? line = some raw) :
    d.lineLength? line = some (raw.length - terminatorLength raw) := by
  rw [lineLength?, h, Option.map_some]

theorem lineLength?_of_lineText? (h : d.lineText? line = some lineText) :
    d.lineLength? line = some lineText.length := by
  obtain ⟨raw, hraw, rfl⟩ := Option.map_eq_some_iff.1 h
  rw [lineLength?_of_rawLine? hraw, length_dropTerminator]

theorem exists_lineText?_of_lineLength? {n : Nat} (h : d.lineLength? line = some n) :
    ∃ lineText, d.lineText? line = some lineText ∧ lineText.length = n := by
  obtain ⟨raw, hraw, rfl⟩ := Option.map_eq_some_iff.1 h
  exact ⟨dropTerminator raw, by rw [lineText?, hraw, Option.map_some], length_dropTerminator raw⟩

theorem isValid_iff : d.isValid p = true ↔
    ∃ lineText, d.lineText? p.line = some lineText ∧ p.column ≤ lineText.length := by
  constructor
  · intro h
    unfold isValid at h
    split at h
    · cases h
    · next n hlength =>
      obtain ⟨lineText, htext, rfl⟩ := exists_lineText?_of_lineLength? hlength
      exact ⟨lineText, htext, of_decide_eq_true h⟩
  · rintro ⟨lineText, htext, hcolumn⟩
    simp only [isValid, lineLength?_of_lineText? htext, decide_eq_true hcolumn]

/-- Every column that a line shows, and the one behind them, is a valid position. -/
theorem offset?_of_lineText? (h : d.lineText? line = some lineText) {k : Nat}
    (hk : k ≤ lineText.length) : d.offset? ⟨line, k⟩ = some (d.lineStart line + k) := by
  simp only [offset?, isValid, lineLength?_of_lineText? h, decide_eq_true hk, if_true]

theorem isAt_of_lineText? (h : d.lineText? line = some lineText) {k : Nat}
    (hk : k < lineText.length) : d.IsAt ⟨line, k⟩ (d.lineStart line + k) := by
  obtain ⟨raw, hraw, rfl⟩ := Option.map_eq_some_iff.1 h
  exact .of_lt hraw (hk.trans_le (prefix_dropTerminator raw).length_le)

theorem lineStart_add_length_le_lineStart (h : d.lineText? line = some lineText) :
    d.lineStart line + lineText.length ≤ d.lineStart (line + 1) := by
  obtain ⟨raw, hraw, rfl⟩ := Option.map_eq_some_iff.1 h
  have hle := (prefix_dropTerminator raw).length_le
  rw [lineStart_succ hraw]
  omega

/-- On a line that exists, columns are clamped to the end of its raw text. -/
theorem clampedOffset_of_rawLine? (h : d.rawLine? line = some raw) (k : Nat) :
    d.clampedOffset ⟨line, k⟩ = d.lineStart line + min k raw.length := by
  have hline : max 1 (min line d.lineCount) = line := by
    have hpos := line_pos_of_rawLine? h
    have hle := line_le_of_rawLine? h
    omega
  simp only [clampedOffset, hline, lineStart_succ h]
  omega

/-! ## Spans -/

/-- A span from a valid position to a line of the text addresses something, and ends with that line
at the latest, break included. -/
theorem range?_between (h : d.offset? p = some o) (hle : p ≤ q)
    (hraw : d.rawLine? q.line = some raw) :
    d.range? (Span.between p q) = some (o, d.lineStart q.line + min q.column raw.length) := by
  obtain ⟨raw', hraw', hcolumn, rfl⟩ := offset?_eq_some h
  have hstop : d.lineStart p.line + p.column ≤ d.lineStart q.line + min q.column raw.length := by
    rcases hle with hline | ⟨hline, hright⟩
    · have hnext := d.monotone_lineStart (Nat.succ_le_of_lt hline)
      rw [Nat.succ_eq_add_one, lineStart_succ hraw'] at hnext
      omega
    · rw [← hline] at hraw ⊢
      cases hraw'.symm.trans hraw
      omega
  have hclamped : d.clampedOffset q = d.lineStart q.line + min q.column raw.length :=
    clampedOffset_of_rawLine? hraw q.column
  rw [Span.between_of_le hle]
  simp only [range?, h, lineLength?_of_rawLine? hraw, hclamped]
  rw [if_neg (Nat.not_lt_of_ge hstop)]

/-- A span of what one line shows stands for the same stretch of the text. -/
theorem range?_of_lineText? (h : d.lineText? line = some lineText) {j k : Nat} (hjk : j ≤ k)
    (hk : k ≤ lineText.length) : d.range? (Span.between ⟨line, j⟩ ⟨line, k⟩)
      = some (d.lineStart line + j, d.lineStart line + k) := by
  obtain ⟨raw, hraw, rfl⟩ := Option.map_eq_some_iff.1 h
  have hle : (⟨line, j⟩ : Position) ≤ ⟨line, k⟩ := .inr ⟨rfl, hjk⟩
  have hlength := (prefix_dropTerminator raw).length_le
  rw [range?_between (offset?_of_lineText? h (hjk.trans hk)) hle hraw,
    Nat.min_eq_left (hk.trans hlength)]

/-- A valid position is not behind the place of an offset that is not before its own. -/
theorem IsAt.le_of_offset? (hq : d.IsAt q o') (hp : d.offset? p = some o) (h : o ≤ o') : p ≤ q := by
  obtain ⟨raw, hraw, hcolumn, rfl⟩ := offset?_eq_some hp
  obtain ⟨raw', hraw', hinside, rfl⟩ := hq
  rw [← Position.not_lt]
  rintro (hline | ⟨hline, hleft⟩)
  · have hnext := d.monotone_lineStart (Nat.succ_le_of_lt hline)
    have hlast := line_le_of_rawLine? hraw
    rw [Nat.succ_eq_add_one, lineStart_succ hraw'] at hnext
    omega
  · rw [hline] at h
    omega

/-- A span from a valid position to the place of an offset stands for the text between them. -/
theorem range?_between_positionAt (h : d.offset? p = some o) (ho : o ≤ o')
    (hle : o' ≤ d.charCount) :
    d.range? (Span.between p (d.positionAt o')) = some (o, o') := by
  have hplace := isAt_positionAt hle
  have horder := hplace.le_of_offset? h ho
  obtain ⟨raw, hraw, hcolumn, hoffset⟩ := hplace
  rw [range?_between h horder hraw, Nat.min_eq_left (by omega), hoffset]

end Document

end EditorPane
