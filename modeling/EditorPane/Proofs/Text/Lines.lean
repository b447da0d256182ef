import EditorPane.Proofs.Text.Newlines
import Mathlib.Data.List.Forall2

/-!
# Lines make up the text

A line shows its raw text up to the `\n`, `\r` or `\r\n` at the end of it. There is no other `\n`
or `\r` in a raw line, so what lines show and how they end can be told apart character by
character, and both put together in the order of the lines are the text.

## Main definitions

* `terminator`, `terminators` — the end of a raw line that is not shown.
* `Document.IsLine` — what a line of a document shows and how it ends.

## Main results

* `dropTerminator_append_terminator` — a raw line is what it shows and how it ends.
* `forall_mem_rawLines` — what holds of all raw lines, by the ways in which they are built.
* `isShown_of_mem_dropTerminator`, `lt_length_dropTerminator_iff` — no line shows a `\n` or `\r`,
  and all else is shown.
* `Document.lines_partition_text` — the lines of a document make up its text.
-/

namespace EditorPane

variable {t raw following : Text} {c : Char}

/-! ## Breaks -/

theorem breaksAfter_of_ne_return (h : c ≠ '\r') : breaksAfter c following = isLineBreak c := by
  simp [breaksAfter, h]

theorem breaksAfter_return_iff :
    breaksAfter '\r' following = true ↔ following.head? ≠ some '\n' := by
  simp [breaksAfter, isLineBreak]

/-! ## Terminators -/

/-- The characters at the end of a raw line that it does not show. -/
def terminator (raw : Text) : Text := raw.drop (raw.length - terminatorLength raw)

/-- How the shown part of a line can be followed up to the next line. The last line and a line with
one of the breaks that are shown have nothing left. -/
def terminators : List Text := [[], ['\n'], ['\r'], ['\r', '\n']]

@[simp] theorem dropTerminator_append_terminator (raw : Text) :
    dropTerminator raw ++ terminator raw = raw := by
  rw [dropTerminator_eq_take, terminator, List.take_append_drop]

theorem terminator_mem_terminators (raw : Text) : terminator raw ∈ terminators := by
  obtain ⟨l, rfl⟩ : ∃ l, raw = l.reverse := ⟨raw.reverse, raw.reverse_reverse.symm⟩
  unfold terminator terminatorLength
  rw [List.reverse_reverse]
  split <;> simp [terminators]

/-- Only `\n` and `\r` are left out at the end of a line. -/
theorem eq_newline_or_return_of_mem_terminator (h : c ∈ terminator raw) : c = '\n' ∨ c = '\r' := by
  have hmem : ∀ l ∈ terminators, ∀ x ∈ l, x = '\n' ∨ x = '\r' := by simp [terminators]
  exact hmem _ (terminator_mem_terminators raw) c h

theorem dropTerminator_cons (hnewline : c ≠ '\n') (hreturn : c ≠ '\r') (raw : Text) :
    dropTerminator (c :: raw) = c :: dropTerminator raw :=
  dropTerminator_append (u := [c]) ⟨c, rfl, hnewline, hreturn⟩ raw

/-! ## Raw lines -/

/-- A property of all raw lines, by how they are built: the empty line, a break by itself, and a
character in front of a line. A character in front of a line is no break, unless it is the `\r` of a
`\r\n`. -/
theorem forall_mem_rawLines {P : Text → Prop} (nil : P []) (single : ∀ c, isLineBreak c → P [c])
    (cons : ∀ c l, P l → isLineBreak c = false → P (c :: l)) (crlf : P ['\r', '\n']) (t : Text) :
    ∀ raw ∈ rawLines t, P raw := by
  induction t with
  | nil => simpa [rawLines] using nil
  | cons c rest ih =>
    rw [rawLines]
    split
    · next hbreak =>
      rw [breaksAfter, Bool.and_eq_true] at hbreak
      exact List.forall_mem_cons.2 ⟨single c hbreak.1, ih⟩
    · next hbreak =>
      obtain ⟨l, ls, hls⟩ := List.exists_cons_of_ne_nil (rawLines_ne_nil rest)
      rw [hls, List.forall_mem_cons] at ih
      rw [hls, consFirst]
      refine List.forall_mem_cons.2 ⟨?_, ih.2⟩
      by_cases hc : c = '\r'
      · -- no line ends after this `\r`, so the `\n` behind it is the rest of its line
        subst hc
        rw [breaksAfter_return_iff, not_not] at hbreak
        obtain ⟨rest, rfl⟩ := List.head?_eq_some_iff.1 hbreak
        rw [rawLines_newline, List.cons.injEq] at hls
        rw [← hls.1]
        exact crlf
      · rw [breaksAfter_of_ne_return hc, Bool.not_eq_true] at hbreak
        exact cons c l ih.1 hbreak

/-- No line shows a `\n` or `\r`. -/
theorem isShown_of_mem_dropTerminator (hraw : raw ∈ rawLines t) :
    ∀ c ∈ dropTerminator raw, c ≠ '\n' ∧ c ≠ '\r' := by
  refine forall_mem_rawLines (P := fun raw => ∀ c ∈ dropTerminator raw, c ≠ '\n' ∧ c ≠ '\r')
    ?_ ?_ ?_ ?_ t raw hraw
  · simp [dropTerminator, dropLastIf]
  · intro c _
    by_cases hc : c = '\n' ∨ c = '\r'
    · rcases hc with rfl | rfl <;> simp [dropTerminator, dropLastIf]
    · obtain ⟨hnewline, hreturn⟩ := not_or.1 hc
      rw [dropTerminator_cons hnewline hreturn]
      simp [dropTerminator, dropLastIf, hnewline, hreturn]
  · intro c l hl hc
    have hnewline : c ≠ '\n' := by rintro rfl; simp [isLineBreak] at hc
    have hreturn : c ≠ '\r' := by rintro rfl; simp [isLineBreak] at hc
    rw [dropTerminator_cons hnewline hreturn]
    exact List.forall_mem_cons.2 ⟨⟨hnewline, hreturn⟩, hl⟩
  · simp [dropTerminator, dropLastIf]

/-- A raw line is shown up to its first `\n` or `\r`. -/
theorem lt_length_dropTerminator_iff (hraw : raw ∈ rawLines t) {k : Nat} :
    k < (dropTerminator raw).length ↔ ∃ c, raw[k]? = some c ∧ c ≠ '\n' ∧ c ≠ '\r' := by
  have hsplit := dropTerminator_append_terminator raw
  constructor
  · intro hk
    refine ⟨(dropTerminator raw)[k], ?_, isShown_of_mem_dropTerminator hraw _ (List.getElem_mem hk)⟩
    conv_lhs => rw [← hsplit]
    rw [List.getElem?_append_left hk, List.getElem?_eq_getElem hk]
  · rintro ⟨c, hc, hnewline, hreturn⟩
    by_contra hk
    rw [← hsplit, List.getElem?_append_right (Nat.le_of_not_lt hk)] at hc
    rcases eq_newline_or_return_of_mem_terminator (List.mem_of_getElem? hc) with rfl | rfl
    · exact hnewline rfl
    · exact hreturn rfl

/-- Only the last line can be empty, break included. -/
theorem length_rawLines_of_getElem?_eq_nil {n : Nat} (h : (rawLines t)[n]? = some []) :
    (rawLines t).length = n + 1 := by
  induction t generalizing n with
  | nil =>
    cases n with
    | zero => rfl
    | succ n => cases h
  | cons c rest ih =>
    rw [rawLines] at h ⊢
    split at h
    · next hbreak =>
      rw [if_pos hbreak, List.length_cons]
      cases n with
      | zero => cases h
      | succ n => rw [ih h]
    · next hbreak =>
      obtain ⟨l, ls, hls⟩ := List.exists_cons_of_ne_nil (rawLines_ne_nil rest)
      rw [hls] at h ih
      rw [if_neg hbreak, hls]
      cases n with
      | zero => cases h
      | succ n => exact ih (n := n + 1) h

namespace Document

variable {d : Document} {line : Nat}

/-! ## Lines of a document -/

theorem lineText?_eq_none_iff : d.lineText? line = none ↔ line = 0 ∨ d.lineCount < line := by
  rw [lineText?, Option.map_eq_none_iff, rawLine?]
  split
  · next hzero => simp [hzero]
  · next hzero =>
    rw [List.getElem?_eq_none_iff, ← lineCount]
    omega

theorem mem_rawLines_of_rawLine? (h : d.rawLine? line = some raw) : raw ∈ rawLines d.text := by
  obtain ⟨n, -, hn⟩ := exists_of_rawLine? h
  exact List.mem_of_getElem? hn

/-- A line can be addressed by its first column, even if it is empty. -/
theorem offset?_zero (h : d.rawLine? line = some raw) :
    d.offset? ⟨line, 0⟩ = some (d.lineStart line) :=
  offset?_of_lineText? (by rw [lineText?, h]; rfl) (Nat.zero_le _)

/-- What a line is made of: it starts at `start`, shows the text `shown` and goes on with `ending`
up to `stop`, where the next line starts or the text is over. -/
structure IsLine (d : Document) (line start stop : Nat) (shown ending : Text) : Prop where
  text : d.lineText? line = some shown
  length : d.lineLength? line = some shown.length
  starts : d.offset? ⟨line, 0⟩ = some start
  stops : if line = d.lineCount then stop = d.charCount else d.offset? ⟨line + 1, 0⟩ = some stop
  slice_shown : d.slice start (start + shown.length) = shown
  slice_ending : d.slice (start + shown.length) stop = ending
  isShown : ∀ c ∈ shown, c ≠ '\n' ∧ c ≠ '\r'
  ending_mem : ending ∈ terminators

theorem slice_lineStart (h : d.rawLine? line = some raw) (m n : Nat) (hn : n ≤ raw.length) :
    d.slice (d.lineStart line + m) (d.lineStart line + n) = (raw.take n).drop m := by
  rw [slice, List.drop_take, Nat.add_sub_add_left, ← List.drop_drop, drop_lineStart h,
    ← List.drop_take, List.take_append_of_le_length hn]

theorem isLine_of_rawLine? (h : d.rawLine? line = some raw) :
    d.IsLine line (d.lineStart line) (d.lineStart (line + 1)) (dropTerminator raw)
      (terminator raw) where
  text := by rw [lineText?, h, Option.map_some]
  length := by rw [lineLength?_of_rawLine? h, length_dropTerminator]
  starts := offset?_zero h
  stops := by
    obtain ⟨n, rfl, hn⟩ := exists_of_rawLine? h
    split
    · next hlast => rw [hlast, lineStart_lineCount_succ]
    · next hlast =>
      have hle := line_le_of_rawLine? h
      have hnext : n + 1 < d.lines.length := Nat.lt_of_le_of_ne hle hlast
      have hraw : d.rawLine? (n + 1 + 1) = some d.lines[n + 1] := List.getElem?_eq_getElem hnext
      exact offset?_zero hraw
  slice_shown := by
    have hshown := slice_lineStart h 0 _ (prefix_dropTerminator raw).length_le
    rwa [Nat.add_zero, List.drop_zero,
      ← List.prefix_iff_eq_take.1 (prefix_dropTerminator raw)] at hshown
  slice_ending := by
    rw [lineStart_succ h, slice_lineStart h _ _ le_rfl, List.take_length, length_dropTerminator,
      terminator]
  isShown := isShown_of_mem_dropTerminator (mem_rawLines_of_rawLine? h)
  ending_mem := terminator_mem_terminators raw

/-- Every line of a document is given by what it shows and how it ends, and the two put together
line by line are the text. There are no other lines. -/
theorem lines_partition_text (d : Document) :
    (∃ parts : List (Text × Text),
      List.Forall₂ (fun line part => ∃ start stop, d.IsLine line start stop part.1 part.2)
        (List.range' 1 d.lineCount) parts ∧
      (parts.flatMap fun part => part.1 ++ part.2) = d.text) ∧
    ∀ line, (d.lineText? line = none ↔ line = 0 ∨ d.lineCount < line) ∧
      (d.lineLength? line = none ↔ line = 0 ∨ d.lineCount < line) := by
  refine ⟨⟨d.lines.map fun raw => (dropTerminator raw, terminator raw), ?_, ?_⟩, fun line => ?_⟩
  · rw [List.forall₂_map_right_iff, List.forall₂_iff_get]
    refine ⟨List.length_range', fun n hn hlines => ?_⟩
    have hline : (List.range' 1 d.lineCount).get ⟨n, hn⟩ = n + 1 := by
      simp [Nat.add_comm]
    rw [hline]
    exact ⟨_, _, isLine_of_rawLine? (List.getElem?_eq_getElem hlines)⟩
  · have hwhole : (fun raw => dropTerminator raw ++ terminator raw) = id :=
      funext dropTerminator_append_terminator
    rw [List.flatMap_map, hwhole, List.flatMap_id, lines, flatten_rawLines]
  · refine ⟨lineText?_eq_none_iff, ?_⟩
    rw [← lineText?_eq_none_iff, lineLength?, lineText?, Option.map_eq_none_iff,
      Option.map_eq_none_iff]

/-- A U+0085 is shown and ends its line, so nothing is left for the end of that line. -/
example : (Document.mk ['a', '\r', '\n', '\u0085', '\n', '\r']).lines.map
      (fun raw => (dropTerminator raw, terminator raw))
    = [(['a'], ['\r', '\n']), (['\u0085'], []), ([], ['\n']), ([], ['\r']), ([], [])] := by
  decide +kernel

end Document

end EditorPane
