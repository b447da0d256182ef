import EditorPane.Paint
import EditorPane.Proofs.Buffer.Batch
import EditorPane.Proofs.Text.Newlines

/-!
# How far a token is painted

A token with a `\n` in it is painted up to its last character. Any other is taken to lie on one
line: its span is read off its length and ends with the line it starts on. That is its last
character as well where lines break at `\n` alone. A token that reaches over another break has its
characters on the lines below left out.

## Main definitions

* `Token.LiesIn` — a token starts where it says and stops in the text.
* `Token.paintedStop` — where its paint stops.

## Main results

* `Token.LiesIn.range?_tokenSpan` — the text that the span of a token addresses.
* `tokenSpan_tags_to_line_end` — the characters that are tagged.
-/

namespace EditorPane

namespace Token

variable {d : Document} {t : Token}

/-- The token starts where its position says, has characters, and stops in the text. -/
structure LiesIn (t : Token) (d : Document) : Prop where
  start : d.offset? t.position = some t.start
  nonempty : t.start ≤ t.stop
  inside : t.stop < d.charCount

/-- The characters of the token. -/
def text (d : Document) (t : Token) : Text := d.slice t.start (t.stop + 1)

/-- The offset up to which the token is painted. -/
def paintedStop (d : Document) (t : Token) : Nat :=
  if '\n' ∈ t.text d then t.stop + 1 else min (t.stop + 1) (d.lineStart (t.line + 1))

theorem lt_paintedStop_iff {o : Nat} : o < t.paintedStop d ↔
    o ≤ t.stop ∧ ('\n' ∈ t.text d ∨ o < d.lineStart (t.line + 1)) := by
  grind [paintedStop]

/-- A token is painted in full if it stops on the line it starts on. -/
theorem paintedStop_of_stop_lt (h : t.stop < d.lineStart (t.line + 1)) :
    t.paintedStop d = t.stop + 1 := by
  rw [paintedStop, Nat.min_eq_left h, ite_self]

namespace LiesIn

variable (h : t.LiesIn d)

include h

/-- In a text that a machine can hold, the end of the token is a word. -/
theorem stop_add_one_lt (hshort : d.charCount ≤ maxColumn) : t.stop + 1 < UInt64.size :=
  Nat.lt_of_le_of_lt (Nat.le_trans h.inside hshort) (by decide)

theorem start_add_length (hshort : d.charCount ≤ maxColumn) :
    t.start + t.length = t.stop + 1 := by
  have hnonempty := h.nonempty
  rw [Token.length, wordAdd_of_lt (h.stop_add_one_lt hshort)]
  omega

theorem wordAdd_start_length (hshort : d.charCount ≤ maxColumn) :
    wordAdd t.start t.length = t.stop + 1 := by
  have hend := h.start_add_length hshort
  rw [wordAdd_of_lt (hend ▸ h.stop_add_one_lt hshort), hend]

/-- The span that is read off the length ends with the line at the latest. -/
theorem range?_span (hshort : d.charCount ≤ maxColumn) :
    d.range? t.span = some (t.start, min (t.stop + 1) (d.lineStart (t.line + 1))) := by
  obtain ⟨raw, hraw, -, hstart⟩ := Document.offset?_eq_some h.start
  have hlength := h.start_add_length hshort
  have hinside := h.inside
  have hcolumn : (t.position.moveRight t.length).column = t.position.column + t.length :=
    Position.column_moveRight (by omega)
  have hnext : d.lineStart (t.line + 1) = d.lineStart t.position.line + raw.length :=
    Document.lineStart_succ hraw
  rw [Token.span, Document.range?_between h.start (t.position.le_moveRight _) hraw, hcolumn,
    Position.line_moveRight, hnext, Option.some.injEq, Prod.mk.injEq]
  omega

/-- A token addresses its characters up to where its paint stops. -/
theorem range?_tokenSpan (hshort : d.charCount ≤ maxColumn) :
    d.range? (tokenSpan d t) = some (t.start, t.paintedStop d) := by
  have hinside : t.stop + 1 ≤ d.charCount := h.inside
  have hforward : t.start ≤ t.stop + 1 := Nat.le_succ_of_le h.nonempty
  by_cases hnewline : '\n' ∈ t.text d
  · have hspan : tokenSpan d t = Span.between t.position (d.positionAt (t.stop + 1)) := by
      rw [text] at hnewline
      simp [tokenSpan, h.start, h.wordAdd_start_length hshort, hinside, hnewline]
    rw [hspan, Document.range?_between_positionAt h.start hforward hinside, paintedStop,
      if_pos hnewline]
  · have hspan : tokenSpan d t = t.span := by
      rw [text] at hnewline
      simp [tokenSpan, h.start, h.wordAdd_start_length hshort, hnewline]
    rw [hspan, h.range?_span hshort, paintedStop, if_neg hnewline]

/-- Where lines break at newlines, a token that goes on below its line has a newline in it. -/
theorem paintedStop_of_breaksAtNewlines (hbreaks : breaksAtNewlines d.text = true) :
    t.paintedStop d = t.stop + 1 := by
  rw [paintedStop]
  split
  · rfl
  · next hnewline =>
    apply Nat.min_eq_left
    by_contra hbelow
    -- The line is not the last one, so its last character is a newline, and the token has it.
    have hstop : d.lineStart (t.line + 1) ≤ t.stop := by omega
    have hline := Document.lt_lineCount_of_lineStart_lt (hstop.trans_lt h.inside)
    obtain ⟨raw, hraw, hcolumn, hstart⟩ := Document.isAt_of_offset? hbreaks h.start
    obtain ⟨n, hn, hget⟩ := Document.exists_of_rawLine? hraw
    have hlast : raw.getLast? = some '\n' :=
      getLast?_of_lt_length_rawLines hbreaks hget (by rw [← hn]; exact hline)
    have hnext : d.lineStart (t.line + 1) = d.lineStart t.position.line + raw.length :=
      Document.lineStart_succ hraw
    have hinside : t.position.column < raw.length :=
      hcolumn.resolve_right fun hend => Nat.ne_of_lt hline hend.1
    rw [List.getLast?_eq_getElem?] at hlast
    apply hnewline
    exact Document.mem_slice (Document.getElem?_of_rawLine? hraw hlast) (by omega) (by omega)

end LiesIn

end Token

/-- A token in a text of at most `maxColumn` characters is tagged over those of its characters that
are on the line it starts on, and over all of them if it has a `\n`. These are all its characters
too if the lines of the text break at `\n` only, with or without a `\r` before it. -/
theorem tokenSpan_tags_to_line_end (b : Buffer) (t : Token) (v : VisualClass)
    (h : t.LiesIn b.document) (hshort : b.text.length ≤ maxColumn) :
    ∃ b', b.tag (tokenSpan b.document t) v = .ok b' ∧
      (∀ o, b'.layers.IsTagged v o ↔ b.layers.IsTagged v o ∨ t.start ≤ o ∧ o ≤ t.stop ∧
        ('\n' ∈ t.text b.document ∨ o < b.document.lineStart (t.line + 1))) ∧
      ('\n' ∈ t.text b.document ∨ t.stop < b.document.lineStart (t.line + 1) ∨
          breaksAtNewlines b.text = true →
        (b'.taggedRanges v).Perm ((t.start, t.stop + 1) :: b.taggedRanges v)) := by
  have hrange := h.range?_tokenSpan hshort
  obtain ⟨b', htag⟩ : ∃ b', b.tag (tokenSpan b.document t) v = .ok b' :=
    Buffer.exists_tag_eq_ok_iff.2 (Option.isSome_of_mem hrange)
  refine ⟨b', htag, fun o => ?_, fun hwhole => ?_⟩
  · rw [Buffer.isTagged_of_tag htag, Document.addresses_iff hrange, Token.lt_paintedStop_iff]
    simp
  · have hstop : t.paintedStop b.document = t.stop + 1 := by
      rcases hwhole with hnewline | hline | hbreaks
      · exact if_pos hnewline
      · exact Token.paintedStop_of_stop_lt hline
      · exact h.paintedStop_of_breaksAtNewlines hbreaks
    have hlt : t.start < t.stop + 1 := Nat.lt_succ_of_le h.nonempty
    have htagged := Buffer.perm_taggedRanges_of_tag (c := v) htag
    simpa [DecorationCommand.rangeIn?, Document.nonemptyRange?, hrange, hstop, Option.filter, hlt]
      using htagged

/-- A string that has lost its end goes on over a `\r` and a `\n`. -/
theorem tokenSpan_tags_open_string :
    let b := Buffer.ofText ['x', '"', '\r', 'a', '\n', 'b', 'c'] 2
    let t : Token := ⟨1, 1, 1, 5⟩
    t.LiesIn b.document ∧ b.text.length ≤ maxColumn ∧
      ∃ b', b.tag (tokenSpan b.document t) .string = .ok b' ∧
        b'.taggedRanges .string = [(1, 6)] := by
  intro b t
  have hlies : t.LiesIn b.document := ⟨by decide +kernel, by decide, by decide⟩
  have hshort : b.text.length ≤ maxColumn := by decide
  have hnewline : '\n' ∈ t.text b.document := by decide
  have hnone : b.taggedRanges .string = [] := by decide +kernel
  obtain ⟨b', htag, -, hwhole⟩ := tokenSpan_tags_to_line_end b t .string hlies hshort
  have htagged := hwhole (.inl hnewline)
  rw [hnone] at htagged
  exact ⟨hlies, hshort, b', htag, List.perm_singleton.1 htagged⟩

/-- A token with a `\r` in it and no `\n`: its last character is on the second line and is left
out. -/
theorem tokenSpan_cut_at_return :
    let b := Buffer.ofText ['a', '\r', 'b'] 2
    let t : Token := ⟨1, 0, 0, 2⟩
    b.document.offset? t.position = some t.start ∧ t.start ≤ t.stop ∧ t.stop < b.text.length ∧
      b.taggedRanges .keyword = [] ∧
      (b.tag (tokenSpan b.document t) .keyword).toOption.map (Buffer.taggedRanges · .keyword)
        = some [(0, 2)] := by
  decide +kernel

end EditorPane
