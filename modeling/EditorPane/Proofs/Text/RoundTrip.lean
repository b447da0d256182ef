import EditorPane.Proofs.Text.Lines

/-!
# Between positions and offsets

The place of the next offset can be told from the place of an offset and the character there: the
line goes on, or it ends and the next one starts. The valid positions can be told in the same way: a
line can be addressed where it starts, and behind each character that it shows. Both together say
where going from a position to its offset and back, or from an offset to its place and back, ends
up.

Two kinds of places come out otherwise than they went in. A line shows the breaks other than `\n`
and `\r`, so it has a column behind such a break, at the offset where the next line starts. And
between the `\r` and the `\n` of one break there is an offset, but nothing that a line shows.

## Main definitions

* `Position.after` — the place behind a character.
* `Document.IsPastBreak` — a position is behind a break that its line shows.
* `Document.SplitsBreak` — an offset is inside of a `\r\n`.

## Main results

* `Document.positionAt_succ` — the place of the next offset.
* `Document.offset?_eq_some_iff` — the valid positions of an offset.
* `Document.valid_position_round_trip` — from positions to offsets and back.
* `Document.offset_round_trip` — from offsets to positions and back.
-/

namespace EditorPane

/-- The place behind the character `c` at `p`: the next column, or the next line if the line ends
after it. -/
def Position.after (p : Position) (c : Char) (following : Text) : Position :=
  if breaksAfter c following then ⟨p.line + 1, 0⟩ else ⟨p.line, p.column + 1⟩

variable {t : Text} {c : Char} {line o : Nat}

theorem line_le_locate (line : Nat) (ls : List Text) (o : Nat) :
    line ≤ (locate line ls o).line := by
  induction line, ls, o using locate.induct with
  | case1 | case2 => exact Nat.le_refl _
  | case3 line l rest o hrest hlt =>
    simp [locate, hlt]
  | case4 line l rest o hrest hge ih =>
    rw [locate, if_neg hge]
    · omega
    · exact hrest

theorem locate_rawLines_zero (line : Nat) (t : Text) : locate line (rawLines t) 0 = ⟨line, 0⟩ := by
  obtain ⟨l, ls, hls⟩ := List.exists_cons_of_ne_nil (rawLines_ne_nil t)
  rw [hls]
  cases ls with
  | nil => rfl
  | cons l' ls =>
    have hpos : 0 < l.length := by
      rw [List.length_pos_iff]
      rintro rfl
      have hfirst : (rawLines t)[0]? = some [] := by rw [hls, List.getElem?_cons_zero]
      have hlast := length_rawLines_of_getElem?_eq_nil hfirst
      rw [hls, List.length_cons, List.length_cons] at hlast
      omega
    rw [locate, if_pos hpos]
    simp

theorem locate_consFirst (line : Nat) (c : Char) {ls : List Text} (hls : ls ≠ []) (o : Nat) :
    locate line (consFirst c ls) (o + 1) =
      if (locate line ls o).line = line then ⟨line, (locate line ls o).column + 1⟩
      else locate line ls o := by
  match ls with
  | [] => contradiction
  | [l] => simp [consFirst, locate]
  | l :: l' :: ls =>
    have hle := line_le_locate (line + 1) (l' :: ls) (o - l.length)
    by_cases ho : o < l.length
    · simp [consFirst, locate, ho]
    · simp only [consFirst, locate, ho, List.length_cons, Nat.add_lt_add_iff_right, if_false,
        Nat.add_sub_add_right]
      rw [if_neg (by omega)]

theorem locate_rawLines_succ (line : Nat) (h : t[o]? = some c) :
    locate line (rawLines t) (o + 1)
      = (locate line (rawLines t) o).after c (t.drop (o + 1)) := by
  induction t generalizing line o with
  | nil => simp at h
  | cons x rest ih =>
    by_cases hbreak : breaksAfter x rest = true
    · have hcut : rawLines (x :: rest) = [x] :: rawLines rest := by rw [rawLines, if_pos hbreak]
      have hnext (k : Nat) : locate line ([x] :: rawLines rest) (k + 1)
          = locate (line + 1) (rawLines rest) k := by
        obtain ⟨l, ls, hls⟩ := List.exists_cons_of_ne_nil (rawLines_ne_nil rest)
        simp [hls, locate]
      rw [hcut, hnext]
      cases o with
      | zero =>
        cases h
        rw [locate_rawLines_zero, ← hcut, locate_rawLines_zero, Position.after, List.drop_succ_cons,
          List.drop_zero, if_pos hbreak]
      | succ o => rw [hnext, ih (line + 1) h, List.drop_succ_cons]
    · have hjoin : rawLines (x :: rest) = consFirst x (rawLines rest) := by
        rw [rawLines, if_neg hbreak]
      have hnext := locate_consFirst line x (rawLines_ne_nil rest)
      cases o with
      | zero =>
        cases h
        rw [locate_rawLines_zero, hjoin, hnext, locate_rawLines_zero, Position.after,
          List.drop_succ_cons, List.drop_zero, if_neg hbreak, if_pos rfl]
      | succ o =>
        rw [hjoin, hnext, hnext, ih line h, List.drop_succ_cons]
        have hle := line_le_locate line (rawLines rest) o
        grind [Position.after]

namespace Document

variable {d : Document} {p q : Position} {o' : Nat}

theorem exists_getElem?_of_lt (h : o < d.charCount) : ∃ c, d.text[o]? = some c :=
  ⟨_, List.getElem?_eq_getElem h⟩

/-- The place of the next offset. -/
theorem positionAt_succ (h : d.text[o]? = some c) :
    d.positionAt (o + 1) = (d.positionAt o).after c (d.text.drop (o + 1)) := by
  have hlt : o < d.charCount := (List.getElem?_eq_some_iff.1 h).1
  rw [positionAt, positionAt, Nat.min_eq_left hlt, Nat.min_eq_left hlt.le]
  exact locate_rawLines_succ 1 h

@[simp] theorem positionAt_zero (d : Document) : d.positionAt 0 = ⟨1, 0⟩ := by
  rw [positionAt, Nat.zero_min]
  exact locate_rawLines_zero 1 d.text

theorem isAt_lineStart {raw : Text} (h : d.rawLine? line = some raw) :
    d.IsAt ⟨line, 0⟩ (d.lineStart line) := by
  refine ⟨raw, h, ?_, Nat.add_zero _⟩
  obtain ⟨n, rfl, hn⟩ := exists_of_rawLine? h
  cases raw with
  | nil => exact .inr ⟨(length_rawLines_of_getElem?_eq_nil hn).symm, Nat.le_refl _⟩
  | cons => exact .inl (Nat.succ_pos _)

/-- The character at a place is the one at its offset. -/
theorem getElem?_of_isAt {raw : Text} (hraw : d.rawLine? p.line = some raw) (h : d.IsAt p o) :
    raw[p.column]? = d.text[o]? := by
  obtain ⟨raw', hraw', hcolumn, rfl⟩ := h
  cases hraw.symm.trans hraw'
  by_cases hlt : p.column < raw.length
  · rw [List.getElem?_eq_getElem hlt, getElem?_of_rawLine? hraw (List.getElem?_eq_getElem hlt)]
  · -- only the end of the text is behind all characters of a line
    have hend := d.lineStart_lineCount_succ
    rw [← (hcolumn.resolve_left hlt).1, lineStart_succ hraw, charCount] at hend
    rw [List.getElem?_eq_none (Nat.le_of_not_lt hlt), List.getElem?_eq_none (by omega)]

/-- The next column of a line is valid if the line shows the character before it. -/
theorem offset?_succ_iff {column : Nat} (h : d.IsAt ⟨line, column⟩ o) :
    d.offset? ⟨line, column + 1⟩ = some (o + 1) ↔
      ∃ c, d.text[o]? = some c ∧ c ≠ '\n' ∧ c ≠ '\r' := by
  obtain ⟨raw, hraw, hcolumn, hoffset⟩ := id h
  have hvalid : d.offset? ⟨line, column + 1⟩ = some (o + 1) ↔
      column < (dropTerminator raw).length := by
    simp only [offset?, isValid, lineLength?_of_rawLine? hraw, ← length_dropTerminator,
      decide_eq_true_eq, Option.ite_none_right_eq_some]
    exact ⟨And.left, fun hlt => ⟨hlt, congrArg (fun n => some (n + 1)) hoffset⟩⟩
  rw [hvalid, lt_length_dropTerminator_iff (mem_rawLines_of_rawLine? hraw),
    ← getElem?_of_isAt hraw h]

/-- The valid positions of an offset: its place if a line starts there, and the column behind the
character before it if that is shown. -/
theorem offset?_eq_some_iff : d.offset? p = some o ↔ o ≤ d.charCount ∧
    (p.column = 0 ∧ p = d.positionAt o ∨ ∃ n c, o = n + 1 ∧ d.text[n]? = some c ∧
      c ≠ '\n' ∧ c ≠ '\r' ∧ p = ⟨(d.positionAt n).line, (d.positionAt n).column + 1⟩) := by
  constructor
  · intro h
    refine ⟨offset?_le_charCount h, ?_⟩
    obtain ⟨raw, hraw, hcolumn, rfl⟩ := offset?_eq_some h
    obtain ⟨line, column⟩ := p
    dsimp only at *
    cases column with
    | zero => exact .inl ⟨rfl, (isAt_lineStart hraw).eq_positionAt⟩
    | succ k =>
      have hplace : d.IsAt ⟨line, k⟩ (d.lineStart line + k) := .of_lt hraw (by omega)
      obtain ⟨c, hc, hnewline, hreturn⟩ := (offset?_succ_iff hplace).1 h
      refine .inr ⟨d.lineStart line + k, c, rfl, hc, hnewline, hreturn, ?_⟩
      rw [← hplace.eq_positionAt]
  · rintro ⟨hle, ⟨hcolumn, hplace⟩ | ⟨n, c, rfl, hc, hnewline, hreturn, rfl⟩⟩
    · obtain ⟨raw, hraw, -, hoffset⟩ := hplace ▸ isAt_positionAt hle
      obtain ⟨line, column⟩ := p
      cases hcolumn
      rw [offset?_zero hraw, hoffset.symm]
      rfl
    · have hplace := isAt_positionAt (Nat.le_of_succ_le hle)
      exact (offset?_succ_iff hplace).2 ⟨c, hc, hnewline, hreturn⟩

/-! ## From positions and back -/

/-- The character before the position, on the same line, is a break. It is one that lines show. -/
def IsPastBreak (d : Document) (p : Position) : Prop :=
  p.column ≠ 0 ∧ ∃ n c, d.offset? p = some (n + 1) ∧ d.text[n]? = some c ∧
    isLineBreak c = true ∧ c ≠ '\n' ∧ c ≠ '\r'

theorem isPastBreak_iff (h : d.offset? p = some (o + 1)) (hcolumn : p.column ≠ 0)
    (hc : d.text[o]? = some c) (hnewline : c ≠ '\n') (hreturn : c ≠ '\r') :
    d.IsPastBreak p ↔ isLineBreak c = true := by
  constructor
  · rintro ⟨-, n, c', hn, hc', hbreak, -⟩
    cases h.symm.trans hn
    cases hc.symm.trans hc'
    exact hbreak
  · intro hbreak
    exact ⟨hcolumn, o, c, h, hc, hbreak, hnewline, hreturn⟩

/-- Where a valid position comes back from its offset. -/
theorem positionAt_of_offset? (h : d.offset? p = some o) :
    (¬ d.IsPastBreak p → d.positionAt o = p) ∧
      (d.IsPastBreak p → d.positionAt o = ⟨p.line + 1, 0⟩) := by
  obtain ⟨-, ⟨hcolumn, hplace⟩ | ⟨n, c, rfl, hc, hnewline, hreturn, hplace⟩⟩ :=
    offset?_eq_some_iff.1 h
  · exact ⟨fun _ => hplace.symm, fun hpast => absurd hcolumn hpast.1⟩
  · have hcolumn : p.column ≠ 0 := by
      rw [hplace]
      exact Nat.succ_ne_zero _
    rw [isPastBreak_iff h hcolumn hc hnewline hreturn, positionAt_succ hc, Position.after,
      breaksAfter_of_ne_return hreturn, hplace]
    exact ⟨fun hgoesOn => if_neg hgoesOn, fun hbreak => if_pos hbreak⟩

/-- A valid position converts to an offset of the text and back, unless it is behind a break that
its line shows. Such a position shares its offset with the start of the next line and comes back as
that; no other two valid positions share an offset. -/
theorem valid_position_round_trip (h : d.isValid p = true) :
    ∃ o, d.offset? p = some o ∧ o ≤ d.charCount ∧
      (¬ d.IsPastBreak p → d.positionAt o = p) ∧
      (d.IsPastBreak p → d.positionAt o = ⟨p.line + 1, 0⟩) ∧
      ∀ q, d.offset? q = some o → q = p ∨ d.IsPastBreak p ∧ q = ⟨p.line + 1, 0⟩ ∨
        d.IsPastBreak q ∧ p = ⟨q.line + 1, 0⟩ := by
  have hoffset : d.offset? p = some (d.lineStart p.line + p.column) := if_pos h
  obtain ⟨hback, hnext⟩ := positionAt_of_offset? hoffset
  refine ⟨_, hoffset, offset?_le_charCount hoffset, hback, hnext, fun q hshared => ?_⟩
  obtain ⟨hback', hnext'⟩ := positionAt_of_offset? hshared
  by_cases hp : d.IsPastBreak p <;> by_cases hq : d.IsPastBreak q
  · -- both come back as the start of the same line, so they are columns of the line before it
    have hline := (hnext hp).symm.trans (hnext' hq)
    obtain ⟨-, -, -, hplace⟩ := offset?_eq_some hshared
    obtain ⟨line, column⟩ := p
    obtain ⟨line', column'⟩ := q
    simp only [Position.mk.injEq, Nat.add_right_cancel_iff, and_true] at hline
    subst hline
    have hcolumn : column = column' := Nat.add_left_cancel hplace
    exact .inl (hcolumn ▸ rfl)
  · exact .inr (.inl ⟨hp, (hback' hq).symm.trans (hnext hp)⟩)
  · exact .inr (.inr ⟨hq, (hback hp).symm.trans (hnext' hq)⟩)
  · exact .inl ((hback' hq).symm.trans (hback hp))

/-- The end of the second line is behind the U+2028 that ends it. It has the offset of the third
line, and so has no other position. -/
theorem valid_position_behind_separator :
    let d : Document := ⟨['a', '\r', '\n', 'b', '\u2028', 'c']⟩
    d.isValid ⟨2, 2⟩ = true ∧ d.IsPastBreak ⟨2, 2⟩ ∧ d.offset? ⟨2, 2⟩ = some 5 ∧
      d.positionAt 5 = ⟨3, 0⟩ ∧ ∀ q, d.offset? q = some 5 → q.column ≠ 0 → q = ⟨2, 2⟩ := by
  intro d
  have hvalid : d.isValid ⟨2, 2⟩ = true := by decide +kernel
  have hoffset : d.offset? ⟨2, 2⟩ = some 5 := by decide +kernel
  have hpast : d.IsPastBreak ⟨2, 2⟩ :=
    ⟨by decide, 4, '\u2028', hoffset, by decide +kernel, by decide, by decide, by decide⟩
  obtain ⟨o, ho, -, -, hnext, hshared⟩ := valid_position_round_trip hvalid
  cases hoffset.symm.trans ho
  refine ⟨hvalid, hpast, hoffset, hnext hpast, fun q hq hcolumn => ?_⟩
  rcases hshared q hq with hsame | ⟨-, rfl⟩ | ⟨-, hstart⟩
  · exact hsame
  · exact absurd rfl hcolumn
  · cases congrArg Position.column hstart

/-- Behind a U+0085 the first line still goes on and the second line starts. -/
theorem valid_positions_share_offset :
    let d : Document := ⟨['a', '\u0085', 'b']⟩
    d.isValid ⟨1, 2⟩ = true ∧ d.isValid ⟨2, 0⟩ = true ∧ d.offset? ⟨1, 2⟩ = some 2 ∧
      d.offset? ⟨2, 0⟩ = some 2 ∧ d.positionAt 2 ≠ ⟨1, 2⟩ := by
  decide +kernel

/-! ## From offsets and back -/

/-- The offset is between the `\r` and the `\n` of a break. -/
def SplitsBreak (d : Document) (o : Nat) : Prop :=
  ∃ n, o = n + 1 ∧ d.text[n]? = some '\r' ∧ d.text[n + 1]? = some '\n'

theorem not_splitsBreak_zero (d : Document) : ¬ d.SplitsBreak 0 := by
  rintro ⟨n, hn, -⟩
  cases hn

theorem splitsBreak_succ : d.SplitsBreak (o + 1) ↔
    d.text[o]? = some '\r' ∧ d.text[o + 1]? = some '\n' := by
  constructor
  · rintro ⟨n, hn, hbreak⟩
    cases hn
    exact hbreak
  · exact fun hbreak => ⟨o, rfl, hbreak⟩

theorem not_splitsBreak_of_offset? (h : d.offset? p = some o) : ¬ d.SplitsBreak o := by
  rintro ⟨n, rfl, hreturn, hnewline⟩
  obtain ⟨-, ⟨hcolumn, hplace⟩ | ⟨m, c, hm, hc, -, hne, -⟩⟩ := offset?_eq_some_iff.1 h
  · -- the line goes on behind the `\r`
    have hgoesOn : ¬ breaksAfter '\r' (d.text.drop (n + 1)) = true := by
      rw [breaksAfter_return_iff, List.head?_drop, not_not]
      exact hnewline
    rw [hplace, positionAt_succ hreturn, Position.after, if_neg hgoesOn] at hcolumn
    cases hcolumn
  · cases hm
    exact hne (Option.some.inj (hc.symm.trans hreturn))

theorem offset?_positionAt (ho : o ≤ d.charCount) (h : ¬ d.SplitsBreak o) :
    d.offset? (d.positionAt o) = some o := by
  rw [offset?_eq_some_iff]
  refine ⟨ho, ?_⟩
  cases o with
  | zero => exact .inl ⟨by rw [positionAt_zero], rfl⟩
  | succ n =>
    obtain ⟨c, hc⟩ := exists_getElem?_of_lt ho
    rw [positionAt_succ hc, Position.after]
    split
    · exact .inl ⟨rfl, rfl⟩
    · next hgoesOn =>
      refine .inr ⟨n, c, rfl, hc, fun hnewline => ?_, fun hreturn => ?_, rfl⟩
      · rw [hnewline, breaksAfter_of_ne_return (by decide)] at hgoesOn
        exact hgoesOn rfl
      · -- a `\r` that no line ends after has a `\n` behind it
        rw [hreturn, breaksAfter_return_iff, List.head?_drop, not_not] at hgoesOn
        exact h ⟨n, rfl, hreturn ▸ hc, hgoesOn⟩

theorem clampedOffset_positionAt (ho : o ≤ d.charCount) : d.clampedOffset (d.positionAt o) = o := by
  obtain ⟨raw, hraw, hcolumn, hoffset⟩ := isAt_positionAt ho
  have hclamped := clampedOffset_of_rawLine? hraw (d.positionAt o).column
  rw [Nat.min_eq_left (by omega), hoffset] at hclamped
  exact hclamped

/-- An offset of a text converts to its place, further right or below for a later offset, and back.
Its place is a valid position unless the offset is inside of a `\r\n`, and no valid position stands
for such an offset. -/
theorem offset_round_trip (d : Document) :
    (∀ o ≤ d.charCount, d.clampedOffset (d.positionAt o) = o) ∧
    (∀ o o', o < o' → o' ≤ d.charCount → d.positionAt o < d.positionAt o') ∧
    (∀ o ≤ d.charCount, (d.SplitsBreak o → d.offset? (d.positionAt o) = none) ∧
      (¬ d.SplitsBreak o → d.offset? (d.positionAt o) = some o)) ∧
    ∀ o, (∃ p, d.offset? p = some o) ↔ o ≤ d.charCount ∧ ¬ d.SplitsBreak o := by
  refine ⟨fun o ho => clampedOffset_positionAt ho, fun o o' hlt ho' => ?_, fun o ho => ⟨?_, ?_⟩,
    fun o => ⟨?_, ?_⟩⟩
  · exact (isAt_positionAt (hlt.le.trans ho')).lt_of_lt (isAt_positionAt ho') hlt
  · intro hsplit
    cases hoffset : d.offset? (d.positionAt o) with
    | none => rfl
    | some o' =>
      obtain ⟨-, -, -, hsame⟩ := offset?_eq_some hoffset
      obtain ⟨-, -, -, hplace⟩ := isAt_positionAt ho
      rw [← hplace, ← hsame] at hsplit
      exact absurd hsplit (not_splitsBreak_of_offset? hoffset)
  · exact offset?_positionAt ho
  · rintro ⟨p, hp⟩
    exact ⟨offset?_le_charCount hp, not_splitsBreak_of_offset? hp⟩
  · rintro ⟨ho, hsplit⟩
    exact ⟨_, offset?_positionAt ho hsplit⟩

/-- Between the `\r` and the `\n` of the first line there is a place, but no valid position. -/
theorem offset_inside_return :
    let d : Document := ⟨['a', '\r', '\n', 'b']⟩
    2 ≤ d.charCount ∧ d.SplitsBreak 2 ∧ d.clampedOffset (d.positionAt 2) = 2 ∧
      d.positionAt 2 < d.positionAt 3 ∧ d.offset? (d.positionAt 2) = none ∧
      ∃ p, d.offset? p = some 3 := by
  intro d
  obtain ⟨hclamped, hordered, hback, himage⟩ := offset_round_trip d
  have hsplit : d.SplitsBreak 2 := ⟨1, rfl, rfl, rfl⟩
  have hle : 2 ≤ d.charCount := by decide
  have hnext : ¬ d.SplitsBreak 3 := by
    rintro ⟨n, hn, hreturn, -⟩
    cases hn
    cases hreturn
  exact ⟨hle, hsplit, hclamped 2 hle, hordered 2 3 (by decide) (by decide), (hback 2 hle).1 hsplit,
    (himage 3).2 ⟨by decide, hnext⟩⟩

end Document

end EditorPane
