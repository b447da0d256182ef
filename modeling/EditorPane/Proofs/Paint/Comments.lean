import EditorPane.Paint
import EditorPane.Proofs.Buffer.Batch
import EditorPane.Proofs.Text.Positions

/-!
# Comments show from their marker on

A painted line shows as a comment from the first occurrence of the comment marker to its end, and
nowhere else. The parser has no say in it: the table of constructs has no rule for comments, and
what the parser colours yields to them.

## Main definitions

* `IsFirstOccurrence` — where a word first occurs.
* `Document.InComment` — the offsets in comments.

## Main results

* `Buffer.isTagged_comment_repaint` — a painted text has the tags of its comments and no others.
* `comment_shows_from_marker` — what shows as a comment.
-/

namespace EditorPane

/-! ## Markers -/

/-- The word occurs behind the first `n` characters, and not earlier. -/
def IsFirstOccurrence (word t : Text) (n : Nat) : Prop :=
  word <+: t.drop n ∧ ∀ i < n, ¬ word <+: t.drop i

instance (word t : Text) (n : Nat) : Decidable (IsFirstOccurrence word t n) :=
  inferInstanceAs (Decidable (_ ∧ _))

theorem isFirstOccurrence_zero {word t : Text} : IsFirstOccurrence word t 0 ↔ word <+: t := by
  simp [IsFirstOccurrence]

theorem isFirstOccurrence_succ {word rest : Text} {c : Char} {n : Nat} :
    IsFirstOccurrence word (c :: rest) (n + 1) ↔
      ¬ word <+: c :: rest ∧ IsFirstOccurrence word rest n := by
  simp only [IsFirstOccurrence, List.drop_succ_cons]
  constructor
  · rintro ⟨hword, hearlier⟩
    exact ⟨hearlier 0 n.succ_pos, hword, fun i hi => hearlier (i + 1) (Nat.succ_lt_succ hi)⟩
  · rintro ⟨hfirst, hword, hearlier⟩
    refine ⟨hword, fun i hi => ?_⟩
    cases i with
    | zero => exact hfirst
    | succ i => exact hearlier i (Nat.lt_of_succ_lt_succ hi)

theorem firstOccurrence_eq_some_iff {word t : Text} (hword : word ≠ []) {n : Nat} :
    firstOccurrence word t = some n ↔ IsFirstOccurrence word t n := by
  induction t generalizing n with
  | nil => simp [firstOccurrence, IsFirstOccurrence, hword]
  | cons c rest ih =>
    rw [firstOccurrence]
    by_cases hprefix : word <+: c :: rest
    · rw [if_pos (List.isPrefixOf_iff_prefix.2 hprefix)]
      cases n with
      | zero => simp [isFirstOccurrence_zero, hprefix]
      | succ n => simp [isFirstOccurrence_succ, hprefix]
    · rw [if_neg (fun h => hprefix (List.isPrefixOf_iff_prefix.1 h))]
      cases n with
      | zero => simp [isFirstOccurrence_zero, hprefix]
      | succ n => simp [isFirstOccurrence_succ, hprefix, ih]

/-- A single character has occurred by column `k` if it is among the characters up to there. -/
theorem exists_isFirstOccurrence_singleton {c : Char} {lineText : Text} {k : Nat} :
    (∃ n ≤ k, IsFirstOccurrence [c] lineText n) ↔ c ∈ lineText.take (k + 1) := by
  induction lineText generalizing k with
  | nil => simp [IsFirstOccurrence]
  | cons x rest ih =>
    by_cases hx : c = x
    · subst hx
      simp only [List.take_succ_cons, List.mem_cons, true_or, iff_true]
      exact ⟨0, Nat.zero_le k, isFirstOccurrence_zero.2 (by simp)⟩
    · have hfirst : ¬ [c] <+: x :: rest := by simpa using hx
      rw [List.take_succ_cons, List.mem_cons, or_iff_right hx]
      cases k with
      | zero =>
        simp only [Nat.le_zero_eq, exists_eq_left, isFirstOccurrence_zero, hfirst, List.take_zero,
          List.not_mem_nil]
      | succ k =>
        rw [← ih]
        constructor
        · rintro ⟨n, hn, hoccurs⟩
          cases n with
          | zero => exact absurd (isFirstOccurrence_zero.1 hoccurs) hfirst
          | succ n => exact ⟨n, Nat.le_of_succ_le_succ hn, (isFirstOccurrence_succ.1 hoccurs).2⟩
        · rintro ⟨n, hn, hoccurs⟩
          exact ⟨n + 1, Nat.succ_le_succ hn, isFirstOccurrence_succ.2 ⟨hfirst, hoccurs⟩⟩

theorem IsFirstOccurrence.lt_length {word t : Text} {n : Nat} (h : IsFirstOccurrence word t n)
    (hword : word ≠ []) : n < t.length := by
  have hle := h.1.length_le
  have hpos := List.length_pos_iff.2 hword
  rw [List.length_drop] at hle
  omega

theorem CommentConfig.column?_eq_some_iff {comments : CommentConfig} {lineText : Text}
    {column : Nat} : comments.column? lineText = some column ↔
      ∃ marker, comments.marker = some marker ∧ marker ≠ [] ∧
        IsFirstOccurrence marker lineText column := by
  simp only [column?, usable?, Option.bind_eq_some_iff, Option.filter_eq_some_iff]
  constructor
  · rintro ⟨marker, ⟨hmarker, hne⟩, hfirst⟩
    have hne : marker ≠ [] := by simpa using hne
    exact ⟨marker, hmarker, hne, (firstOccurrence_eq_some_iff hne).1 hfirst⟩
  · rintro ⟨marker, hmarker, hne, hfirst⟩
    exact ⟨marker, ⟨hmarker, by simpa using hne⟩, (firstOccurrence_eq_some_iff hne).2 hfirst⟩

/-! ## Commands -/

variable {comments : CommentConfig} {d : Document} {offset : Nat}

theorem mem_commentCommands {command : DecorationCommand} :
    command ∈ commentCommands comments d ↔ ∃ line lineText column,
      d.lineText? line = some lineText ∧ comments.column? lineText = some column ∧
        command = ⟨.comment, Span.between ⟨line, column⟩ ⟨line, lineText.length⟩⟩ := by
  constructor
  · intro h
    unfold commentCommands at h
    split at h
    · obtain ⟨line, -, hcommand⟩ := List.mem_filterMap.1 h
      unfold commentCommand? at hcommand
      split at hcommand
      · cases hcommand
      · next lineText htext =>
        obtain ⟨column, hcolumn, rfl⟩ := Option.map_eq_some_iff.1 hcommand
        exact ⟨line, lineText, column, htext, hcolumn, rfl⟩
    · cases h
  · rintro ⟨line, lineText, column, htext, hcolumn, rfl⟩
    have hline : comments.hasLine = true := by
      obtain ⟨marker, hmarker, -⟩ := Option.bind_eq_some_iff.1 hcolumn
      rw [CommentConfig.hasLine, hmarker]
      rfl
    obtain ⟨raw, hraw, -⟩ := Option.map_eq_some_iff.1 htext
    have hpos := Document.line_pos_of_rawLine? hraw
    have hle := Document.line_le_of_rawLine? hraw
    rw [commentCommands, if_pos hline, List.mem_filterMap]
    refine ⟨line, List.mem_range'_1.2 ⟨hpos, by omega⟩, ?_⟩
    rw [commentCommand?, htext]
    simp only [hcolumn, Option.map_some]

/-- What a node colours is coloured by the table. -/
theorem classFor?_of_mem_ownCommands {n : ParseNode} {command : DecorationCommand}
    (h : command ∈ n.ownCommands d) :
    ∃ a, n.construct.classFor? a = some command.visualClass := by
  obtain ⟨terminal, -, hcommand⟩ := List.mem_filterMap.1 h
  unfold Terminal.command? at hcommand
  split at hcommand
  · cases hcommand
  · obtain ⟨v, hv, rfl⟩ := Option.map_eq_some_iff.1 hcommand
    exact ⟨terminal.anchor, hv⟩

/-- No tree colours anything as a comment or an error. -/
theorem visualClass_ne_of_mem_walk {stack : List ParseNode} {command : DecorationCommand}
    (h : command ∈ walk d stack) :
    command.visualClass ≠ .comment ∧ command.visualClass ≠ .error := by
  induction stack using walk.induct with
  | case1 => simp [walk] at h
  | case2 c terminals children rest ih =>
    rw [walk, List.mem_append] at h
    rcases h with hown | hrest
    · obtain ⟨a, ha⟩ := classFor?_of_mem_ownCommands hown
      exact Construct.classFor?_ne ha
    · exact ih hrest

theorem comments_ofParse (result : ParseResult) :
    (PaintResult.ofParse comments d result).comments = commentCommands comments d := by
  unfold PaintResult.ofParse
  split <;> rfl

theorem comments_paint {σ : Type} (p : Painter σ) (t : Text) :
    (p.paint t).1.comments = commentCommands p.comments ⟨t⟩ := comments_ofParse _

theorem visualClass_ne_of_mem_syntactic {result : ParseResult} {command : DecorationCommand}
    (h : command ∈ (PaintResult.ofParse comments d result).syntactic) :
    command.visualClass ≠ .comment ∧ command.visualClass ≠ .error := by
  unfold PaintResult.ofParse at h
  split at h
  · exact visualClass_ne_of_mem_walk h
  · cases h
  · cases h

/-! ## Comments of a text -/

/-- The offset lies in the comment of some line. -/
def Document.InComment (comments : CommentConfig) (d : Document) (offset : Nat) : Prop :=
  ∃ line lineText column, d.lineText? line = some lineText ∧
    comments.column? lineText = some column ∧ d.lineStart line + column ≤ offset ∧
    offset < d.lineStart line + lineText.length

/-- On a given line, the comment is what stands from the marker on. -/
theorem Document.inComment_iff_of_lineText? {line k : Nat} {lineText : Text}
    (h : d.lineText? line = some lineText) (hk : k < lineText.length) :
    d.InComment comments (d.lineStart line + k) ↔
      ∃ column, comments.column? lineText = some column ∧ column ≤ k := by
  constructor
  · rintro ⟨line', lineText', column, htext, hcolumn, hstart, hstop⟩
    -- the offset has one place only, so the comment is on this line
    have hplace : d.IsAt ⟨line', d.lineStart line + k - d.lineStart line'⟩
        (d.lineStart line + k) := by
      have := isAt_of_lineText? htext
        (show d.lineStart line + k - d.lineStart line' < lineText'.length by omega)
      rwa [Nat.add_sub_cancel' (by omega)] at this
    obtain ⟨rfl, -⟩ := Position.mk.inj (hplace.eq_of_eq (isAt_of_lineText? h hk))
    cases htext.symm.trans h
    exact ⟨column, hcolumn, by omega⟩
  · rintro ⟨column, hcolumn, hle⟩
    exact ⟨line, lineText, column, h, hcolumn, by omega, by omega⟩

theorem range?_comment {line column : Nat} {lineText : Text}
    (htext : d.lineText? line = some lineText) (hcolumn : comments.column? lineText = some column) :
    d.range? (Span.between ⟨line, column⟩ ⟨line, lineText.length⟩)
      = some (d.lineStart line + column, d.lineStart line + lineText.length) := by
  obtain ⟨marker, -, hne, hfirst⟩ := CommentConfig.column?_eq_some_iff.1 hcolumn
  exact Document.range?_of_lineText? htext (hfirst.lt_length hne).le le_rfl

theorem exists_addresses_commentCommands :
    (∃ command ∈ commentCommands comments d, d.Addresses command.span offset) ↔
      d.InComment comments offset := by
  constructor
  · rintro ⟨command, hcommand, haddresses⟩
    obtain ⟨line, lineText, column, htext, hcolumn, rfl⟩ := mem_commentCommands.1 hcommand
    rw [Document.addresses_iff (range?_comment htext hcolumn)] at haddresses
    exact ⟨line, lineText, column, htext, hcolumn, haddresses⟩
  · rintro ⟨line, lineText, column, htext, hcolumn, hbounds⟩
    refine ⟨_, mem_commentCommands.2 ⟨line, lineText, column, htext, hcolumn, rfl⟩, ?_⟩
    exact (Document.addresses_iff (range?_comment htext hcolumn)).2 hbounds

/-- A painted text has the tags of its comments and no others of their class. -/
theorem Buffer.isTagged_comment_repaint {σ : Type} (b : Buffer) (p : Painter σ) :
    (b.repaint (p.paint b.text).1.commands).2.layers.IsTagged .comment offset ↔
      b.document.InComment p.comments offset := by
  rw [isTagged_repaint b _ rfl, ← exists_addresses_commentCommands]
  have hcomments : (p.paint b.text).1.comments = commentCommands p.comments b.document :=
    comments_paint p b.text
  constructor
  · rintro ⟨command, hcommand, hclass, haddresses⟩
    rcases List.mem_append.1 hcommand with hsyntactic | hcomment
    · exact absurd hclass (visualClass_ne_of_mem_syntactic hsyntactic).1
    · exact ⟨command, hcomments ▸ hcomment, haddresses⟩
  · rintro ⟨command, hcommand, haddresses⟩
    obtain ⟨_, _, _, _, _, rfl⟩ := mem_commentCommands.1 hcommand
    exact ⟨_, List.mem_append_right _ (hcomments ▸ hcommand), rfl, haddresses⟩

/-- What shows as a comment once a buffer is painted. -/
theorem Buffer.foregroundAt_repaint_eq_comment_iff {σ : Type} (b : Buffer) (p : Painter σ)
    (pos : Position) :
    (b.repaint (p.paint b.text).1.commands).2.foregroundAt pos = some .comment ↔
      ∃ offset, b.document.offset? pos = some offset ∧ b.document.InComment p.comments offset := by
  simp only [foregroundAt_repaint, Option.bind_eq_some_iff,
    Layers.dominantAt_eq_comment_iff (wellFormedIn_repaint b _), isTagged_comment_repaint]

/-- Whatever a buffer is tagged with and whatever the parser makes of its text, once the text is
painted a character of a line shows as a comment if and only if the marker of comments occurs in the
line and its first occurrence starts at or before the character. With another parser the same
positions show comments, and without a marker none do. -/
theorem comment_shows_from_marker {σ τ : Type} (p : Painter σ) (q : Painter τ) (b b' : Buffer)
    (decorator decorator' : Decorator) :
    let shown := (decorator.apply b (p.paint b.text).1.commands).2.1
    let shown' := (decorator'.apply b' (q.paint b'.text).1.commands).2.1
    (∀ line n k, b.document.lineLength? line = some n → k < n →
      ∃ lineText, b.document.lineText? line = some lineText ∧ lineText.length = n ∧
        (shown.foregroundAt ⟨line, k⟩ = some .comment ↔
          ∃ marker column, p.comments.marker = some marker ∧ marker ≠ [] ∧
            IsFirstOccurrence marker lineText column ∧ column ≤ k)) ∧
    (q.comments = p.comments → b'.text = b.text → ∀ pos,
      shown'.foregroundAt pos = some .comment ↔ shown.foregroundAt pos = some .comment) ∧
    (p.comments.marker = none ∨ p.comments.marker = some [] → ∀ pos,
      shown.foregroundAt pos ≠ some .comment) := by
  intro shown shown'
  have hshown (pos : Position) := b.foregroundAt_repaint_eq_comment_iff p pos
  have hshown' (pos : Position) := b'.foregroundAt_repaint_eq_comment_iff q pos
  refine ⟨fun line n k hline hk => ?_, fun hcomments htext pos => ?_, fun hmarker pos hpos => ?_⟩
  · obtain ⟨lineText, htext, rfl⟩ := Document.exists_lineText?_of_lineLength? hline
    refine ⟨lineText, htext, rfl, (hshown ⟨line, k⟩).trans ?_⟩
    simp only [Document.offset?_of_lineText? htext hk.le, Option.some.injEq, exists_eq_left',
      Document.inComment_iff_of_lineText? htext hk, CommentConfig.column?_eq_some_iff]
    constructor
    · rintro ⟨column, ⟨marker, hmarker, hne, hfirst⟩, hle⟩
      exact ⟨marker, column, hmarker, hne, hfirst, hle⟩
    · rintro ⟨marker, column, hmarker, hne, hfirst, hle⟩
      exact ⟨column, ⟨marker, hmarker, hne, hfirst⟩, hle⟩
  · have hdocument : b'.document = b.document := congrArg Document.mk htext
    rw [show shown'.foregroundAt pos = some .comment ↔ _ from hshown' pos,
      show shown.foregroundAt pos = some .comment ↔ _ from hshown pos, hdocument, hcomments]
  · obtain ⟨offset, -, line, lineText, column, -, hcolumn, -⟩ := (hshown pos).1 hpos
    obtain ⟨marker, hsome, hne, -⟩ := CommentConfig.column?_eq_some_iff.1 hcolumn
    rcases hmarker with hnone | hempty
    · cases hnone.symm.trans hsome
    · cases hempty.symm.trans hsome
      exact hne rfl

/-- A parser that takes a whole text for a string, and one that gives up. Both leave the comment of
line one, whose first slash is no marker, as it is; without a marker there is none. -/
theorem comment_shows_behind_slash :
    let p : Painter Unit := ⟨.ofFunction fun _ =>
      .ok ⟨some (.node .literalString [⟨.literal, ⟨1, 0, 0, 99⟩⟩] []), [], []⟩, .line ['/', '/']⟩
    let q : Painter Unit := ⟨.ofFunction fun _ => .error ⟨"no viable input", []⟩, .line ['/', '/']⟩
    let plain : Painter Unit := ⟨q.parser, ⟨none⟩⟩
    let b := Buffer.ofText ['/', ' ', '/', '/', '/', '\r', '\n', 'a'] 2
    let tagged := (b.tagAll [⟨.comment, .between ⟨1, 0⟩ ⟨2, 1⟩⟩]).2
    let shown (r : Painter Unit) := (b.repaint (r.paint b.text).1.commands).2
    (shown p).foregroundAt ⟨1, 4⟩ = some .comment ∧
      (shown p).foregroundAt ⟨1, 1⟩ ≠ some .comment ∧
      ((default : Decorator).apply tagged (q.paint tagged.text).1.commands).2.1.foregroundAt ⟨1, 4⟩
        = some .comment ∧
      (shown plain).foregroundAt ⟨1, 4⟩ ≠ some .comment := by
  intro p q plain b tagged shown
  have hall := comment_shows_from_marker p q b tagged default default
  have hnone := (comment_shows_from_marker plain q b b default default).2.2 (.inl rfl)
  obtain ⟨lineText, htext, -, hbehind⟩ := hall.1 1 5 4 (by decide +kernel) (by decide)
  obtain ⟨lineText', htext', -, hbefore⟩ := hall.1 1 5 1 (by decide +kernel) (by decide)
  have hline : b.document.lineText? 1 = some ['/', ' ', '/', '/', '/'] := by decide +kernel
  cases htext.symm.trans hline
  cases htext'.symm.trans hline
  have hfirst : IsFirstOccurrence ['/', '/'] ['/', ' ', '/', '/', '/'] 2 := by decide
  have hcomment : (shown p).foregroundAt ⟨1, 4⟩ = some .comment :=
    hbehind.2 ⟨['/', '/'], 2, rfl, by decide, hfirst, by decide⟩
  refine ⟨hcomment, fun h => ?_, ?_, hnone ⟨1, 4⟩⟩
  · obtain ⟨marker, column, hmarker, -, hcolumn, hle⟩ := hbefore.1 h
    cases hmarker
    obtain rfl | rfl : column = 0 ∨ column = 1 := by omega
    · exact absurd hcolumn (by decide)
    · exact absurd hcolumn (by decide)
  · exact (hall.2.1 rfl (by decide +kernel) ⟨1, 4⟩).2 hcomment

end EditorPane
