import EditorPane.Proofs.Paint.Comments
import EditorPane.Proofs.Paint.Tokens
import EditorPane.Proofs.Syntax.Reading

/-!
# How words are coloured

With the word parser, every character of a token shows in the class of the token, unless it stands
in a comment; every other character shows plain, and the errors are marked at the open quotes. This
brings together three ways to count: the cursor of the parser, the lines of the document and the
ranges of the tags.

## Main definitions

* `wordPainter` — the painter.

## Main results

* `Token.OnLine.range?_tokenSpan` — a token is tagged over its characters.
* `Buffer.isTagged_repaint_words` — what is tagged.
* `words_show_their_classes` — what shows.
-/

namespace EditorPane

/-- Paints words, with comments from `#` on. -/
def wordPainter : Painter Unit := ⟨.ofFunction fun t => .ok (wordParse t), .line ['#']⟩

variable {t : Text} {tok : Token} {d : Document} {o : Nat}

/-! ## Spans -/

namespace Token.OnLine

variable (h : tok.OnLine t)

include h

/-- Each character of the token has its column on the line. -/
theorem offset? (hstart : tok.start ≤ o) (hstop : o ≤ tok.stop) :
    (⟨t⟩ : Document).offset? ⟨tok.line, tok.column + (o - tok.start)⟩ = some o := by
  obtain ⟨lineText, hline, hlength⟩ := h.line
  have hplace := h.start
  rw [Document.offset?_of_lineText? hline (by omega), Option.some.injEq]
  omega

theorem stop_lt : tok.stop < (⟨t⟩ : Document).lineStart (tok.line + 1) := by
  obtain ⟨lineText, hline, hlength⟩ := h.line
  have hplace := h.start
  have hend := Document.lineStart_add_length_le_lineStart hline
  omega

theorem liesIn : tok.LiesIn ⟨t⟩ where
  start := by
    have hstart := h.offset? le_rfl h.nonempty
    rwa [Nat.sub_self] at hstart
  nonempty := h.nonempty
  inside := Nat.lt_of_lt_of_le h.stop_lt (Document.lineStart_le_charCount _ _)

theorem range?_span (hshort : t.length ≤ maxColumn) :
    (⟨t⟩ : Document).range? tok.span = some (tok.start, tok.stop + 1) := by
  rw [h.liesIn.range?_span hshort, Nat.min_eq_left h.stop_lt]

/-- A token is tagged over its own characters. -/
theorem range?_tokenSpan (hshort : t.length ≤ maxColumn) :
    (⟨t⟩ : Document).range? (tokenSpan ⟨t⟩ tok) = some (tok.start, tok.stop + 1) := by
  rw [h.liesIn.range?_tokenSpan hshort, Token.paintedStop_of_stop_lt h.stop_lt]

end Token.OnLine

/-! ## Commands -/

/-- The command of a part. -/
def Lexeme.command? (d : Document) : Lexeme → Option DecorationCommand
  | .token c a t => Terminal.command? d c ⟨a, t⟩
  | .unterminated _ _ => none

theorem walk_filterMap_node? (d : Document) (parts : List Lexeme) :
    walk d (parts.filterMap Lexeme.node?) = parts.filterMap (Lexeme.command? d) := by
  induction parts with
  | nil => simp [walk]
  | cons part rest ih =>
    cases part with
    | token c a t =>
      simp only [List.filterMap_cons, Lexeme.node?, walk, List.nil_append, ih,
        ParseNode.ownCommands, ParseNode.terminals, ParseNode.construct, List.filterMap_nil,
        Lexeme.command?]
      split <;> rfl
    | unterminated line column => exact ih

theorem syntactic_paint_words (t : Text) : (wordPainter.paint t).1.syntactic
    = (lexemes .origin t).filterMap (Lexeme.command? ⟨t⟩) := by
  change walk ⟨t⟩ [.node .program [] ((lexemes .origin t).filterMap Lexeme.node?)] = _
  rw [walk, List.append_nil, walk_filterMap_node?]
  rfl

/-- Every token has a command of its own. -/
theorem mem_syntactic_paint_words (h : breaksAtNewlines t = true) (hshort : t.length ≤ maxColumn)
    {command : DecorationCommand} :
    command ∈ (wordPainter.paint t).1.syntactic ↔
      ∃ c a tok v, .token c a tok ∈ lexemes .origin t ∧ c.classFor? a = some v ∧
        command = ⟨v, tokenSpan ⟨t⟩ tok⟩ := by
  rw [syntactic_paint_words, List.mem_filterMap]
  constructor
  · rintro ⟨part, hpart, hcommand⟩
    cases part with
    | unterminated => cases hcommand
    | token c a tok =>
      simp only [Lexeme.command?, Terminal.command?] at hcommand
      split at hcommand
      · cases hcommand
      · obtain ⟨v, hv, rfl⟩ := Option.map_eq_some_iff.1 hcommand
        exact ⟨c, a, tok, v, hpart, hv, rfl⟩
  · rintro ⟨c, a, tok, v, hpart, hv, rfl⟩
    have hline := (placedIn_of_mem_lexemes h _ hpart).2
    have hnonempty := hline.nonempty
    have hend := hline.liesIn.start_add_length hshort
    have hlength : ¬ tok.isEmpty = true := by
      rw [Token.isEmpty, decide_eq_true_eq]
      omega
    refine ⟨_, hpart, ?_⟩
    rw [Lexeme.command?, Terminal.command?, if_neg hlength, hv]
    rfl

/-! ## Comments -/

theorem inComment_words_iff {line k : Nat} {lineText : Text}
    (h : d.lineText? line = some lineText) (hk : k < lineText.length) :
    d.InComment wordPainter.comments (d.lineStart line + k) ↔ '#' ∈ lineText.take (k + 1) := by
  rw [Document.inComment_iff_of_lineText? h hk, ← exists_isFirstOccurrence_singleton]
  have hcolumn (column : Nat) : wordPainter.comments.column? lineText = some column ↔
      IsFirstOccurrence ['#'] lineText column := by
    rw [CommentConfig.column?_eq_some_iff]
    simp [wordPainter, CommentConfig.line]
  grind

/-! ## What is tagged -/

namespace Buffer

variable {b : Buffer} {v : VisualClass} (hbreaks : breaksAtNewlines b.text = true)
  (hshort : b.text.length ≤ maxColumn)

include hbreaks hshort

theorem skipped_repaint_words :
    (b.repaint (wordPainter.paint b.text).1.commands).1.skipped = 0 := by
  rw [skipped_repaint_eq_zero_iff]
  intro command hcommand
  rcases List.mem_append.1 hcommand with hsyntactic | hcomment
  · obtain ⟨c, a, tok, v, hpart, -, rfl⟩ := (mem_syntactic_paint_words hbreaks hshort).1 hsyntactic
    have hline := (placedIn_of_mem_lexemes hbreaks _ hpart).2
    exact Option.isSome_of_mem (hline.range?_tokenSpan hshort)
  · rw [comments_paint] at hcomment
    obtain ⟨line, lineText, column, htext, hcolumn, rfl⟩ := mem_commentCommands.1 hcomment
    exact Option.isSome_of_mem (range?_comment htext hcolumn)

/-- Apart from comments, the tags of a painted text are those of its tokens. -/
theorem isTagged_repaint_words (hlayer : v.layer = .foreground) (hv : v ≠ .comment) :
    (b.repaint (wordPainter.paint b.text).1.commands).2.layers.IsTagged v o ↔
      ∃ c a tok, .token c a tok ∈ lexemes .origin b.text ∧ c.classFor? a = some v ∧
        tok.start ≤ o ∧ o ≤ tok.stop := by
  have haddresses {c : Construct} {a : Anchor} {tok : Token}
      (hpart : .token c a tok ∈ lexemes .origin b.text) :
      b.document.Addresses (tokenSpan b.document tok) o ↔ tok.start ≤ o ∧ o ≤ tok.stop := by
    have hrange : b.document.range? (tokenSpan b.document tok) = some (tok.start, tok.stop + 1) :=
      (placedIn_of_mem_lexemes hbreaks _ hpart).2.range?_tokenSpan hshort
    rw [Document.addresses_iff hrange, Nat.lt_succ_iff]
  rw [isTagged_repaint b _ hlayer]
  constructor
  · rintro ⟨command, hcommand, rfl, haddressed⟩
    rcases List.mem_append.1 hcommand with hsyntactic | hcomment
    · obtain ⟨c, a, tok, v, hpart, hclass, rfl⟩ :=
        (mem_syntactic_paint_words hbreaks hshort).1 hsyntactic
      exact ⟨c, a, tok, hpart, hclass, (haddresses hpart).1 haddressed⟩
    · rw [comments_paint] at hcomment
      obtain ⟨_, _, _, _, _, rfl⟩ := mem_commentCommands.1 hcomment
      exact absurd rfl hv
  · rintro ⟨c, a, tok, hpart, hclass, hbounds⟩
    refine ⟨⟨v, tokenSpan b.document tok⟩, List.mem_append_left _ ?_, rfl,
      (haddresses hpart).2 hbounds⟩
    exact (mem_syntactic_paint_words hbreaks hshort).2 ⟨c, a, tok, v, hpart, hclass, rfl⟩

/-- A character of a token has the class of the token, unless it is in a comment. -/
theorem dominantAt_repaint_words {c : Construct} {a : Anchor} {tok : Token}
    (hpart : .token c a tok ∈ lexemes .origin b.text) (hclass : c.classFor? a = some v)
    (hbounds : tok.start ≤ o ∧ o ≤ tok.stop)
    (hcomment : ¬ b.document.InComment wordPainter.comments o) :
    (b.repaint (wordPainter.paint b.text).1.commands).2.layers.dominantAt .foreground o
      = some v := by
  obtain ⟨hne, hnotError⟩ := Construct.classFor?_ne hclass
  have hlayer : v.layer = .foreground := by cases v <;> first | rfl | exact absurd rfl hnotError
  refine Layers.dominantAt_eq_some_of_forall (wellFormedIn_repaint b _) hlayer ?_ ?_
  · rw [isTagged_repaint_words hbreaks hshort hlayer hne]
    exact ⟨c, a, tok, hpart, hclass, hbounds⟩
  · intro w hw htag
    by_cases hwc : w = .comment
    · subst hwc
      exact absurd ((b.isTagged_comment_repaint wordPainter).1 htag) hcomment
    · obtain ⟨c', a', tok', hpart', hclass', hbounds'⟩ :=
        (isTagged_repaint_words hbreaks hshort hw hwc).1 htag
      cases eq_of_mem_lexemes hpart hpart' rfl rfl hbounds hbounds'
      exact Option.some.inj (hclass'.symm.trans hclass)

theorem dominantAt_repaint_words_eq_none
    (hplain : ∀ tok ∈ (wordParse b.text).tokens, ¬ (tok.start ≤ o ∧ o ≤ tok.stop))
    (hcomment : ¬ b.document.InComment wordPainter.comments o) :
    (b.repaint (wordPainter.paint b.text).1.commands).2.layers.dominantAt .foreground o = none := by
  rw [Layers.dominantAt_eq_none_iff (wellFormedIn_repaint b _)]
  intro v hv htag
  by_cases hvc : v = .comment
  · subst hvc
    exact hcomment ((b.isTagged_comment_repaint wordPainter).1 htag)
  · obtain ⟨c, a, tok, hpart, -, hbounds⟩ :=
      (isTagged_repaint_words hbreaks hshort hv hvc).1 htag
    exact hplain tok (List.mem_filterMap.2 ⟨_, hpart, rfl⟩) hbounds

/-- The errors of the word parser mark the open quotes. -/
theorem isTagged_tagErrors_words {b' : Buffer} (hdocument : b'.document = b.document) :
    (ErrorSurface.tagErrors b' (wordPainter.paint b.text).1.errors).2.layers.IsTagged .error o ↔
      IsOpenQuote b.text o := by
  rw [isTagged_tagErrors, hdocument, ← exists_unterminated_iff hbreaks]
  have hmark {line column : Nat} (hpart : .unterminated line column ∈ lexemes .origin b.text)
      (message : String) : b.document.Addresses (⟨line, column, message⟩ : SyntaxError).anchor o ↔
        b.document.lineStart line + column = o := by
    obtain ⟨offset, hline⟩ := placedIn_of_mem_lexemes hbreaks _ hpart
    have hspan : (⟨line, column, message⟩ : SyntaxError).anchor
        = (⟨line, column, offset, offset⟩ : Token).span := by
      have hlength : (⟨line, column, offset, offset⟩ : Token).length = 1 := by
        have hend := hline.liesIn.start_add_length hshort
        exact Nat.add_left_cancel hend
      rw [Token.span, hlength]
      rfl
    have hstart : b.document.lineStart line + column = offset := hline.start
    have hrange : b.document.range? (⟨line, column, offset, offset⟩ : Token).span
        = some (offset, offset + 1) := hline.range?_span hshort
    rw [hspan, Document.addresses_iff hrange]
    omega
  constructor
  · rintro ⟨e, he, haddressed⟩
    obtain ⟨part, hpart, herror⟩ := List.mem_filterMap.1 he
    cases part with
    | token => cases herror
    | unterminated line column =>
      cases herror
      exact ⟨line, column, hpart, (hmark hpart _).1 haddressed⟩
  · rintro ⟨line, column, hpart, hoffset⟩
    exact ⟨_, List.mem_filterMap.2 ⟨_, hpart, rfl⟩, (hmark hpart _).2 hoffset⟩

/-! ## What shows -/

theorem foregroundAt_repaint_words {c : Construct} {a : Anchor} {tok : Token}
    (hpart : .token c a tok ∈ lexemes .origin b.text) (hclass : c.classFor? a = some v)
    (hstart : tok.start ≤ o) (hstop : o ≤ tok.stop) {lineText : Text}
    (hline : b.document.lineText? tok.line = some lineText)
    (hcolumn : tok.column + (o - tok.start) < lineText.length) :
    (b.repaint (wordPainter.paint b.text).1.commands).2.foregroundAt
        ⟨tok.line, tok.column + (o - tok.start)⟩
      = some (if '#' ∈ lineText.take (tok.column + (o - tok.start) + 1) then .comment else v) := by
  have honLine := (placedIn_of_mem_lexemes hbreaks _ hpart).2
  have hoffset : b.document.offset? ⟨tok.line, tok.column + (o - tok.start)⟩ = some o :=
    honLine.offset? hstart hstop
  have hplace : b.document.lineStart tok.line + (tok.column + (o - tok.start)) = o := by
    have : b.document.lineStart tok.line + tok.column = tok.start := honLine.start
    omega
  have hcomment := inComment_words_iff hline hcolumn
  rw [hplace] at hcomment
  rw [foregroundAt_repaint, hoffset, Option.bind_some]
  split
  · next hmarker =>
    rw [Layers.dominantAt_eq_comment_iff (wellFormedIn_repaint b _), isTagged_comment_repaint]
    exact hcomment.2 hmarker
  · next hmarker =>
    exact dominantAt_repaint_words hbreaks hshort hpart hclass ⟨hstart, hstop⟩
      (mt hcomment.1 hmarker)

theorem foregroundAt_repaint_words_eq_none {p : Position}
    (hplain : ∀ o, b.document.offset? p = some o →
      ∀ tok ∈ (wordParse b.text).tokens, ¬ (tok.start ≤ o ∧ o ≤ tok.stop))
    (hmarker : ∀ lineText, b.document.lineText? p.line = some lineText →
      p.column < lineText.length → '#' ∉ lineText.take (p.column + 1)) :
    (b.repaint (wordPainter.paint b.text).1.commands).2.foregroundAt p = none := by
  rw [foregroundAt_repaint]
  cases hoffset : b.document.offset? p with
  | none => rfl
  | some o =>
    refine dominantAt_repaint_words_eq_none hbreaks hshort (hplain o hoffset) fun hcomment => ?_
    obtain ⟨line, lineText, column, htext, -, hstart, hstop⟩ := id hcomment
    -- the offset has one place only, so it is in the comment of the line of `p`
    obtain ⟨k, rfl⟩ := Nat.exists_eq_add_of_le ((Nat.le_add_right _ column).trans hstart)
    have hk : k < lineText.length := by omega
    have hplace : p = ⟨line, k⟩ := (Document.isAt_of_offset? hbreaks hoffset).eq_of_eq
      (Document.isAt_of_lineText? htext hk)
    subst hplace
    exact hmarker lineText htext hk ((inComment_words_iff htext hk).1 hcomment)

theorem backgroundAt_tagErrors_words {b' : Buffer} (hdocument : b'.document = b.document)
    (p : Position) :
    (ErrorSurface.tagErrors b' (wordPainter.paint b.text).1.errors).2.backgroundAt p = some .error ↔
      ∃ o, b.document.offset? p = some o ∧ IsOpenQuote b.text o := by
  simp only [backgroundAt_tagErrors, hdocument, Option.bind_eq_some_iff,
    Layers.dominantAt_eq_error_iff (wellFormedIn_tagErrors b' _),
    isTagged_tagErrors_words hbreaks hshort hdocument]

end Buffer

/-- Let the lines of a text end in `\n` or `\r\n`, and let the text be no longer than columns can
count, as all text in memory is. A buffer that holds it is painted by its words. Then no command is
refused. The tokens have characters and follow each other without sharing any. Each of their
characters has its column on the line of the token and shows in the class that the table has for it,
or as a comment if the line has a `#` up to there. Everything else shows plain unless it is in a
comment, and once the errors are shown too, they mark the quotes of strings that do not end on their
line. -/
theorem words_show_their_classes (b : Buffer) (decorator : Decorator) (surface : ErrorSurface)
    (hbreaks : breaksAtNewlines b.text = true) (hshort : b.text.length ≤ maxColumn) :
    let painted := (wordPainter.paint b.text).1
    let applied := decorator.apply b painted.commands
    let shown := applied.2.1
    let tokens := (wordParse b.text).tokens
    applied.1.skipped = 0 ∧
    ((∀ tok ∈ tokens, tok.start ≤ tok.stop) ∧ tokens.Pairwise fun u v => u.stop < v.start) ∧
    (∀ c a tok, .token c a tok ∈ lexemes .origin b.text → ∃ v lineText,
      c.classFor? a = some v ∧ b.document.lineText? tok.line = some lineText ∧
      ∀ o, tok.start ≤ o → o ≤ tok.stop →
        let column := tok.column + (o - tok.start)
        b.document.offset? ⟨tok.line, column⟩ = some o ∧ column < lineText.length ∧
          shown.foregroundAt ⟨tok.line, column⟩
            = some (if '#' ∈ lineText.take (column + 1) then .comment else v)) ∧
    (∀ p, (∀ o, b.document.offset? p = some o →
        ∀ tok ∈ tokens, ¬ (tok.start ≤ o ∧ o ≤ tok.stop)) →
      (∀ lineText, b.document.lineText? p.line = some lineText → p.column < lineText.length →
        '#' ∉ lineText.take (p.column + 1)) → shown.foregroundAt p = none) ∧
    ∀ p, (surface.sync shown painted.errors).2.1.backgroundAt p = some .error ↔
      ∃ o, b.document.offset? p = some o ∧ IsOpenQuote b.text o := by
  intro painted applied shown tokens
  refine ⟨Buffer.skipped_repaint_words hbreaks hshort, tokens_ordered b.text, ?_, ?_, ?_⟩
  · intro c a tok hpart
    obtain ⟨⟨v, hclass⟩, honLine⟩ := placedIn_of_mem_lexemes hbreaks _ hpart
    obtain ⟨lineText, hline, hlength⟩ := honLine.line
    refine ⟨v, lineText, hclass, hline, fun o hstart hstop => ?_⟩
    have hcolumn : tok.column + (o - tok.start) < lineText.length := by
      omega
    exact ⟨honLine.offset? hstart hstop, hcolumn,
      Buffer.foregroundAt_repaint_words hbreaks hshort hpart hclass hstart hstop hline hcolumn⟩
  · intro p hplain hmarker
    exact Buffer.foregroundAt_repaint_words_eq_none hbreaks hshort hplain hmarker
  · intro p
    have hdocument : shown.document = b.document := (Buffer.SameView.repaint b _).document
    exact Buffer.backgroundAt_tagErrors_words hbreaks hshort hdocument p

/-- The marker in the string hides the rest of it and the number behind it, the line break ends the
comment, and the quote of line two is open. -/
theorem words_show_beside_comment :
    let b := Buffer.ofText ['i', 'f', ' ', '"', '#', '"', '7', '\r', '\n', '"', 'y'] 2
    let painted := (wordPainter.paint b.text).1
    let shown := ((default : Decorator).apply b painted.commands).2.1
    let marked := ((ErrorSurface.empty default).sync shown painted.errors).2.1
    breaksAtNewlines b.text = true ∧ b.text.length ≤ maxColumn ∧
      shown.foregroundAt ⟨1, 1⟩ = some .keyword ∧ shown.foregroundAt ⟨1, 3⟩ = some .string ∧
      shown.foregroundAt ⟨1, 6⟩ = some .comment ∧ shown.foregroundAt ⟨2, 0⟩ = none ∧
      marked.backgroundAt ⟨2, 0⟩ = some .error ∧ marked.backgroundAt ⟨1, 3⟩ ≠ some .error := by
  intro b painted shown marked
  have hbreaks : breaksAtNewlines b.text = true := by decide
  have hshort : b.text.length ≤ maxColumn := by decide
  have hparts : lexemes .origin b.text = [.token .statSkip .keyword ⟨1, 0, 0, 1⟩,
      .token .literalString .literal ⟨1, 3, 3, 5⟩, .token .literalInteger .literal ⟨1, 6, 6, 6⟩,
      .unterminated 2 0] := by decide +kernel
  have hfirst : b.document.lineText? 1 = some ['i', 'f', ' ', '"', '#', '"', '7'] := by
    decide +kernel
  have hsecond : b.document.lineText? 2 = some ['"', 'y'] := by decide +kernel
  have hquote : b.document.offset? ⟨2, 0⟩ = some 9 := by decide +kernel
  have hclosed : b.document.offset? ⟨1, 3⟩ = some 3 := by decide +kernel
  obtain ⟨-, -, htokens, hplain, hmarked⟩ :=
    words_show_their_classes b default (.empty default) hbreaks hshort
  obtain ⟨v, lineText, hv, htext, hkeyword⟩ :=
    htokens .statSkip .keyword ⟨1, 0, 0, 1⟩ (by rw [hparts]; decide)
  obtain ⟨w, lineText', hw, htext', hstring⟩ :=
    htokens .literalString .literal ⟨1, 3, 3, 5⟩ (by rw [hparts]; decide)
  obtain ⟨x, lineText'', hx, htext'', hnumber⟩ :=
    htokens .literalInteger .literal ⟨1, 6, 6, 6⟩ (by rw [hparts]; decide)
  cases hv
  cases hw
  cases hx
  cases htext.symm.trans hfirst
  cases htext'.symm.trans hfirst
  cases htext''.symm.trans hfirst
  refine ⟨hbreaks, hshort, ?_, ?_, ?_, ?_, ?_, ?_⟩
  · exact (hkeyword 1 (by decide) (by decide)).2.2.trans (by decide)
  · exact (hstring 3 (by decide) (by decide)).2.2.trans (by decide)
  · exact (hnumber 6 (by decide) (by decide)).2.2.trans (by decide)
  · refine hplain ⟨2, 0⟩ (fun o ho => ?_) fun lineText htext _ => ?_
    · cases ho.symm.trans hquote
      rw [wordParse, hparts]
      decide
    · cases htext.symm.trans hsecond
      decide
  · exact (hmarked ⟨2, 0⟩).2 ⟨9, hquote, by decide⟩
  · intro herror
    obtain ⟨o, ho, hopen⟩ := (hmarked ⟨1, 3⟩).1 herror
    cases ho.symm.trans hclosed
    exact absurd hopen (by decide)

end EditorPane
