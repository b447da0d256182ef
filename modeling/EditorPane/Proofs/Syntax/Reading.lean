import EditorPane.Paint
import EditorPane.Proofs.Syntax.Quotes
import EditorPane.Proofs.Text.Newlines
import Mathlib.Data.List.TakeWhile

/-!
# How words are read

Reading a text moves a cursor over it, word by word. The cursor counts lines, columns and offsets on
its own; where lines end in newlines, it always stands where the text has the next character. So
every token lies on one line, at the offsets it says, and the errors are the open quotes.

## Main definitions

* `Reading` — what reading gives, by what one step of it can do.
* `Stands` — a cursor stands in a text where it says.
* `Token.OnLine` — a token lies on one line of a text, where it says.

## Main results

* `reading` — the word parser reads like that.
* `tokens_ordered`, `placedIn_of_mem_lexemes` — where the parts are.
* `exists_unterminated_iff` — the errors are the open quotes.
-/

namespace EditorPane

/-! ## Reading -/

/-- Reading the text from the cursor on gives the parts. -/
inductive Reading : Cursor → Text → List Lexeme → Prop where
  | nil {cur : Cursor} : Reading cur [] []
  | newline {cur : Cursor} {rest : Text} {parts : List Lexeme}
      (tail : Reading cur.nextLine rest parts) : Reading cur ('\n' :: rest) parts
  | skip {cur : Cursor} {w rest : Text} {parts : List Lexeme} (newlineFree : '\n' ∉ w)
      (passed : Passed w rest) (tail : Reading (cur.advance w.length) rest parts) :
      Reading cur (w ++ rest) parts
  | token {cur : Cursor} {w rest : Text} {parts : List Lexeme} {c : Construct} {a : Anchor}
      {v : VisualClass} (newlineFree : '\n' ∉ w) (passed : Passed w rest) (shown : EndsShown w)
      (coloured : c.classFor? a = some v) (tail : Reading (cur.advance w.length) rest parts) :
      Reading cur (w ++ rest) (.token c a (cur.token w.length) :: parts)
  | unterminated {cur : Cursor} {body rest : Text} {parts : List Lexeme}
      (inside : ∀ c ∈ body, isStringChar c = true) (atEnd : AtLineEnd rest)
      (tail : Reading (cur.advance (body.length + 1)) rest parts) :
      Reading cur ('"' :: body ++ rest) (.unterminated cur.line cur.column :: parts)

/-- The character is neither a quote, nor a comment marker, nor part of a line break. -/
def isPlain (c : Char) : Bool := c != '"' && c != '#' && c != '\n' && c != '\r'

theorem isPlain_iff {c : Char} :
    isPlain c = true ↔ c ≠ '"' ∧ c ≠ '#' ∧ c ≠ '\n' ∧ c ≠ '\r' := by
  simp [isPlain, and_assoc]

theorem isPlain_of {p : Char → Bool} (h : p '"' = false ∧ p '#' = false ∧ p '\n' = false ∧
    p '\r' = false) {c : Char} (hc : p c = true) : isPlain c = true := by
  rw [isPlain_iff]
  refine ⟨?_, ?_, ?_, ?_⟩ <;> rintro rfl <;> simp_all

/-- A word of plain characters is read as a token. -/
theorem Reading.plain {cur : Cursor} {w rest : Text} {parts : List Lexeme} {c : Construct}
    {a : Anchor} {v : VisualClass} (hne : w ≠ []) (hplain : ∀ x ∈ w, isPlain x = true)
    (coloured : c.classFor? a = some v) (tail : Reading (cur.advance w.length) rest parts) :
    Reading cur (w ++ rest) (.token c a (cur.token w.length) :: parts) := by
  refine .token (fun hmem => ?_) (passed_of_plain (fun x hx => ?_) rest) ?_ coloured tail
  · exact absurd (hplain _ hmem) (by decide)
  · obtain ⟨hquote, hmarker, -⟩ := isPlain_iff.1 (hplain x hx)
    exact ⟨hquote, hmarker⟩
  · obtain ⟨-, -, hnewline⟩ := isPlain_iff.1 (hplain _ (List.getLast_mem hne))
    exact ⟨w.getLast hne, List.getLast?_eq_some_getLast hne, hnewline⟩

/-- A run of characters that a predicate holds of, cut off what follows it. -/
theorem cons_eq_takeWhile_append (p : Char → Bool) (c : Char) (rest : Text) :
    c :: rest = (c :: rest.takeWhile p) ++ rest.dropWhile p := by
  rw [List.cons_append, List.takeWhile_append_dropWhile]

theorem forall_mem_cons_takeWhile {p : Char → Bool} {c : Char} (hc : p c = true) (rest : Text) :
    ∀ x ∈ c :: rest.takeWhile p, p x = true := by
  intro x hx
  rcases List.mem_cons.1 hx with rfl | hx
  · exact hc
  · exact List.mem_takeWhile_imp hx

/-- A string without a second quote ends with its line. -/
theorem atLineEnd_of_unterminated {rest : Text}
    (h : ∀ after, rest.dropWhile isStringChar = '"' :: after → False) :
    AtLineEnd (rest.dropWhile isStringChar) := by
  refine atLineEnd_dropWhile fun c hc hnot => ?_
  obtain ⟨after, hafter⟩ := List.head?_eq_some_iff.1 hc
  have hquote : c ≠ '"' := by
    rintro rfl
    exact h after hafter
  by_contra hnewline
  rw [isStringChar_iff.2 ⟨hquote, hnewline⟩] at hnot
  cases hnot

theorem exists_classFor?_wordKind (word : Text) :
    ∃ v, (wordKind word).1.classFor? (wordKind word).2 = some v := by
  unfold wordKind
  split
  · exact ⟨.keyword, rfl⟩
  · exact ⟨.mainText, rfl⟩

theorem reading (cur : Cursor) (t : Text) : Reading cur t (lexemes cur t) := by
  fun_induction lexemes cur t with
  | case1 => exact .nil
  | case2 _ _ ih => exact .newline ih
  | case3 cur c rest hnewline hblank ih =>
    have hplain : ∀ x ∈ [c], x ≠ '"' ∧ x ≠ '#' := by
      intro x hx
      rw [List.mem_singleton.1 hx]
      constructor <;> rintro rfl <;> revert hblank <;> decide
    exact .skip (by simpa using Ne.symm hnewline) (passed_of_plain hplain rest) ih
  | case4 cur rest _ _ ih =>
    have hend : AtLineEnd (rest.dropWhile (· != '\n')) :=
      atLineEnd_dropWhile fun c _ hc => by simpa using hc
    have hline : '\n' ∉ rest.takeWhile (· != '\n') :=
      fun hmem => absurd (List.mem_takeWhile_imp hmem) (by decide)
    rw [Nat.add_comm] at ih
    rw [cons_eq_takeWhile_append (· != '\n') '#' rest, Nat.add_comm]
    exact .skip (by simpa using hline) (passed_comment hline hend) ih
  | case5 cur rest body after hafter _ _ _ ih =>
    have hbody : ∀ c ∈ rest.takeWhile isStringChar, isStringChar c = true :=
      fun c hc => List.mem_takeWhile_imp hc
    have hlength : ('"' :: rest.takeWhile isStringChar ++ ['"']).length = body + 2 := by
      simp [body]
    rw [cons_eq_takeWhile_append isStringChar '"' rest, hafter, List.append_cons, ← hlength]
    refine .token ?_ (passed_string hbody after) ⟨'"', List.getLast?_concat, by decide⟩
      (v := .string) rfl (hlength ▸ ih)
    simp [newline_not_mem hbody]
  | case6 cur rest body _ _ _ hafter ih =>
    rw [cons_eq_takeWhile_append isStringChar '"' rest]
    have hbody : ∀ c ∈ rest.takeWhile isStringChar, isStringChar c = true :=
      fun c hc => List.mem_takeWhile_imp hc
    exact .unterminated hbody (atLineEnd_of_unterminated hafter) ih
  | case7 cur c rest _ _ _ _ hdigit n ih =>
    have hlength : (c :: rest.takeWhile Char.isDigit).length = n := Nat.add_comm _ _
    rw [cons_eq_takeWhile_append Char.isDigit c rest, ← hlength]
    refine .plain (List.cons_ne_nil _ _) (fun x hx => ?_) (v := .int) rfl (hlength ▸ ih)
    exact isPlain_of (by decide) (forall_mem_cons_takeWhile hdigit rest x hx)
  | case8 cur c rest _ _ _ _ _ hword word ih =>
    obtain ⟨v, hv⟩ := exists_classFor?_wordKind word
    rw [cons_eq_takeWhile_append isWordChar c rest]
    refine .plain (List.cons_ne_nil _ _) (fun x hx => ?_) hv ih
    exact isPlain_of (by decide +kernel) (forall_mem_cons_takeWhile hword rest x hx)
  | case9 cur c rest hnewline hblank hmarker hquote _ _ ih =>
    have hreturn : c ≠ '\r' := by
      rintro rfl
      exact hblank (by decide)
    have hplain : isPlain c = true := isPlain_iff.2 ⟨hquote, hmarker, hnewline, hreturn⟩
    exact .plain (w := [c]) (List.cons_ne_nil _ _) (by simpa using hplain) (v := .operator) rfl ih

/-! ## Order -/

theorem EndsShown.length_pos {w : Text} (h : EndsShown w) : 0 < w.length := by
  obtain ⟨c, hc, -⟩ := h
  exact List.length_pos_of_mem (List.mem_of_getLast? hc)

theorem Reading.ordered {cur : Cursor} {t : Text} {parts : List Lexeme}
    (h : Reading cur t parts) :
    (∀ tok ∈ parts.filterMap Lexeme.token?, cur.offset ≤ tok.start ∧ tok.start ≤ tok.stop) ∧
      (parts.filterMap Lexeme.token?).Pairwise fun u v => u.stop < v.start := by
  induction h with
  | nil => simp
  | newline _ ih | skip _ _ _ ih | unterminated _ _ _ ih =>
    refine ⟨fun tok htok => ?_, ih.2⟩
    have := ih.1 tok htok
    simp only [Cursor.nextLine, Cursor.advance] at this
    omega
  | @token cur w rest parts c a v _ _ shown _ _ ih =>
    have hpos := shown.length_pos
    have hlater : ∀ tok ∈ parts.filterMap Lexeme.token?,
        cur.offset + w.length ≤ tok.start ∧ tok.start ≤ tok.stop := ih.1
    simp only [List.filterMap_cons, Lexeme.token?, List.forall_mem_cons, List.pairwise_cons,
      Cursor.token]
    refine ⟨⟨by omega, fun tok htok => ?_⟩, fun tok htok => ?_, ih.2⟩
    · have := hlater tok htok
      omega
    · have := hlater tok htok
      omega

theorem tokens_ordered (t : Text) :
    (∀ tok ∈ (wordParse t).tokens, tok.start ≤ tok.stop) ∧
      (wordParse t).tokens.Pairwise fun u v => u.stop < v.start :=
  let h := (reading .origin t).ordered
  ⟨fun tok htok => (h.1 tok htok).2, h.2⟩

/-- The two parts do not share the character at `o`, unless they are one. -/
def Lexeme.ApartAt (o : Nat) (x y : Lexeme) : Prop :=
  ∀ u v, x.token? = some u → y.token? = some v → u.start ≤ o ∧ o ≤ u.stop →
    v.start ≤ o ∧ o ≤ v.stop → x = y

/-- No two tokens have a character in common. -/
theorem eq_of_mem_lexemes {t : Text} {part part' : Lexeme} {tok tok' : Token} {o : Nat}
    (hpart : part ∈ lexemes .origin t) (hpart' : part' ∈ lexemes .origin t)
    (htok : part.token? = some tok) (htok' : part'.token? = some tok')
    (ho : tok.start ≤ o ∧ o ≤ tok.stop) (ho' : tok'.start ≤ o ∧ o ≤ tok'.stop) : part = part' := by
  have hordered := List.pairwise_filterMap.1 (tokens_ordered t).2
  have hfirst : (lexemes .origin t).Pairwise (Lexeme.ApartAt o) := by
    refine hordered.imp fun h u v hu hv hou hov => ?_
    have := h u hu v hv
    omega
  have hsecond : (lexemes .origin t).Pairwise (flip (Lexeme.ApartAt o)) := by
    refine hordered.imp fun h v u hv hu hov hou => ?_
    have := h u hu v hv
    omega
  have hself : ∀ x ∈ lexemes .origin t, x.ApartAt o x := fun x _ _ _ _ _ _ _ => rfl
  exact hfirst.forall_of_forall_of_flip hself hsecond hpart hpart' tok tok' htok htok' ho ho'

/-! ## Places -/

/-- The cursor stands in `t` behind the lines `before` and the part `pre` of its own line, where
`rest` comes next. -/
structure Stands (t : Text) (before : List Text) (pre rest : Text) (cur : Cursor) : Prop where
  lines : rawLines t = before ++ rawLines (pre ++ rest)
  breaks : breaksAtNewlines (pre ++ rest) = true
  newlineFree : '\n' ∉ pre
  line : cur.line = before.length + 1
  column : cur.column = pre.length
  offset : cur.offset = before.flatten.length + pre.length

namespace Stands

variable {t pre w rest : Text} {before : List Text} {cur : Cursor}

theorem origin (h : breaksAtNewlines t = true) : Stands t [] [] t .origin :=
  ⟨rfl, h, List.not_mem_nil, rfl, rfl, rfl⟩

theorem newline (h : Stands t before pre ('\n' :: rest) cur) :
    Stands t (before ++ [pre ++ ['\n']]) [] rest cur.nextLine := by
  obtain ⟨lines, breaks, newlineFree, line, column, offset⟩ := h
  refine ⟨?_, ?_, List.not_mem_nil, ?_, rfl, ?_⟩
  · rw [lines, rawLines_append breaks newlineFree (rawLines_newline rest), List.append_assoc]
    rfl
  · exact breaksAtNewlines_of_append (u := pre ++ ['\n']) (by simpa using breaks)
  · simp [Cursor.nextLine, line]
  · simp only [Cursor.nextLine, offset, List.flatten_append, List.flatten_singleton,
      List.length_append, List.length_singleton, List.length_nil]
    omega

theorem advance (h : Stands t before pre (w ++ rest) cur) (hw : '\n' ∉ w) :
    Stands t before (pre ++ w) rest (cur.advance w.length) := by
  obtain ⟨lines, breaks, newlineFree, line, column, offset⟩ := h
  rw [← List.append_assoc] at lines breaks
  refine ⟨lines, breaks, by simp [newlineFree, hw], line, ?_, ?_⟩
  · simp [Cursor.advance, column]
  · simp only [Cursor.advance, offset, List.length_append]
    omega

theorem text_eq (h : Stands t before pre rest cur) : t = before.flatten ++ pre ++ rest := by
  rw [← flatten_rawLines t, h.lines, List.flatten_append, flatten_rawLines, List.append_assoc]

theorem lineStart (h : Stands t before pre rest cur) :
    (⟨t⟩ : Document).lineStart cur.line + cur.column = cur.offset := by
  rw [Document.lineStart, Document.lines, h.line, h.lines, Nat.add_sub_cancel, List.take_left,
    h.column, h.offset]

/-- The line shows a word that comes next. -/
theorem lineText? (h : Stands t before pre (w ++ rest) cur) (hw : '\n' ∉ w) (hshown : EndsShown w) :
    ∃ post, (⟨t⟩ : Document).lineText? cur.line = some (pre ++ w ++ post) := by
  obtain ⟨l, ls, hls⟩ := List.exists_cons_of_ne_nil (rawLines_ne_nil rest)
  have hmoved := h.advance hw
  refine ⟨dropTerminator l, ?_⟩
  rw [Document.lineText?, h.line, Document.rawLine?_succ, Document.lines, hmoved.lines,
    rawLines_append hmoved.breaks hmoved.newlineFree hls, List.getElem?_append_right le_rfl,
    Nat.sub_self, List.getElem?_cons_zero, Option.map_some,
    dropTerminator_append (hshown.append pre)]

end Stands

/-- The token has characters and lies on one line of the text, which starts where it says. -/
structure Token.OnLine (t : Text) (tok : Token) : Prop where
  nonempty : tok.start ≤ tok.stop
  start : (⟨t⟩ : Document).lineStart tok.line + tok.column = tok.start
  line : ∃ lineText, (⟨t⟩ : Document).lineText? tok.line = some lineText ∧
    tok.column + (tok.stop + 1 - tok.start) ≤ lineText.length
  newlineFree : '\n' ∉ (⟨t⟩ : Document).slice tok.start (tok.stop + 1)

theorem Stands.onLine {t pre w rest : Text} {before : List Text} {cur : Cursor}
    (h : Stands t before pre (w ++ rest) cur) (hw : '\n' ∉ w) (hshown : EndsShown w) :
    (cur.token w.length).OnLine t := by
  have hpos := hshown.length_pos
  obtain ⟨post, hline⟩ := h.lineText? hw hshown
  have hstop : cur.offset + w.length - 1 + 1 = cur.offset + w.length := by omega
  refine ⟨by simp only [Cursor.token]; omega, h.lineStart, ⟨_, hline, ?_⟩, ?_⟩
  · simp only [Cursor.token, h.column, List.length_append]
    omega
  · -- the characters of the token are those of `w`
    have hdone : cur.offset = (before.flatten ++ pre).length := by
      rw [h.offset, List.length_append]
    simp only [Cursor.token, hstop, Document.slice, h.text_eq]
    rw [← List.append_assoc, hdone, ← List.length_append, List.take_left, List.drop_left]
    exact hw

/-- The part is a coloured token on a line of the text, or stands at a character of a line. -/
def Lexeme.PlacedIn (t : Text) : Lexeme → Prop
  | .token c a tok => (∃ v, c.classFor? a = some v) ∧ tok.OnLine t
  | .unterminated line column => ∃ offset, (⟨line, column, offset, offset⟩ : Token).OnLine t

theorem Reading.placedIn {t pre rest : Text} {before : List Text} {cur : Cursor}
    {parts : List Lexeme} (h : Reading cur rest parts) (hstands : Stands t before pre rest cur) :
    ∀ part ∈ parts, part.PlacedIn t := by
  induction h generalizing before pre with
  | nil => exact fun part hpart => absurd hpart List.not_mem_nil
  | newline _ ih => exact ih hstands.newline
  | skip newlineFree _ _ ih => exact ih (hstands.advance newlineFree)
  | token newlineFree _ shown coloured _ ih =>
    rw [List.forall_mem_cons]
    exact ⟨⟨⟨_, coloured⟩, hstands.onLine newlineFree shown⟩, ih (hstands.advance newlineFree)⟩
  | @unterminated cur body rest parts inside _ _ ih =>
    have hbody : '\n' ∉ '"' :: body := by simp [newline_not_mem inside]
    rw [List.forall_mem_cons]
    refine ⟨⟨cur.offset, ?_⟩, ih (hstands.advance hbody)⟩
    exact Stands.onLine (w := ['"']) hstands (by decide) ⟨'"', rfl, by decide⟩

theorem placedIn_of_mem_lexemes {t : Text} (h : breaksAtNewlines t = true) :
    ∀ part ∈ lexemes .origin t, part.PlacedIn t :=
  (reading .origin t).placedIn (.origin h)

/-! ## Errors -/

/-- The unterminated strings among the parts start at the open quotes of what is read. -/
theorem Reading.exists_unterminated_iff {t pre rest : Text} {before : List Text} {cur : Cursor}
    {parts : List Lexeme} (h : Reading cur rest parts) (hstands : Stands t before pre rest cur)
    (o : Nat) :
    (∃ line column, .unterminated line column ∈ parts ∧
      (⟨t⟩ : Document).lineStart line + column = o) ↔
      ∃ i, o = cur.offset + i ∧ IsOpenQuote rest i := by
  induction h generalizing before pre with
  | nil => simp [IsOpenQuote]
  | @newline cur rest _ _ ih =>
    have hpassed : Passed ['\n'] rest := passed_of_plain (by simp) rest
    exact (ih hstands.newline).trans (hpassed.exists_isOpenQuote_iff cur.offset o).symm
  | skip newlineFree passed _ ih =>
    exact (ih (hstands.advance newlineFree)).trans (passed.exists_isOpenQuote_iff _ o).symm
  | token newlineFree passed _ _ _ ih =>
    simp only [List.mem_cons, reduceCtorEq, false_or]
    exact (ih (hstands.advance newlineFree)).trans (passed.exists_isOpenQuote_iff _ o).symm
  | @unterminated cur body rest parts inside atEnd _ ih =>
    have hbody : '\n' ∉ '"' :: body := by simp [newline_not_mem inside]
    have htail := ih (hstands.advance hbody)
    simp only [isOpenQuote_unterminated inside atEnd]
    constructor
    · rintro ⟨line, column, hmem, rfl⟩
      rcases List.mem_cons.1 hmem with heq | hmem
      · cases heq
        exact ⟨0, hstands.lineStart, .inl rfl⟩
      · obtain ⟨j, hj, hopen⟩ := htail.1 ⟨line, column, hmem, rfl⟩
        refine ⟨body.length + 1 + j, ?_, .inr ⟨j, rfl, hopen⟩⟩
        rw [hj, Cursor.advance, Nat.add_assoc]
    · rintro ⟨i, rfl, rfl | ⟨j, rfl, hopen⟩⟩
      · exact ⟨cur.line, cur.column, List.mem_cons_self, hstands.lineStart⟩
      · obtain ⟨line, column, hmem, hoffset⟩ := htail.2 ⟨j, (Nat.add_assoc _ _ _).symm, hopen⟩
        exact ⟨line, column, List.mem_cons_of_mem _ hmem, hoffset⟩

theorem exists_unterminated_iff {t : Text} (h : breaksAtNewlines t = true) (o : Nat) :
    (∃ line column, .unterminated line column ∈ lexemes .origin t ∧
      (⟨t⟩ : Document).lineStart line + column = o) ↔ IsOpenQuote t o := by
  rw [(reading .origin t).exists_unterminated_iff (.origin h)]
  simp [Cursor.origin]

end EditorPane
