import EditorPane.Syntax.Word

/-!
# Open quotes

Character by character, a text is code, a quoted string or a comment; every line starts as code. A
quote in code that has no partner on its line is open. Whether a quote is open does not depend on
what was read before it, as long as that ended in code or the line ends where it ended.

## Main definitions

* `Mode`, `modeAfter` — what a text is where it ends.
* `IsOpenQuote` — the offsets of the open quotes.
* `Passed` — what can be read without a look back.

## Main results

* `Passed.isOpenQuote_iff` — what has been passed can be forgotten.
* `passed_of_plain`, `passed_comment`, `passed_string`, `isOpenQuote_unterminated`.
-/

namespace EditorPane

/-- What a character of a text belongs to. -/
inductive Mode where
  | code
  | string
  | comment
  deriving DecidableEq, Repr

/-- The mode behind a character. -/
def Mode.next (m : Mode) (c : Char) : Mode :=
  if c = '\n' then code
  else match m with
    | code => if c = '"' then string else if c = '#' then comment else code
    | string => if c = '"' then code else string
    | comment => comment

/-- The mode behind a text. -/
def modeAfter (t : Text) : Mode := t.foldl Mode.next .code

/-- The character at `i` is a quote that starts a string, and its line has no quote behind it. -/
def IsOpenQuote (t : Text) (i : Nat) : Prop :=
  t[i]? = some '"' ∧ modeAfter (t.take i) = .code ∧ '"' ∉ (t.drop (i + 1)).takeWhile (· != '\n')

instance (t : Text) (i : Nat) : Decidable (IsOpenQuote t i) := inferInstanceAs (Decidable (_ ∧ _))

/-- Nothing is left of the line. -/
def AtLineEnd (rest : Text) : Prop := rest = [] ∨ ∃ next, rest = '\n' :: next

/-- Reading goes on behind `w` as at the start of a text, and no open quote has been passed. -/
structure Passed (w rest : Text) : Prop where
  noOpenQuote : ∀ i < w.length, ¬ IsOpenQuote (w ++ rest) i
  resumes : modeAfter w = .code ∨ AtLineEnd rest

variable {t u w rest body : Text} {i : Nat} {m : Mode}

theorem atLineEnd_dropWhile {p : Char → Bool}
    (h : ∀ c ∈ (t.dropWhile p).head?, p c = false → c = '\n') : AtLineEnd (t.dropWhile p) := by
  have hnot := List.head?_dropWhile_not p t
  cases hdrop : t.dropWhile p with
  | nil => exact .inl rfl
  | cons c next =>
    rw [hdrop] at h hnot
    exact .inr ⟨next, by rw [h c rfl (by simpa using hnot)]⟩

theorem AtLineEnd.takeWhile_append (h : AtLineEnd rest) (hu : '\n' ∉ u) :
    (u ++ rest).takeWhile (· != '\n') = u := by
  have hline : ∀ c ∈ u, (c != '\n') = true := fun c hc => bne_iff_ne.2 fun heq => hu (heq ▸ hc)
  rw [List.takeWhile_append_of_pos hline]
  rcases h with rfl | ⟨next, rfl⟩ <;> simp

theorem isStringChar_iff {c : Char} : isStringChar c = true ↔ c ≠ '"' ∧ c ≠ '\n' := by
  simp [isStringChar]

theorem newline_not_mem (h : ∀ c ∈ body, isStringChar c = true) : '\n' ∉ body :=
  fun hmem => absurd (h _ hmem) (by decide)

theorem quote_not_mem (h : ∀ c ∈ body, isStringChar c = true) : '"' ∉ body :=
  fun hmem => absurd (h _ hmem) (by decide)

/-! ## Modes -/

theorem foldl_next_eq_self (h : ∀ c ∈ u, m.next c = m) : u.foldl Mode.next m = m := by
  induction u with
  | nil => rfl
  | cons c u ih =>
    rw [List.foldl_cons, h c List.mem_cons_self]
    exact ih fun d hd => h d (List.mem_cons_of_mem c hd)

theorem next_comment {c : Char} (h : c ≠ '\n') : Mode.comment.next c = .comment := by
  simp [Mode.next, h]

theorem next_string {c : Char} (h : isStringChar c = true) : Mode.string.next c = .string := by
  simp [Mode.next, isStringChar_iff.1 h]

theorem modeAfter_of_plain (h : ∀ c ∈ u, c ≠ '"' ∧ c ≠ '#') : modeAfter u = .code := by
  refine foldl_next_eq_self fun c hc => ?_
  simp [Mode.next, h c hc]

/-! ## Going on behind a word -/

theorem isOpenQuote_append_add (h : modeAfter u = .code ∨ AtLineEnd t) (i : Nat) :
    IsOpenQuote (u ++ t) (u.length + i) ↔ IsOpenQuote t i := by
  have hget : (u ++ t)[u.length + i]? = t[i]? := by
    rw [List.getElem?_append_right (Nat.le_add_right _ _), Nat.add_sub_cancel_left]
  have hdrop : (u ++ t).drop (u.length + i + 1) = t.drop (i + 1) := by
    rw [Nat.add_assoc, List.drop_append]
    simp
  have htake : modeAfter ((u ++ t).take (u.length + i))
      = (t.take i).foldl Mode.next (modeAfter u) := by
    rw [List.take_length_add_append, modeAfter, List.foldl_append, modeAfter]
  rw [IsOpenQuote, IsOpenQuote, hget, hdrop, htake]
  rcases h with hcode | rfl | ⟨next, rfl⟩
  · rw [hcode, modeAfter]
  · simp
  · -- a `\n` leads to code from anywhere
    cases i with
    | zero => simp
    | succ i => rfl

theorem Passed.isOpenQuote_iff (h : Passed w rest) :
    IsOpenQuote (w ++ rest) i ↔ ∃ j, i = w.length + j ∧ IsOpenQuote rest j := by
  constructor
  · intro hopen
    have hle : w.length ≤ i := Nat.le_of_not_lt fun hlt => h.noOpenQuote i hlt hopen
    obtain ⟨j, rfl⟩ := Nat.exists_eq_add_of_le hle
    exact ⟨j, rfl, (isOpenQuote_append_add h.resumes j).1 hopen⟩
  · rintro ⟨j, rfl, hopen⟩
    exact (isOpenQuote_append_add h.resumes j).2 hopen

/-- Counted by their offsets, the open quotes are the same before and after passing `w`. -/
theorem Passed.exists_isOpenQuote_iff (h : Passed w rest) (start o : Nat) :
    (∃ i, o = start + i ∧ IsOpenQuote (w ++ rest) i) ↔
      ∃ j, o = start + w.length + j ∧ IsOpenQuote rest j := by
  simp only [h.isOpenQuote_iff]
  constructor
  · rintro ⟨i, rfl, j, rfl, hopen⟩
    exact ⟨j, by omega, hopen⟩
  · rintro ⟨j, rfl, hopen⟩
    exact ⟨w.length + j, by omega, j, rfl, hopen⟩

/-! ## What can be passed -/

/-- Anything without quotes and comment markers can be passed. -/
theorem passed_of_plain (h : ∀ c ∈ w, c ≠ '"' ∧ c ≠ '#') (rest : Text) : Passed w rest := by
  refine ⟨fun i hi hopen => ?_, .inl (modeAfter_of_plain h)⟩
  have hquote := hopen.1
  rw [List.getElem?_append_left hi] at hquote
  exact (h _ (List.mem_of_getElem? hquote)).1 rfl

/-- A character that starts a string or a comment hides what follows it. -/
theorem not_isOpenQuote_of_mode {c : Char} (hc : Mode.code.next c = m) (hm : m ≠ .code)
    (hu : ∀ d ∈ u, m.next d = m) {k : Nat} (hk : k ≤ u.length) (rest : Text) :
    ¬ IsOpenQuote (c :: u ++ rest) (k + 1) := by
  rintro ⟨-, hmode, -⟩
  rw [List.cons_append, List.take_succ_cons, List.take_append_of_le_length hk, modeAfter,
    List.foldl_cons, hc, foldl_next_eq_self fun d hd => hu d (List.mem_of_mem_take hd)] at hmode
  exact hm hmode

/-- What is left of a line behind a comment marker can be passed. -/
theorem passed_comment (hu : '\n' ∉ u) (hrest : AtLineEnd rest) : Passed ('#' :: u) rest := by
  refine ⟨fun i hi => ?_, .inr hrest⟩
  cases i with
  | zero => simp [IsOpenQuote]
  | succ k =>
    refine not_isOpenQuote_of_mode (m := .comment) rfl (by decide) (fun c hc => next_comment ?_)
      (Nat.le_of_lt (Nat.lt_of_succ_lt_succ hi)) rest
    rintro rfl
    exact hu hc

/-- A string with both quotes can be passed. -/
theorem passed_string (hbody : ∀ c ∈ body, isStringChar c = true) (rest : Text) :
    Passed ('"' :: body ++ ['"']) rest := by
  have hnext (c : Char) (hc : c ∈ body) : Mode.string.next c = .string := next_string (hbody c hc)
  refine ⟨fun i hi => ?_, .inl ?_⟩
  · rw [List.append_assoc]
    cases i with
    | zero =>
      rintro ⟨-, -, hpartner⟩
      refine hpartner ?_
      rw [Nat.zero_add, List.cons_append, List.drop_succ_cons, List.drop_zero,
        List.takeWhile_append_of_pos fun c hc => bne_iff_ne.2 (isStringChar_iff.1 (hbody c hc)).2]
      simp
    | succ k =>
      rw [List.length_append, List.length_cons, List.length_singleton] at hi
      exact not_isOpenQuote_of_mode rfl (by decide) hnext (by omega) _
  · have hstring : ('"' :: body).foldl Mode.next .code = .string := foldl_next_eq_self hnext
    rw [modeAfter, List.foldl_append, hstring]
    rfl

/-- A quote is open if its string reaches the end of the line. -/
theorem isOpenQuote_unterminated (hbody : ∀ c ∈ body, isStringChar c = true)
    (hrest : AtLineEnd rest) : IsOpenQuote ('"' :: body ++ rest) i ↔
      i = 0 ∨ ∃ j, i = body.length + 1 + j ∧ IsOpenQuote rest j := by
  have hopen : IsOpenQuote ('"' :: body ++ rest) 0 := by
    refine ⟨rfl, rfl, fun hmem => ?_⟩
    rw [Nat.zero_add, List.cons_append, List.drop_succ_cons, List.drop_zero,
      hrest.takeWhile_append (newline_not_mem hbody)] at hmem
    exact quote_not_mem hbody hmem
  constructor
  · intro h
    by_cases hi : i < body.length + 1
    · cases i with
      | zero => exact .inl rfl
      | succ k => exact absurd h (not_isOpenQuote_of_mode (m := .string) rfl (by decide)
          (fun c hc => next_string (hbody c hc)) (by omega) rest)
    · obtain ⟨j, rfl⟩ := Nat.exists_eq_add_of_le (Nat.le_of_not_lt hi)
      exact .inr ⟨j, rfl, (isOpenQuote_append_add (u := '"' :: body) (.inr hrest) j).1 h⟩
  · rintro (rfl | ⟨j, rfl, h⟩)
    · exact hopen
    · exact (isOpenQuote_append_add (u := '"' :: body) (.inr hrest) j).2 h

/-- The quote of line two is open; the ones of line one have each other or stand in a comment. -/
example :
    let t := ['"', '#', '"', '#', '"', '\n', '"']
    IsOpenQuote t 6 ∧ ¬ IsOpenQuote t 0 ∧ ¬ IsOpenQuote t 2 ∧ ¬ IsOpenQuote t 4 := by decide

end EditorPane
