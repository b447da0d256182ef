import EditorPane.Proofs.Buffer.Batch
import EditorPane.Proofs.Buffer.Events
import EditorPane.Proofs.Text.Positions

/-!
# Which requests are accepted

A request is refused because of the place it names and for nothing else: a position has to be valid,
and a span needs a valid start and a last line that exists. Its stop may lie anywhere on that line,
since it is clamped to the line's end. The start of a span is converted strictly and its stop by
clamping, but as lines follow each other in the text, the offsets are in the order of the positions.
So no request is refused for them, and nothing is ever taken from the text but a stretch of it.

## Main definitions

* `Document.Admits`, `Command.Fits` — the spans and the requests that are accepted.
* `Document.lineEnd` — where a line ends.
* `Buffer.ActsOn` — what the requests with a span do.

## Main results

* `Document.range?_of_admits`, `Document.range?_eq_none_iff` — the offsets of a span.
* `Buffer.run?_eq_error_iff`, `Buffer.exists_run?_eq_ok_iff` — refused and accepted requests.
* `Buffer.requests_fit_or_do_nothing` — what becomes of a request.
-/

namespace EditorPane

/-! ## Spans -/

namespace Document

variable {d : Document} {s : Span} {line : Nat} {raw : Text}

/-- The start of the span is a position of the text, and the line of its stop exists. -/
def Admits (d : Document) (s : Span) : Prop :=
  d.isValid s.start = true ∧ 0 < s.stop.line ∧ s.stop.line ≤ d.lineCount

instance (d : Document) (s : Span) : Decidable (d.Admits s) :=
  inferInstanceAs (Decidable (_ ∧ _))

/-- Where a line ends: at the start of the next one, or at the end of the text. -/
def lineEnd (d : Document) (line : Nat) : Nat :=
  if line < d.lineCount then d.lineStart (line + 1) else d.charCount

theorem exists_rawLine?_iff : (∃ raw, d.rawLine? line = some raw) ↔
    0 < line ∧ line ≤ d.lineCount := by
  constructor
  · rintro ⟨raw, hraw⟩
    exact ⟨line_pos_of_rawLine? hraw, line_le_of_rawLine? hraw⟩
  · rintro ⟨hpos, hle⟩
    obtain ⟨n, rfl⟩ := Nat.exists_eq_succ_of_ne_zero (Nat.ne_of_gt hpos)
    exact ⟨_, List.getElem?_eq_getElem hle⟩

theorem lineEnd_of_rawLine? (h : d.rawLine? line = some raw) :
    d.lineEnd line = d.lineStart line + raw.length := by
  rw [← lineStart_succ h, lineEnd]
  split
  · rfl
  · next hlast =>
    have heq : line = d.lineCount := Nat.le_antisymm (line_le_of_rawLine? h) (Nat.not_lt.1 hlast)
    rw [heq, lineStart_lineCount_succ]

theorem isValid_of_offset? {p : Position} {offset : Nat} (h : d.offset? p = some offset) :
    d.isValid p = true := by
  by_contra hinvalid
  rw [offset?, if_neg hinvalid] at h
  cases h

/-- A span that the text admits reaches from the offset of its start to that of its stop, or to the
end of the stop's line if that comes first. -/
theorem range?_of_admits (h : d.Admits s) : d.range? s
    = some (d.lineStart s.start.line + s.start.column,
      min (d.lineStart s.stop.line + s.stop.column) (d.lineEnd s.stop.line)) := by
  obtain ⟨hvalid, hline⟩ := h
  obtain ⟨raw, hraw⟩ := exists_rawLine?_iff.2 hline
  have hspan : Span.between s.start s.stop = s := Span.between_of_le s.ordered
  have hrange := range?_between (if_pos hvalid) s.ordered hraw
  rwa [hspan, ← Nat.add_min_add_left, ← lineEnd_of_rawLine? hraw] at hrange

theorem range?_eq_none_iff : d.range? s = none ↔ ¬ d.Admits s := by
  constructor
  · intro hnone hadmits
    rw [range?_of_admits hadmits] at hnone
    cases hnone
  · intro hnot
    unfold range?
    split
    · next start _ hstart hlength =>
      obtain ⟨raw, hraw, -⟩ := Option.map_eq_some_iff.1 hlength
      exact absurd ⟨isValid_of_offset? hstart, exists_rawLine?_iff.1 ⟨raw, hraw⟩⟩ hnot
    · rfl

end Document

namespace Buffer

variable {b : Buffer} {c : Command} {s : Span}

/-! ## Refusals -/

/-- What the request names is in the text. -/
def Command.Fits (d : Document) : Command → Prop
  | .insert p _ => d.isValid p = true
  | .delete s | .replace s _ | .tag s _ => d.Admits s
  | _ => True

/-- The refusal that a request can meet with. -/
def Command.refusal? : Command → Option BufferError
  | .insert p _ => some (.invalidPosition p)
  | .delete s | .replace s _ | .tag s _ => some (.invalidSpan s)
  | _ => none

/-- A request is refused if what it names is not in the text, and it is told so. -/
theorem run?_eq_error_iff {e : BufferError} :
    b.run? c = .error e ↔ ¬ c.Fits b.document ∧ c.refusal? = some e := by
  cases c with
  | insert p new =>
    simp only [run?, insert, Document.offset?, Command.Fits, Command.refusal?]
    by_cases hvalid : b.document.isValid p = true
    · simp [hvalid, Except.map]
    · simp [hvalid, Except.map]
  | delete s | replace s new =>
    rw [Command.Fits, ← Document.range?_eq_none_iff]
    simp only [run?, delete, replace, Command.refusal?]
    cases b.document.range? s with
    | none => simp [Except.map]
    | some r => simp [Except.map]
  | tag s v =>
    rw [Command.Fits, ← Document.range?_eq_none_iff]
    simp only [run?, Command.refusal?]
    cases htag : b.tag s v with
    | error e' =>
      obtain ⟨hnone, rfl⟩ := tag_eq_error_iff.1 htag
      simp [hnone, Except.map]
    | ok b' =>
      have hsome := exists_tag_eq_ok_iff.1 ⟨b', htag⟩
      simp [Option.isSome_iff_ne_none.1 hsome, Except.map]
  | _ => simp [run?, Command.Fits, Command.refusal?]

theorem exists_run?_eq_ok_iff : (∃ result, b.run? c = .ok result) ↔ c.Fits b.document := by
  cases hrun : b.run? c with
  | error e => simp [(run?_eq_error_iff.1 hrun).1]
  | ok result =>
    have hfits : c.Fits b.document := by
      by_contra hnot
      cases c with
      | insert | delete | replace | tag =>
        rw [run?_eq_error_iff.2 ⟨hnot, rfl⟩] at hrun
        cases hrun
      | _ => exact hnot trivial
    simp [hfits]

/-- A refused request leaves everything as it is: the text, the tags and their numbers, the version
and what observers have received. -/
theorem run_of_error {e : BufferError} (h : b.run? c = .error e) : b.run c = b := by
  rw [run, h]

/-! ## Accepted spans -/

/-- The span stands for the offsets from `start` up to `stop`, and requests with the span act on
these. -/
structure ActsOn (b : Buffer) (s : Span) (start stop : Nat) : Prop where
  range : b.document.range? s = some (start, stop)
  start_eq : b.document.offset? s.start = some start
  stop_eq : stop = min (b.document.lineStart s.stop.line + s.stop.column)
    (b.document.lineEnd s.stop.line)
  clamped : b.document.clampedOffset s.stop = stop
  le : start ≤ stop
  inside : stop ≤ b.document.charCount
  text_delete : (b.run (.delete s)).text = b.text.take start ++ b.text.drop stop
  text_replace : ∀ new, (b.run (.replace s new)).text
    = b.text.take start ++ new ++ b.text.drop stop
  isTagged_tag : ∀ v w offset, (b.run (.tag s v)).layers.IsTagged w offset ↔
    b.layers.IsTagged w offset ∨ v = w ∧ start ≤ offset ∧ offset < stop

theorem text_run_of_replacement? {kind : MutationKind} {r : Replacement}
    (hkind : c.kind? = some kind) (hr : b.replacement? c = some r) :
    (b.run c).text = b.text.take r.start ++ r.new ++ b.text.drop r.stop := by
  rw [run_of_ok (run?_of_replacement? hkind hr), text_replaced kind hr]

theorem isTagged_run_tag {v w : VisualClass} {offset : Nat} (h : b.document.Admits s) :
    (b.run (.tag s v)).layers.IsTagged w offset ↔
      b.layers.IsTagged w offset ∨ v = w ∧ b.document.Addresses s offset := by
  have hsome : (b.document.range? s).isSome = true := by
    rw [Document.range?_of_admits h, Option.isSome_some]
  obtain ⟨b', htag⟩ := exists_tag_eq_ok_iff (v := v).2 hsome
  have hrun : b.run? (.tag s v) = .ok (none, b') := by
    rw [run?, htag]
    rfl
  rw [run_of_ok hrun, isTagged_of_tag htag]

theorem actsOn_of_admits (h : b.document.Admits s) : ∃ start stop, b.ActsOn s start stop := by
  obtain ⟨start, stop, hrange, hstart, hstop⟩ : ∃ start stop,
      b.document.range? s = some (start, stop) ∧ b.document.offset? s.start = some start ∧
        stop = min (b.document.lineStart s.stop.line + s.stop.column)
          (b.document.lineEnd s.stop.line) :=
    ⟨_, _, Document.range?_of_admits h, if_pos h.1, rfl⟩
  obtain ⟨hle, hinside⟩ := Document.range?_bounds hrange
  refine ⟨start, stop, hrange, hstart, hstop, ?_, hle, hinside, ?_, ?_, ?_⟩
  · obtain ⟨raw, hraw⟩ := Document.exists_rawLine?_iff.2 h.2
    rw [hstop, Document.lineEnd_of_rawLine? hraw, Nat.add_min_add_left]
    exact Document.clampedOffset_of_rawLine? hraw s.stop.column
  · have hdelete : b.replacement? (.delete s) = some ⟨start, stop, []⟩ := by
      rw [replacement?, hrange]
      rfl
    rw [text_run_of_replacement? rfl hdelete, List.append_nil]
  · intro new
    have hreplace : b.replacement? (.replace s new) = some ⟨start, stop, new⟩ := by
      rw [replacement?, hrange]
      rfl
    exact text_run_of_replacement? rfl hreplace
  · intro v w offset
    rw [isTagged_run_tag h, Document.addresses_iff hrange]

/-- Any request to any buffer. It is accepted exactly if what it names is in the text: its position,
or the start of its span and the line of the stop. Otherwise it is refused by naming that, and the
buffer stays as it was in all its parts. An accepted span stands for the text from its start to its
stop, or to the end of the line of the stop if that comes first. It never starts behind that, so the
text under it can be taken out, replaced or tagged, and nothing else is. -/
theorem requests_fit_or_do_nothing (b : Buffer) :
    (∀ c, (∃ result, b.run? c = .ok result) ↔ c.Fits b.document) ∧
    (∀ c e, b.run? c = .error e ↔ ¬ c.Fits b.document ∧ c.refusal? = some e) ∧
    (∀ c e, b.run? c = .error e → b.run c = b) ∧
    ∀ s, b.document.Admits s → ∃ start stop, b.ActsOn s start stop :=
  ⟨fun _ => exists_run?_eq_ok_iff, fun _ _ => run?_eq_error_iff, fun _ _ => run_of_error,
    fun _ => actsOn_of_admits⟩

/-- A stop far to the right is clamped to the end of its line, break included; a start in the middle
of the break and a stop below the text are refused. -/
theorem requests_fit_or_do_nothing_return :
    let b := ((ofText "a\r\nb".toList 2).run (.tag (.singleChar ⟨1, 0⟩) .keyword)).observe
    let far : Span := .between ⟨1, 1⟩ ⟨1, 9⟩
    let split : Span := .between ⟨1, 2⟩ ⟨2, 0⟩
    let below : Span := .between ⟨1, 0⟩ ⟨3, 0⟩
    b.ActsOn far 1 3 ∧ (b.run (.replace far ['+'])).text = "a+b".toList ∧
      b.run? (.delete split) = .error (.invalidSpan split) ∧
      b.run? (.tag below .error) = .error (.invalidSpan below) ∧ b.run (.tag below .error) = b ∧
      b.run? (.insert ⟨2, 2⟩ ['c']) = .error (.invalidPosition ⟨2, 2⟩) := by
  intro b far split below
  obtain ⟨-, hrefused, hkept, hacts⟩ := requests_fit_or_do_nothing b
  have hfar : b.ActsOn far 1 3 := by
    obtain ⟨start, stop, hfar⟩ := hacts far (by decide +kernel)
    have hrange : b.document.range? far = some (1, 3) := by decide +kernel
    obtain ⟨rfl, rfl⟩ : start = 1 ∧ stop = 3 := by simpa [hrange] using hfar.range.symm
    exact hfar
  have hbelow : b.run? (.tag below .error) = .error (.invalidSpan below) :=
    (hrefused _ _).2 ⟨show ¬ b.document.Admits below by decide +kernel, rfl⟩
  refine ⟨hfar, (hfar.text_replace _).trans (by decide +kernel), ?_, hbelow, hkept _ _ hbelow, ?_⟩
  · exact (hrefused _ _).2 ⟨show ¬ b.document.Admits split by decide +kernel, rfl⟩
  · exact (hrefused _ _).2
      ⟨show ¬ b.document.isValid ⟨2, 2⟩ = true by decide +kernel, rfl⟩

end Buffer

end EditorPane
