import EditorPane.Proofs.Buffer.Events
import EditorPane.Proofs.Buffer.Following
import EditorPane.Proofs.Buffer.Store
import EditorPane.Proofs.Tag.Dominance

/-!
# Which tag call shows

A ledger says of every character of a text which tag calls of a run cover it. It knows nothing of
ranges: a tag call is entered at each of its characters, an edit cuts the list of characters, and
new characters take over what the characters on both sides of them share. The ranges of a buffer
say at every offset what the ledger of its run says, and so what shows at a character follows from
the calls over it and their order.

## Main definitions

* `Ledger`, `Ledger.along` — the tag calls over each character of a run.
* `showing` — the class that a list of calls shows in the foreground.

## Main results

* `Ledger.Records.along` — the ranges of a buffer say what the ledger of its run says.
* `Buffer.latest_call_shows` — what shows at a position, by the calls of the run.
-/

namespace EditorPane

/-! ## Ledgers -/

/-- How many tag calls there were, and those that cover each character of the text, earliest first:
each a class with the number of calls before it. -/
structure Ledger where
  calls : Nat
  chars : List (List (VisualClass × Nat))
  deriving DecidableEq, Repr

namespace Ledger

/-- A text of the given length, without tags. -/
def blank (length : Nat) : Ledger := ⟨0, List.replicate length []⟩

/-- The calls over the character at an offset. -/
def callsAt (l : Ledger) (offset : Nat) : List (VisualClass × Nat) := l.chars[offset]?.getD []

/-- The classes of the calls over the character at an offset, earliest first. -/
def classesAt (l : Ledger) (offset : Nat) : List VisualClass := (l.callsAt offset).map Prod.fst

/-- Enter a tag call at the characters from `start` up to `stop`. -/
def tag (l : Ledger) (v : VisualClass) (start stop : Nat) : Ledger where
  calls := l.calls + 1
  chars := l.chars.mapIdx fun o before =>
    if start ≤ o ∧ o < stop then before ++ [(v, l.calls)] else before

/-- Strike out the calls of a class. -/
def untag (l : Ledger) (v : VisualClass) : Ledger :=
  { l with chars := l.chars.map (List.filter fun call => call.1 ≠ v) }

/-- The calls that reach over the gap from `start` up to `stop`. -/
def across (l : Ledger) (start stop : Nat) : List (VisualClass × Nat) :=
  if start = 0 then [] else (l.callsAt (start - 1)).filter fun call => call ∈ l.callsAt stop

/-- Replace characters, the new ones being under the calls that reach over the gap. -/
def replace (l : Ledger) (r : Replacement) : Ledger :=
  { l with chars := l.chars.take r.start
      ++ List.replicate r.new.length (l.across r.start r.stop) ++ l.chars.drop r.stop }

/-- The ledger after a request to `b`. Tag calls without text are not entered. -/
def request (l : Ledger) (b : Buffer) (c : Buffer.Command) : Ledger :=
  match c with
  | .tag s v =>
    match b.document.range? s with
    | some (start, stop) => if start < stop then l.tag v start stop else l
    | none => l
  | .untag v => l.untag v
  | _ => (b.replacement? c).elim l l.replace

/-- The ledger after a run from `b`. -/
def along (l : Ledger) (b : Buffer) : List Buffer.Step → Ledger
  | [] => l
  | .observe :: rest => l.along b.observe rest
  | .request c :: rest => (l.request b c).along (b.run c) rest

variable {l : Ledger} {b : Buffer}

/-! ### Reading a ledger -/

theorem callsAt_of_le {o : Nat} (h : l.chars.length ≤ o) : l.callsAt o = [] := by
  rw [callsAt, List.getElem?_eq_none h]
  rfl

theorem callsAt_tag (v : VisualClass) (start : Nat) {stop : Nat} (h : stop ≤ l.chars.length)
    (o : Nat) : (l.tag v start stop).callsAt o
      = if start ≤ o ∧ o < stop then l.callsAt o ++ [(v, l.calls)] else l.callsAt o := by
  rw [callsAt, callsAt, tag, List.getElem?_mapIdx]
  by_cases ho : o < l.chars.length
  · rw [List.getElem?_eq_getElem ho]
    rfl
  · have hout : ¬ (start ≤ o ∧ o < stop) := by omega
    rw [List.getElem?_eq_none (Nat.le_of_not_lt ho), if_neg hout]
    rfl

theorem callsAt_untag (v : VisualClass) (o : Nat) :
    (l.untag v).callsAt o = (l.callsAt o).filter fun call => call.1 ≠ v := by
  rw [callsAt, callsAt, untag, List.getElem?_map]
  cases l.chars[o]? <;> rfl

section

variable {r : Replacement} (hle : r.start ≤ r.stop) (hstop : r.stop ≤ l.chars.length) {o : Nat}

include hle hstop

theorem callsAt_replace_of_lt (h : o < r.start) : (l.replace r).callsAt o = l.callsAt o := by
  grind [callsAt, replace]

theorem callsAt_replace_of_ge (h : r.start + r.new.length ≤ o) :
    (l.replace r).callsAt o = l.callsAt (o - r.new.length + (r.stop - r.start)) := by
  grind [callsAt, replace]

theorem callsAt_replace_inside (h : r.start ≤ o) (hlt : o < r.start + r.new.length) :
    (l.replace r).callsAt o = l.across r.start r.stop := by
  grind [callsAt, replace]

theorem length_replace : (l.replace r).chars.length
    = l.chars.length - (r.stop - r.start) + r.new.length := by
  simp only [replace, List.length_append, List.length_take, List.length_replicate,
    List.length_drop]
  omega

end

/-! ### What a ledger says of a buffer -/

/-- The ledger says at every offset which calls the ranges of the buffer belong to, in the order of
the calls. -/
structure Records (l : Ledger) (b : Buffer) : Prop where
  calls_eq : l.calls = b.nextSeq
  length_eq : l.chars.length = b.document.charCount
  mem_callsAt : ∀ o call, call ∈ l.callsAt o ↔ call ∈ b.tagsAt o
  inOrder : ∀ o, (l.callsAt o).Pairwise fun first second => first.2 < second.2

theorem records_blank (t : Text) (tabWidth : Nat) :
    (blank t.length).Records (Buffer.ofText t tabWidth) := by
  have hover (o : Nat) : (blank t.length).callsAt o = [] := by
    grind [callsAt, blank]
  refine ⟨rfl, List.length_replicate, fun o call => ?_, fun o => ?_⟩
  · have hempty : Layers.empty.Sound 0 0 := .empty
    have htags := hempty.tagsAt_eq_empty (Nat.zero_le o)
    simp [hover, Buffer.tagsAt, Buffer.ofText, htags]
  · rw [hover]
    exact .nil

namespace Records

variable {r : Replacement} {v : VisualClass}

theorem tag (h : l.Records b) (hb : b.Sound) {start stop : Nat} (hlt : start < stop)
    (hstop : stop ≤ b.document.charCount) : (l.tag v start stop).Records { b with
      layers := b.layers.insert v ⟨start, stop, b.nextSeq⟩
      nextSeq := b.nextSeq + 1 } := by
  have hover := callsAt_tag (l := l) v start (h.length_eq ▸ hstop)
  refine ⟨congrArg (· + 1) h.calls_eq, by simp [Ledger.tag, h.length_eq], fun o call => ?_,
    fun o => ?_⟩
  · rw [hover, Buffer.tagsAt, Layers.mem_tagsAt_insert hlt, ← Buffer.tagsAt, ← h.mem_callsAt,
      ← h.calls_eq, Interval.covers_iff]
    grind
  · rw [hover]
    split
    · -- The new call has a number that is larger than those of all tags there are.
      refine List.pairwise_append.2 ⟨h.inOrder o, List.pairwise_singleton _ _, ?_⟩
      intro call hcall new hnew
      obtain rfl := List.mem_singleton.1 hnew
      obtain ⟨i, hi, -, hseq⟩ := Layers.mem_tagsAt.1 ((h.mem_callsAt o call).1 hcall)
      rw [← hseq, h.calls_eq]
      exact (hb.fits _ i hi).numbered
    · exact h.inOrder o

theorem untag (h : l.Records b) (v : VisualClass) : (l.untag v).Records (b.untag v) := by
  refine ⟨h.calls_eq, (List.length_map _).trans h.length_eq, fun o call => ?_, fun o => ?_⟩
  · rw [callsAt_untag, Buffer.tagsAt, Buffer.layers_untag, Layers.mem_tagsAt_erase, ← Buffer.tagsAt,
      ← h.mem_callsAt]
    simp [and_comm]
  · rw [callsAt_untag]
    exact (h.inOrder o).filter _

theorem mem_across (h : l.Records b) (call : VisualClass × Nat) :
    call ∈ l.across r.start r.stop ↔ call ∈ if r.start = 0 ∨ r.stop = b.document.charCount then ∅
      else b.tagsAt (r.start - 1) ∩ b.tagsAt r.stop := by
  have hend := callsAt_of_le (l := l) (o := b.document.charCount) (Nat.le_of_eq h.length_eq)
  have hmem := h.mem_callsAt
  rw [across]
  grind

theorem pairwise_across (h : l.Records b) :
    (l.across r.start r.stop).Pairwise fun first second => first.2 < second.2 := by
  rw [across]
  split
  · exact .nil
  · exact (h.inOrder _).filter _

theorem replaced {c : Buffer.Command} (h : l.Records b) (hb : b.Sound) (kind : MutationKind)
    (hr : b.replacement? c = some r) : (l.replace r).Records (b.replaced kind r).2 := by
  obtain ⟨hle, hstop⟩ := Buffer.bounds_of_replacement? hr
  have hfollows := Buffer.follows_replaced hb kind hr
  rw [← h.length_eq] at hstop
  -- A character stands in front of the new text, behind it or in it.
  have hread (o : Nat) : (∀ call, call ∈ (l.replace r).callsAt o ↔
      call ∈ (b.replaced kind r).2.tagsAt o) ∧
      ((l.replace r).callsAt o).Pairwise fun first second => first.2 < second.2 := by
    rcases Nat.lt_or_ge o r.start with hbefore | hfrom
    · rw [callsAt_replace_of_lt hle hstop hbefore, hfollows.before o hbefore]
      exact ⟨h.mem_callsAt o, h.inOrder o⟩
    rcases Nat.lt_or_ge o (r.start + r.new.length) with hupto | hafter
    · rw [callsAt_replace_inside hle hstop hfrom hupto, hfollows.inserted o hfrom hupto]
      exact ⟨h.mem_across, h.pairwise_across⟩
    · rw [callsAt_replace_of_ge hle hstop hafter, hfollows.after o hafter]
      exact ⟨h.mem_callsAt _, h.inOrder _⟩
  refine ⟨h.calls_eq, ?_, fun o => (hread o).1, fun o => (hread o).2⟩
  rw [Buffer.charCount_replaced kind hr, length_replace hle hstop, h.length_eq]

/-- A request that edits, accepted or not. -/
theorem edit {c : Buffer.Command} (h : l.Records b) (hb : b.Sound)
    (hedit : c.kind?.isSome = true) :
    ((b.replacement? c).elim l l.replace).Records (b.run c) := by
  obtain ⟨kind, hkind⟩ := Option.isSome_iff_exists.1 hedit
  cases hr : b.replacement? c with
  | some r =>
    rw [Buffer.run_of_ok (Buffer.run?_of_replacement? hkind hr)]
    exact h.replaced hb kind hr
  | none =>
    obtain ⟨e, he⟩ := Buffer.run?_of_replacement?_eq_none hkind hr
    rw [Buffer.run, he]
    exact h

theorem request (h : l.Records b) (hb : b.Sound) (c : Buffer.Command) :
    (l.request b c).Records (b.run c) := by
  cases c with
  | insert | delete | replace =>
    refine h.edit hb ?_
    rfl
  | setText new => exact h.edit (c := .setText new) hb rfl
  | tag s v =>
    rw [Ledger.request, Buffer.run, Buffer.run?, Buffer.tag]
    cases hrange : b.document.range? s with
    | none => exact h
    | some range =>
      obtain ⟨start, stop⟩ := range
      by_cases hlt : start < stop
      · simp only [if_pos hlt]
        exact h.tag hb hlt (Document.range?_bounds hrange).2
      · simp only [if_neg hlt]
        exact h
  | untag v => exact h.untag v
  | setViewport | scrollTo | resize | setMetrics | setTabWidth =>
    exact ⟨h.calls_eq, h.length_eq, h.mem_callsAt, h.inOrder⟩

/-- A ledger that is kept along a run stays right. -/
theorem along (h : l.Records b) (hb : b.Reachable) (steps : List Buffer.Step) :
    (l.along b steps).Records (b.after steps) := by
  induction steps generalizing l b with
  | nil => exact h
  | cons step rest ih =>
    cases step with
    | observe =>
      exact ih ⟨h.calls_eq, h.length_eq, h.mem_callsAt, h.inOrder⟩ hb.observe
    | request c => exact ih (h.request hb.sound c) (hb.run c)

theorem mem_classesAt (h : l.Records b) (o : Nat) :
    v ∈ l.classesAt o ↔ b.layers.IsTagged v o := by
  rw [Layers.isTagged_iff_exists_mem_tagsAt]
  simp [classesAt, h.mem_callsAt, Buffer.tagsAt]

/-- The last of the calls over a character that satisfy a condition is the latest of them. -/
theorem lt_or_eq_of_getLast? (h : l.Records b) {o : Nat} {p : VisualClass × Nat → Bool}
    {call other : VisualClass × Nat} (hlast : ((l.callsAt o).filter p).getLast? = some call)
    (hother : other ∈ l.callsAt o) (hp : p other = true) : other.2 < call.2 ∨ other = call := by
  obtain ⟨front, hfront⟩ := List.getLast?_eq_some_iff.1 hlast
  have hordered := (h.inOrder o).filter p
  have hmem := List.mem_filter.2 ⟨hother, hp⟩
  rw [hfront] at hordered hmem
  obtain ⟨-, -, hbefore⟩ := List.pairwise_append.1 hordered
  rcases List.mem_append.1 hmem with hfront | hlast
  · exact .inl (hbefore other hfront call (List.mem_singleton_self call))
  · exact .inr (List.mem_singleton.1 hlast)

end Records

end Ledger

/-! ## What shows -/

/-- Of the classes of some tag calls, earliest first, the one that shows in the foreground: comments
over all others, plain text below all others, and of the others the latest. -/
def showing (classes : List VisualClass) : Option VisualClass :=
  if .comment ∈ classes then some .comment
  else (classes.filter fun v => v.layer = .foreground ∧ v ≠ .mainText).getLast?.or
    (if .mainText ∈ classes then some .mainText else none)

namespace Buffer

variable {b : Buffer} {l : Ledger}

theorem dominantAt_foreground_eq (h : l.Records b) (hl : b.layers.WellFormedIn .foreground)
    (o : Nat) : b.layers.dominantAt .foreground o = showing (l.classesAt o) := by
  have hmem {v : VisualClass} := h.mem_classesAt (v := v) o
  unfold showing
  by_cases hcomment : .comment ∈ l.classesAt o
  · rw [if_pos hcomment]
    exact (Layers.dominantAt_eq_comment_iff hl).2 (hmem.1 hcomment)
  rw [if_neg hcomment, Ledger.classesAt, List.filter_map, List.getLast?_map]
  cases hlast : ((l.callsAt o).filter ((fun v : VisualClass =>
      decide (v.layer = .foreground ∧ v ≠ .mainText)) ∘ Prod.fst)).getLast? with
  | some call =>
    obtain ⟨v, q⟩ := call
    have hv := List.mem_filter.1 (List.mem_of_getLast? hlast)
    simp only [Function.comp_apply, decide_eq_true_eq, h.mem_callsAt] at hv
    obtain ⟨htag, hlayer, hmain⟩ := hv
    refine Layers.dominantAt_eq_of_latest hl (mt hmem.2 hcomment) hlayer hmain htag ?_
    intro w r hw hwlayer hwmain
    have hlatest := h.lt_or_eq_of_getLast? hlast ((h.mem_callsAt o _).2 hw)
      (by simp [hwlayer, hwmain])
    grind
  | none =>
    -- Only plain text can be tagged here.
    have hplain {w : VisualClass} (hw : w ∈ l.classesAt o) (hwlayer : w.layer = .foreground) :
        w = .mainText := by
      rw [List.getLast?_eq_none_iff, List.filter_eq_nil_iff] at hlast
      obtain ⟨call, hcall, rfl⟩ := List.mem_map.1 hw
      simpa [hwlayer] using hlast call hcall
    simp only [Option.map_none, Option.none_or]
    split
    · next hmain =>
      exact Layers.dominantAt_eq_some_of_forall hl rfl (hmem.1 hmain) fun w hwlayer hw =>
        hplain (hmem.2 hw) hwlayer
    · next hmain =>
      refine (Layers.dominantAt_eq_none_iff hl).2 fun w hwlayer hw => ?_
      exact hmain (hplain (hmem.2 hw) hwlayer ▸ hmem.2 hw)

theorem dominantAt_background_eq (h : l.Records b) (hl : b.layers.WellFormedIn .background)
    (o : Nat) : b.layers.dominantAt .background o
      = if .error ∈ l.classesAt o then some .error else none := by
  have hmem := h.mem_classesAt (v := .error) o
  split
  · next herror => exact (Layers.dominantAt_eq_error_iff hl).2 (hmem.1 herror)
  · next herror =>
    refine (Layers.dominantAt_eq_none_iff hl).2 fun w hw => ?_
    obtain rfl : w = .error := by cases w <;> first | rfl | cases hw
    exact mt hmem.2 herror

theorem classesAt_eq_filter (h : l.Records b) (hl : ∀ v, (b.layers.get v).WellFormed) (o : Nat) :
    b.layers.classesAt o = VisualClass.all.filter (· ∈ l.classesAt o) := by
  refine List.filter_congr fun v _ => ?_
  rw [Bool.eq_iff_iff, Bool.not_eq_true', decide_eq_true_eq, h.mem_classesAt,
    List.isEmpty_eq_false_iff_exists_mem, Layers.IsTagged]
  simp only [(hl v).mem_covering]

/-- Look at the tag calls of a run that cover the character at a position: those with text whose
class was not taken off since, followed through all edits. A comment among them shows. Otherwise
the latest of them shows, plain text left aside, and otherwise plain text. The background is that
of an error if one of them is an error, whatever shows in the foreground, and the classes at the
position are their classes. -/
theorem latest_call_shows (t : Text) (tabWidth : Nat) (steps : List Step) {p : Position} {o : Nat}
    (h : ((ofText t tabWidth).after steps).document.offset? p = some o) :
    let b := (ofText t tabWidth).after steps
    let classes := ((Ledger.blank t.length).along (ofText t tabWidth) steps).classesAt o
    b.foregroundAt p = showing classes ∧
      b.backgroundAt p = (if .error ∈ classes then some .error else none) ∧
      b.classesAt p = VisualClass.all.filter (· ∈ classes) := by
  intro b classes
  have hreach : b.Reachable := (Reachable.ofText t tabWidth).after steps
  have hrecords := (Ledger.records_blank t tabWidth).along (.ofText t tabWidth) steps
  have hkept := hreach.kept
  rw [foregroundAt, backgroundAt, dominantAt, dominantAt, Buffer.classesAt, h]
  exact ⟨dominantAt_foreground_eq hrecords (fun v _ => hkept.wellFormed v) o,
    dominantAt_background_eq hrecords (fun v _ => hkept.wellFormed v) o,
    classesAt_eq_filter hrecords hkept.wellFormed o⟩

/-- A word was tagged three times before it grew, and its new characters are under all three calls.
The keyword was called after the string and shows, the plain text called last does not. The comment
was taken off before. -/
theorem latest_call_shows_in_grown_word :
    let word := "abcd".toList
    let steps : List Step :=
      [.request (.tag (.between ⟨1, 0⟩ ⟨1, 4⟩) .comment),
        .request (.tag (.between ⟨1, 1⟩ ⟨1, 4⟩) .string),
        .request (.tag (.between ⟨1, 0⟩ ⟨1, 3⟩) .keyword),
        .request (.tag (.between ⟨1, 0⟩ ⟨1, 4⟩) .mainText), .request (.untag .comment), .observe,
        .request (.insert ⟨1, 2⟩ "xy".toList), .request (.tag (.between ⟨1, 3⟩ ⟨1, 6⟩) .error)]
    let b := (ofText word 4).after steps
    b.document.offset? ⟨1, 3⟩ = some 3 ∧
      ((Ledger.blank word.length).along (ofText word 4) steps).classesAt 3
        = [.string, .keyword, .mainText, .error] ∧
      b.foregroundAt ⟨1, 3⟩ = some .keyword ∧ b.backgroundAt ⟨1, 3⟩ = some .error ∧
      b.classesAt ⟨1, 3⟩ = [.keyword, .string, .mainText, .error] := by
  intro word steps b
  have hoffset : b.document.offset? ⟨1, 3⟩ = some 3 := by decide +kernel
  have hover : ((Ledger.blank word.length).along (ofText word 4) steps).classesAt 3
      = [.string, .keyword, .mainText, .error] := by decide +kernel
  obtain ⟨hforeground, hbackground, hclasses⟩ := latest_call_shows word 4 steps hoffset
  rw [hover] at hforeground hbackground hclasses
  exact ⟨hoffset, hover, hforeground, hbackground, hclasses⟩

end Buffer

end EditorPane
