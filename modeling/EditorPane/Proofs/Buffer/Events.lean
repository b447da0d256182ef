import EditorPane.Proofs.Buffer.Reachable
import Mathlib.Data.List.Forall2

/-!
# What observers are told

A run of a buffer is a list of steps: requests, and registrations of observers at any time. Every
accepted edit of a run is reported once to each observer that is registered by then, and nothing
else is. The report tells exactly which part of the text is new, so that an observer with a copy of
the text knows all that has changed in it.

## Main definitions

* `Step`, `after` — runs of a buffer.
* `Call`, `edits` — the accepted edits of a run, each with the buffer it was made to.
* `Call.IsToldBy` — what the report of an edit says.

## Main results

* `reachable_iff_exists_after` — runs lead to the reachable buffers.
* `received_after` — an observer receives the reports of the run, behind those it has.
* `observers_are_told_of_edits` — these are one for each accepted edit, in order, and tell of it.
-/

namespace EditorPane

/-- The event tells how a replacement changes the text: it names the place of the new text, in front
of which the text is what it was, and behind which comes what came behind the old text. -/
structure Replacement.IsToldBy (r : Replacement) (b b' : Buffer) (e : MutationEvent) : Prop where
  start_eq : e.start = r.start
  stop_eq : e.stop = r.start + r.new.length
  slice_eq : b'.document.slice e.start e.stop = r.new
  take_eq : b'.text.take e.start = b.text.take r.start
  drop_eq : b'.text.drop e.stop = b.text.drop r.stop

namespace Buffer

/-! ## Runs -/

/-- What can happen to a buffer. -/
inductive Step where
  | observe
  | request (c : Command)
  deriving DecidableEq, Repr

/-- The buffer after a step. -/
def next (b : Buffer) : Step → Buffer
  | .observe => b.observe
  | .request c => b.run c

/-- The buffer after a list of steps. -/
def after (b : Buffer) (steps : List Step) : Buffer := steps.foldl next b

@[simp] theorem after_cons (b : Buffer) (step : Step) (rest : List Step) :
    b.after (step :: rest) = (b.next step).after rest := rfl

theorem after_concat (b : Buffer) (steps : List Step) (step : Step) :
    b.after (steps ++ [step]) = (b.after steps).next step := List.foldl_append

theorem Reachable.after {b : Buffer} (h : b.Reachable) (steps : List Step) :
    (b.after steps).Reachable := by
  induction steps generalizing b with
  | nil => exact h
  | cons step rest ih =>
    cases step with
    | observe => exact ih h.observe
    | request c => exact ih (h.run c)

/-- The reachable buffers are those that runs lead to. -/
theorem reachable_iff_exists_after {b : Buffer} :
    b.Reachable ↔ ∃ t tabWidth steps, b = (ofText t tabWidth).after steps := by
  constructor
  · intro h
    induction h with
    | ofText t tabWidth => exact ⟨t, tabWidth, [], rfl⟩
    | observe _ ih =>
      obtain ⟨t, tabWidth, steps, rfl⟩ := ih
      refine ⟨t, tabWidth, steps ++ [.observe], ?_⟩
      rw [after_concat, next]
    | run _ c ih =>
      obtain ⟨t, tabWidth, steps, rfl⟩ := ih
      refine ⟨t, tabWidth, steps ++ [.request c], ?_⟩
      rw [after_concat, next]
  · rintro ⟨t, tabWidth, steps, rfl⟩
    exact (Reachable.ofText t tabWidth).after steps

/-! ## Edits -/

/-- The kind of edit that a request asks for, if it is one. -/
def Command.kind? : Command → Option MutationKind
  | .insert _ _ => some .insert
  | .delete _ => some .delete
  | .replace _ _ | .setText _ => some .replace
  | _ => none

/-- The request is an edit, and it is not refused. -/
def acceptsEdit (b : Buffer) (c : Command) : Bool := c.kind?.isSome && (b.run? c).isOk

/-- The report of a request, if it is an accepted edit. -/
def event? (b : Buffer) (c : Command) : Option MutationEvent :=
  match b.run? c with
  | .ok (event, _) => event
  | .error _ => none

variable {b : Buffer} {c : Command} {kind : MutationKind} {r : Replacement}

/-- An edit whose place in the text exists is accepted: the replacement is made and reported. -/
theorem run?_of_replacement? (hkind : c.kind? = some kind) (hr : b.replacement? c = some r) :
    b.run? c = .ok (some (b.replaced kind r).1, (b.replaced kind r).2) := by
  cases c with
  | insert p new =>
    cases hkind
    obtain ⟨offset, hoffset, rfl⟩ := Option.map_eq_some_iff.1 hr
    simp only [run?, insert, hoffset]
    rfl
  | delete | replace =>
    cases hkind
    obtain ⟨range, hrange, rfl⟩ := Option.map_eq_some_iff.1 hr
    simp only [run?, delete, replace, hrange]
    rfl
  | setText new =>
    cases hkind
    cases hr
    rfl
  | _ => cases hkind

theorem run?_of_replacement?_eq_none (hkind : c.kind? = some kind)
    (hr : b.replacement? c = none) : ∃ e, b.run? c = .error e := by
  cases c with
  | insert p new =>
    have hoffset := Option.map_eq_none_iff.1 hr
    exact ⟨_, by simp only [run?, insert, hoffset]; rfl⟩
  | delete | replace =>
    have hrange := Option.map_eq_none_iff.1 hr
    exact ⟨_, by simp only [run?, delete, replace, hrange]; rfl⟩
  | setText new => cases hr
  | _ => cases hkind

theorem acceptsEdit_iff : b.acceptsEdit c = true ↔
    ∃ kind r, c.kind? = some kind ∧ b.replacement? c = some r := by
  rw [acceptsEdit, Bool.and_eq_true, Option.isSome_iff_exists]
  constructor
  · rintro ⟨⟨kind, hkind⟩, hok⟩
    cases hr : b.replacement? c with
    | some r => exact ⟨kind, r, hkind, rfl⟩
    | none =>
      obtain ⟨e, he⟩ := run?_of_replacement?_eq_none hkind hr
      rw [he] at hok
      cases hok
  · rintro ⟨kind, r, hkind, hr⟩
    exact ⟨⟨kind, hkind⟩, by rw [run?_of_replacement? hkind hr]; rfl⟩

theorem run_of_acceptsEdit (h : b.acceptsEdit c = true) : ∃ kind r, c.kind? = some kind ∧
    b.replacement? c = some r ∧ b.event? c = some (b.replaced kind r).1 ∧
    b.run c = (b.replaced kind r).2 := by
  obtain ⟨kind, r, hkind, hr⟩ := acceptsEdit_iff.1 h
  have hrun := run?_of_replacement? hkind hr
  exact ⟨kind, r, hkind, hr, by rw [event?, hrun], run_of_ok hrun⟩

/-- Any other request is not reported. -/
theorem run_of_not_acceptsEdit (h : b.acceptsEdit c = false) : b.event? c = none ∧
    (b.run c).version = b.version ∧ (b.run c).observers = b.observers := by
  unfold event? run
  cases hrun : b.run? c with
  | error e => exact ⟨rfl, rfl, rfl⟩
  | ok result =>
    obtain ⟨event, b'⟩ := result
    cases effect hrun with
    | tag | untag | view => exact ⟨rfl, rfl, rfl⟩
    | edit kind r hr =>
      have hkind : c.kind?.isSome = true := by cases c <;> first | rfl | cases hr
      rw [acceptsEdit, hkind, hrun] at h
      cases h

/-! ## What a report says -/

theorem isToldBy_replaced (kind : MutationKind) (hr : b.replacement? c = some r) :
    r.IsToldBy b (b.replaced kind r).2 (b.replaced kind r).1 := by
  obtain ⟨hle, hstop⟩ := bounds_of_replacement? hr
  have hlen : (b.text.take r.start).length = r.start := by
    rw [List.length_take]
    exact Nat.min_eq_left (hle.trans hstop)
  have hnew : (b.text.take r.start ++ r.new).length = r.start + r.new.length := by
    rw [List.length_append, hlen]
  have htext := text_replaced kind hr
  refine ⟨rfl, rfl, ?_, ?_, ?_⟩
  · show ((b.replaced kind r).2.text.take (r.start + r.new.length)).drop r.start = r.new
    rw [htext, List.take_left' hnew, List.drop_left' hlen]
  · show (b.replaced kind r).2.text.take r.start = b.text.take r.start
    rw [htext, List.append_assoc, List.take_left' hlen]
  · show (b.replaced kind r).2.text.drop (r.start + r.new.length) = b.text.drop r.stop
    rw [htext, List.drop_left' hnew]

/-- A request, with the buffer it was made to. -/
structure Call where
  buffer : Buffer
  command : Command
  deriving DecidableEq

/-- The event is of the kind of the edit and tells of its replacement. -/
def Call.IsToldBy (call : Call) (e : MutationEvent) : Prop :=
  call.command.kind? = some e.kind ∧ ∃ r, call.buffer.replacement? call.command = some r ∧
    r.IsToldBy call.buffer (call.buffer.run call.command) e

/-! ## Along a run -/

/-- The accepted edits of a run. -/
def edits (b : Buffer) : List Step → List Call
  | [] => []
  | .observe :: rest => b.observe.edits rest
  | .request c :: rest =>
    if b.acceptsEdit c then ⟨b, c⟩ :: (b.run c).edits rest else (b.run c).edits rest

/-- The reports of a run. -/
def events (b : Buffer) : List Step → List MutationEvent
  | [] => []
  | .observe :: rest => b.observe.events rest
  | .request c :: rest => (b.event? c).toList ++ (b.run c).events rest

theorem forall₂_isToldBy (b : Buffer) (steps : List Step) :
    List.Forall₂ Call.IsToldBy (b.edits steps) (b.events steps) := by
  induction steps generalizing b with
  | nil => exact .nil
  | cons step rest ih =>
    cases step with
    | observe => exact ih _
    | request c =>
      rw [edits, events]
      cases h : b.acceptsEdit c with
      | true =>
        obtain ⟨kind, r, hkind, hr, hevent, hrun⟩ := run_of_acceptsEdit h
        rw [hevent]
        exact .cons ⟨hkind, r, hr, hrun ▸ isToldBy_replaced kind hr⟩ (ih _)
      | false =>
        rw [(run_of_not_acceptsEdit h).1]
        exact ih _

/-- The version counts the accepted edits, and every report has the one that its edit led to. -/
theorem version_after (b : Buffer) (steps : List Step) :
    (b.after steps).version = b.version + (b.edits steps).length ∧
      (b.events steps).map MutationEvent.version
        = List.range' (b.version + 1) (b.edits steps).length := by
  induction steps generalizing b with
  | nil => exact ⟨rfl, rfl⟩
  | cons step rest ih =>
    cases step with
    | observe => exact ih b.observe
    | request c =>
      obtain ⟨hversion, hevents⟩ := ih (b.run c)
      rw [after_cons, next, edits, events]
      cases h : b.acceptsEdit c with
      | true =>
        obtain ⟨kind, r, -, -, hevent, hrun⟩ := run_of_acceptsEdit h
        have hsucc : (b.run c).version = b.version + 1 := by rw [hrun]; rfl
        rw [hsucc] at hversion hevents
        rw [hversion, hevent, if_pos rfl, List.map_append, hevents, List.length_cons,
          List.range'_succ]
        exact ⟨by omega, rfl⟩
      | false =>
        obtain ⟨hevent, hsame, -⟩ := run_of_not_acceptsEdit h
        rw [hsame] at hversion hevents
        rw [hevent]
        exact ⟨hversion, hevents⟩

theorem received_run {i : Nat} (h : i < b.observers.length) (c : Command) :
    (b.run c).received i = b.received i ++ (b.event? c).toList ∧
      (b.run c).observers.length = b.observers.length := by
  cases hc : b.acceptsEdit c with
  | true =>
    obtain ⟨kind, r, -, -, hevent, hrun⟩ := run_of_acceptsEdit hc
    rw [hevent, hrun]
    exact ⟨received_notify _ _ h, List.length_map _⟩
  | false =>
    obtain ⟨hevent, -, hobservers⟩ := run_of_not_acceptsEdit hc
    rw [hevent, received, received, hobservers]
    simp

/-- An observer receives the reports of the run, behind those it has. -/
theorem received_after {i : Nat} (h : i < b.observers.length) (steps : List Step) :
    (b.after steps).received i = b.received i ++ b.events steps := by
  induction steps generalizing b with
  | nil => exact (List.append_nil _).symm
  | cons step rest ih =>
    cases step with
    | observe =>
      have hlater : i < b.observe.observers.length := by
        rw [observe, List.length_append]
        exact Nat.lt_add_right _ h
      have hsame : b.observe.received i = b.received i := by
        simp [received, observe, List.getElem?_append_left h]
      rw [after_cons, next, ih hlater, hsame, events]
    | request c =>
      obtain ⟨hreceived, hlength⟩ := received_run h c
      rw [after_cons, next, ih (hlength ▸ h), hreceived, List.append_assoc, events]

/-- Let a run lead to a buffer with which an observer is then registered, and let the run go on. The
version of a buffer is the number of edits that were accepted until then. The observer has received
one report for each edit accepted after its registration, with the versions that follow the one it
was registered at, in order, and each tells exactly what the edit did to the text. No other request
is reported or counted. -/
theorem observers_are_told_of_edits (t : Text) (tabWidth : Nat) (before rest : List Step) :
    let b := (ofText t tabWidth).after before
    let last := b.observe.after rest
    let calls := b.observe.edits rest
    let told := last.received b.observers.length
    b.version = ((ofText t tabWidth).edits before).length ∧
      List.Forall₂ Call.IsToldBy calls told ∧
      told.map MutationEvent.version = List.range' (b.version + 1) calls.length ∧
      ∀ c, last.acceptsEdit c = false →
        (last.run c).version = last.version ∧ (last.run c).observers = last.observers := by
  intro b last calls told
  have hregistered : b.observers.length < b.observe.observers.length := by simp [observe]
  have htold : told = b.observe.events rest := by
    rw [show told = _ from received_after hregistered rest, received_observe, List.nil_append]
  refine ⟨?_, ?_, ?_, fun c hc => (run_of_not_acceptsEdit hc).2⟩
  · rw [(version_after _ before).1]
    exact Nat.zero_add _
  · rw [htold]
    exact forall₂_isToldBy b.observe rest
  · rw [htold]
    exact (version_after b.observe rest).2

/-- An observer comes in after the first edit. A refused insertion and a tag are not reported to it,
the lines that are joined and the new text are. -/
theorem observers_are_told_of_joined_lines :
    let before : List Step := [.request (.insert ⟨1, 2⟩ ['\r', '\n', 'c'])]
    let rest : List Step :=
      [.request (.insert ⟨4, 0⟩ ['d']), .request (.tag (.between ⟨1, 0⟩ ⟨2, 1⟩) .keyword),
        .request (.delete (.between ⟨1, 1⟩ ⟨2, 0⟩)), .observe, .request (.setText ['e'])]
    let b := (ofText ['a', 'b'] 2).after before
    b.version = 1 ∧
      (b.observe.after rest).received 0 = [⟨.delete, 2, 1, 1⟩, ⟨.replace, 3, 0, 1⟩] ∧
      List.Forall₂ Call.IsToldBy (b.observe.edits rest)
        [⟨.delete, 2, 1, 1⟩, ⟨.replace, 3, 0, 1⟩] := by
  intro before rest b
  obtain ⟨hversion, htold, -⟩ := observers_are_told_of_edits ['a', 'b'] 2 before rest
  have hreceived : (b.observe.after rest).received 0
      = [⟨.delete, 2, 1, 1⟩, ⟨.replace, 3, 0, 1⟩] := by decide +kernel
  refine ⟨hversion.trans (by decide +kernel), hreceived, ?_⟩
  rw [← hreceived]
  exact htold

end Buffer

end EditorPane
