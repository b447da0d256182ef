import EditorPane.Session
import EditorPane.Proofs.Buffer.Effect
import EditorPane.Proofs.Buffer.Repaint
import EditorPane.Proofs.Schedule.Queue

/-!
# Runs of a session

A run is recorded as a list of events, one for each command, with the time on the clock when it was
given and its reply. The commands are those of the session itself; polling or disarming its
scheduler behind its back is not among them. As far as passes are concerned, such a command does
one of four things, listed by `Transition`.

## Main definitions

* `Event`, `events` — the record of a run.
* `mutationTimes` — when the mutations of a run came.
* `Transition` — what a command comes to.

## Main results

* `transition` — every command of the session is one of the transitions.
* `calls_run` — how often a run calls the parser.
-/

namespace EditorPane.Session

variable {σ : Type}

/-! ## Replies and commands -/

/-- The report of the pass that was run, if one was. -/
def Reply.report? : Reply → Option PassReport
  | .passed report => some report
  | .ticked _ report => report
  | _ => none

/-- A mutation was recorded. -/
def Reply.isMutation : Reply → Bool
  | .mutated _ _ => true
  | _ => false

/-- The command is the session's own and leaves its scheduler to it. -/
def Command.isOwn : Command → Bool
  | .poll | .disarm => false
  | _ => true

/-- The command is the session's own and leaves it to the schedule when to run a pass. -/
def Command.isScheduled : Command → Bool
  | .poll | .disarm | .highlight => false
  | _ => true

/-- The time for which a tick given at time `clock` fires the callbacks. -/
def Command.tickTime? (clock : Nat) : Command → Option Nat
  | .tick => some clock
  | .tickAt time => some time
  | _ => none

theorem Command.isOwn_of_isScheduled {c : Command} (h : c.isScheduled = true) :
    c.isOwn = true := by
  cases c <;> simp_all [isScheduled, isOwn]

/-! ## Events -/

/-- A command of a run, given when the clock showed `clock`, and its reply. -/
structure Event where
  clock : Nat
  command : Command
  reply : Reply
  deriving DecidableEq, Repr

/-- The time for which the command fires the callbacks if it is a tick. -/
def Event.tickTime? (e : Event) : Option Nat := e.command.tickTime? e.clock

/-- The events of a run. -/
def events (s : Session σ) : List Command → List Event
  | [] => []
  | c :: rest => ⟨s.scheduler.now, c, (s.step c).1⟩ :: (s.step c).2.events rest

@[simp] theorem events_nil (s : Session σ) : s.events [] = [] := rfl

theorem events_append (s : Session σ) (first second : List Command) :
    s.events (first ++ second) = s.events first ++ (s.run first).events second := by
  induction first generalizing s with
  | nil => rfl
  | cons c rest ih => rw [List.cons_append, events, ih, events, List.cons_append, run_cons]

theorem events_concat (s : Session σ) (commands : List Command) (c : Command) :
    s.events (commands ++ [c])
      = s.events commands ++ [⟨(s.run commands).scheduler.now, c, ((s.run commands).step c).1⟩] :=
  events_append s commands [c]

theorem run_concat (s : Session σ) (commands : List Command) (c : Command) :
    s.run (commands ++ [c]) = ((s.run commands).step c).2 :=
  run_append s commands [c]

theorem mem_events_concat (s : Session σ) (commands : List Command) (c : Command) :
    ⟨(s.run commands).scheduler.now, c, ((s.run commands).step c).1⟩
      ∈ s.events (commands ++ [c]) := by
  rw [events_concat]
  exact List.mem_append_right _ (List.mem_singleton_self _)

/-- An event of a run is that of a command which came after the commands of the events before. -/
theorem events_eq_append_cons {s : Session σ} {commands : List Command}
    {early late : List Event} {e : Event} (h : s.events commands = early ++ e :: late) :
    ∃ before c after, commands = before ++ c :: after ∧ s.events before = early ∧
      e = ⟨(s.run before).scheduler.now, c, ((s.run before).step c).1⟩ := by
  induction early generalizing s commands with
  | nil =>
    cases commands with
    | nil => cases h
    | cons c after =>
      rw [events, List.nil_append, List.cons.injEq] at h
      exact ⟨[], c, after, rfl, rfl, h.1.symm⟩
  | cons f early ih =>
    cases commands with
    | nil => cases h
    | cons d commands =>
      rw [events, List.cons_append, List.cons.injEq] at h
      obtain ⟨before, c, after, hcommands, hevents, he⟩ := ih h.2
      exact ⟨d :: before, c, after, by rw [hcommands]; rfl, by rw [events, h.1, hevents], he⟩

/-- The times of the mutations among the events. -/
def mutationTimes (es : List Event) : List Nat :=
  (es.filter fun e => e.reply.isMutation).map Event.clock

theorem mutationTimes_append (es fs : List Event) :
    mutationTimes (es ++ fs) = mutationTimes es ++ mutationTimes fs := by
  simp [mutationTimes]

theorem mutationTimes_singleton (e : Event) :
    mutationTimes [e] = if e.reply.isMutation then [e.clock] else [] := by
  cases h : e.reply.isMutation <;> simp [mutationTimes, h]

/-! ## Passes -/

@[simp] theorem scheduler_pass (s : Session σ) : s.pass.2.scheduler = s.scheduler.disarm := rfl

@[simp] theorem lastPainted_pass (s : Session σ) :
    s.pass.2.lastPainted = some s.scheduler.generation := rfl

@[simp] theorem painter_pass (s : Session σ) :
    s.pass.2.painter = (s.painter.paint s.buffer.text).2 := rfl

theorem buffer_pass (s : Session σ) :
    s.pass.2.buffer = (ErrorSurface.tagErrors (s.buffer.repaint s.pass.1.painted.commands).2
      s.pass.1.painted.errors).2 := rfl

/-- A pass changes neither the text nor the window. -/
theorem sameView_pass (s : Session σ) : s.pass.2.buffer.SameView s.buffer := by
  rw [buffer_pass]
  exact (Buffer.SameView.tagErrors _ _).trans (Buffer.SameView.repaint _ _)

@[simp] theorem document_pass (s : Session σ) :
    s.pass.2.buffer.document = s.buffer.document := s.sameView_pass.document

theorem tickAt_of_winner_none {s : Session σ} {time : Nat}
    (h : (s.scheduler.pollAt time).1.winner = none) :
    s.tickAt time
      = (((s.scheduler.pollAt time).1, none),
          { s with scheduler := (s.scheduler.pollAt time).2 }) := by
  simp only [tickAt, h]

/-- A tick with a winner runs a pass; what else it took off the queue makes no difference. -/
theorem tickAt_of_winner_some {s : Session σ} {time : Nat} {g : Generation}
    (h : (s.scheduler.pollAt time).1.winner = some g) :
    ∃ report, s.tickAt time = (((s.scheduler.pollAt time).1, some report), s.pass.2) ∧
      report.generation = s.pass.1.generation ∧ report.painted = s.pass.1.painted := by
  refine ⟨({ s with scheduler := (s.scheduler.pollAt time).2 } : Session σ).pass.1, ?_, rfl, rfl⟩
  simp only [tickAt, h]
  rfl

/-! ## Transitions -/

/-- What a command comes to: nothing but for the clock, a mutation, a tick without a winner, or a
pass. -/
inductive Transition (s : Session σ) (c : Command) (r : Reply) (t : Session σ) : Prop where
  | still (time : Nat) (noReport : r.report? = none) (noMutation : r.isMutation = false)
      (noTick : c.tickTime? s.scheduler.now = none)
      (scheduler : t.scheduler = s.scheduler.advance time)
      (document : t.buffer.document = s.buffer.document)
      (painter : t.painter = s.painter) (lastPainted : t.lastPainted = s.lastPainted)
  | mutation (noReport : r.report? = none) (isMutation : r.isMutation = true)
      (noTick : c.tickTime? s.scheduler.now = none)
      (scheduler : t.scheduler = s.scheduler.notify)
      (painter : t.painter = s.painter) (lastPainted : t.lastPainted = s.lastPainted)
  | discard (time : Nat) (noReport : r.report? = none) (noMutation : r.isMutation = false)
      (tick : c.tickTime? s.scheduler.now = some time)
      (noWinner : (s.scheduler.pollAt time).1.winner = none)
      (state : t = { s with scheduler := (s.scheduler.pollAt time).2 })
  | pass (report : PassReport) (isReport : r.report? = some report)
      (noMutation : r.isMutation = false)
      (cause : c = .highlight ∨ ∃ time g, c.tickTime? s.scheduler.now = some time ∧
        (s.scheduler.pollAt time).1.winner = some g)
      (generation : report.generation = s.scheduler.generation)
      (painted : report.painted = (s.painter.paint s.buffer.text).1)
      (state : t = s.pass.2)

theorem transition_edit (s : Session σ) (c : Buffer.Command) :
    Transition s (.edit c) (s.step (.edit c)).1 (s.step (.edit c)).2 := by
  simp only [step, edit]
  cases hrun : s.buffer.run? c with
  | error e => exact .still 0 rfl rfl rfl rfl rfl rfl rfl
  | ok result =>
    obtain ⟨event, b⟩ := result
    cases event with
    | none => exact .still 0 rfl rfl rfl rfl (Buffer.document_of_run?_none hrun) rfl rfl
    | some event => exact .mutation rfl rfl rfl rfl rfl rfl

theorem transition_tickAt (s : Session σ) {c : Command} {time : Nat}
    (htime : c.tickTime? s.scheduler.now = some time)
    (hstep : s.step c = (.ticked (s.tickAt time).1.1 (s.tickAt time).1.2, (s.tickAt time).2)) :
    Transition s c (s.step c).1 (s.step c).2 := by
  rw [hstep]
  cases hwin : (s.scheduler.pollAt time).1.winner with
  | none =>
    rw [tickAt_of_winner_none hwin]
    exact .discard time rfl rfl htime hwin rfl
  | some g =>
    obtain ⟨report, htick, hgeneration, hpainted⟩ := tickAt_of_winner_some hwin
    rw [htick]
    exact .pass report rfl rfl (.inr ⟨time, g, htime, hwin⟩) hgeneration hpainted rfl

/-- Every command of the session is one of the transitions. -/
theorem transition (s : Session σ) {c : Command} (h : c.isOwn = true) :
    Transition s c (s.step c).1 (s.step c).2 := by
  cases c with
  | edit c => exact transition_edit s c
  | notify => exact .mutation rfl rfl rfl rfl rfl rfl
  | advance time => exact .still time rfl rfl rfl rfl rfl rfl rfl
  | poll | disarm => cases h
  | tick => exact transition_tickAt s rfl rfl
  | tickAt time => exact transition_tickAt s rfl rfl
  | highlight => exact .pass _ rfl rfl (.inl rfl) rfl rfl rfl
  | scrollTo | resize | reposition | pointerEnter | pointerLeave | subscribe =>
    exact .still 0 rfl rfl rfl rfl rfl rfl rfl

/-- A command that answers with a report has run a pass, and done nothing else. -/
theorem step_of_report {s : Session σ} {c : Command}
    (h : (s.step c).1.report?.isSome = true) : (s.step c).2 = s.pass.2 := by
  have hown : c.isOwn = true := by
    cases c with
    | poll | disarm => cases h
    | _ => rfl
  cases s.transition hown with
  | pass _ _ _ _ _ _ state => exact state
  | still _ noReport | mutation noReport | discard _ noReport =>
    rw [noReport] at h
    cases h

/-- A command that answers without a report leaves the parser alone. -/
theorem painter_step_of_no_report {s : Session σ} {c : Command} (h : (s.step c).1.report? = none) :
    (s.step c).2.painter = s.painter := by
  cases hown : c.isOwn with
  | true =>
    cases s.transition hown with
    | still _ _ _ _ _ _ painter => exact painter
    | mutation _ _ _ _ painter => exact painter
    | discard _ _ _ _ _ state => rw [state]
    | pass _ isReport =>
      rw [isReport] at h
      cases h
  | false =>
    cases c with
    | poll | disarm => rfl
    | _ => cases hown

/-- No tick is a mutation. -/
theorem tickTime?_of_isMutation {s : Session σ} {c : Command} (hc : c.isOwn = true)
    (h : (s.step c).1.isMutation = true) : c.tickTime? s.scheduler.now = none := by
  cases s.transition hc with
  | mutation _ _ noTick => exact noTick
  | still _ _ noMutation | discard _ _ noMutation | pass _ _ noMutation =>
    rw [noMutation] at h
    cases h

/-! ## Along a run -/

/-- In a run the parser is called once for each report, and not otherwise. -/
theorem calls_run (s : Session σ) {calls : σ → Nat} (h : s.painter.parser.Counts calls)
    (commands : List Command) :
    calls (s.run commands).painter.parser.memory
      = calls s.painter.parser.memory
        + (s.events commands).countP fun e => e.reply.report?.isSome := by
  induction commands generalizing s with
  | nil => rfl
  | cons c rest ih =>
    rw [run_cons, events, List.countP_cons]
    cases hreport : (s.step c).1.report? with
    | none =>
      have hpainter := painter_step_of_no_report hreport
      rw [ih _ (hpainter ▸ h), hpainter]
      simp
    | some report =>
      have hpass : (s.step c).2 = s.pass.2 := step_of_report (by rw [hreport]; rfl)
      have hcalls := s.painter.calls_paint h s.buffer.text
      rw [hpass, ih s.pass.2 h, painter_pass, hcalls]
      simp only [Option.isSome_some, if_true]
      omega

theorem quiet_step (s : Session σ) {c : Command} (hc : c.isOwn = true) :
    (s.step c).2.scheduler.quiet = s.scheduler.quiet := by
  cases s.transition hc with
  | still time _ _ _ scheduler => rw [scheduler]; rfl
  | mutation _ _ _ scheduler => rw [scheduler]; rfl
  | discard time _ _ _ _ state => rw [state]; rfl
  | pass _ _ _ _ _ _ state => rw [state]; rfl

theorem quiet_run (s : Session σ) {commands : List Command}
    (hown : ∀ d ∈ commands, d.isOwn = true) :
    (s.run commands).scheduler.quiet = s.scheduler.quiet := by
  induction commands generalizing s with
  | nil => rfl
  | cons d rest ih =>
    rw [run_cons, ih _ fun e he => hown e (List.mem_cons_of_mem d he)]
    exact quiet_step s (hown d List.mem_cons_self)

end EditorPane.Session
