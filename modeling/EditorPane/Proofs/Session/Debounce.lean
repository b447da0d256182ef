import EditorPane.Proofs.Session.Events
import Mathlib.Data.List.Chain

/-!
# One pass for a burst

Mutations that follow each other by less than the quiet interval make one burst. The argument has
two halves. Up to the last mutation every callback that comes due is superseded, because a tick that
is not ahead of the clock comes less than a quiet interval after the newest mutation. From then on
the text and the generation rest, and the first tick that reaches the newest callback runs the pass.

## Main definitions

* `Burst` — commands whose mutations follow each other closely.
* `Event.isDue` — a tick for a given time or later.

## Main results

* `burst_runs_one_pass` — a burst is covered by one pass, run by the first tick from one quiet
  interval after its last mutation on.
* `calls_run_of_burst` — the parser is called for that pass only.
-/

namespace EditorPane.Session

variable {σ : Type}

/-- The command is a tick for time `due` or later. -/
def Event.isDue (due : Nat) (e : Event) : Bool := e.tickTime?.any (due ≤ ·)

/-- The commands leave passes to the schedule, their ticks are not ahead of the clock, and each
mutation comes less than a quiet interval after the one before it. -/
structure Burst (s : Session σ) (commands : List Command) : Prop where
  scheduled : ∀ c ∈ commands, c.isScheduled = true
  onClock : ∀ e ∈ s.events commands, ∀ time ∈ e.tickTime?, time ≤ e.clock
  gaps : (mutationTimes (s.events commands)).IsChain fun t u => u < t + s.scheduler.quiet
  few : (mutationTimes (s.events commands)).length < 2 ^ 96

variable {s u v : Session σ} {c : Command}

theorem Burst.left {commands : List Command} (h : s.Burst (commands ++ [c])) :
    s.Burst commands := by
  obtain ⟨scheduled, onClock, gaps, few⟩ := h
  rw [events_concat] at onClock gaps few
  rw [mutationTimes_append] at gaps few
  rw [List.length_append] at few
  exact ⟨fun d hd => scheduled d (List.mem_append_left _ hd),
    fun e he => onClock e (List.mem_append_left _ he), gaps.left_of_append, by omega⟩

theorem now_le_now_step (s : Session σ) (hc : c.isOwn = true) :
    s.scheduler.now ≤ (s.step c).2.scheduler.now := by
  cases s.transition hc with
  | still time _ _ _ scheduler => rw [scheduler]; exact Nat.le_add_right _ _
  | mutation _ _ _ scheduler => rw [scheduler]; exact Nat.le_refl _
  | discard time _ _ _ _ state => rw [state]; exact Nat.le_refl _
  | pass _ _ _ _ _ _ state => rw [state]; exact Nat.le_refl _

/-! ## Up to the last mutation -/

/-- The events `es` led from `s` to `t` without a pass. -/
structure Held (s t : Session σ) (es : List Event) : Prop where
  owes : t.scheduler.Owes s.scheduler.generation (mutationTimes es)
  quiet : t.scheduler.quiet = s.scheduler.quiet
  painter : t.painter = s.painter
  noReport : ∀ e ∈ es, e.reply.report? = none

theorem held_step {es : List Event} (h : Held s u es) (hc : c.isScheduled = true)
    (hnone : ∀ time, c.tickTime? u.scheduler.now = some time →
      (u.scheduler.pollAt time).1.winner = none) :
    Held s (u.step c).2 (es ++ [⟨u.scheduler.now, c, (u.step c).1⟩]) := by
  have hown := Command.isOwn_of_isScheduled hc
  have hquiet := (quiet_step u hown).trans h.quiet
  have hreport (r : Reply) (hr : r.report? = none) :
      ∀ e ∈ es ++ [⟨u.scheduler.now, c, r⟩], e.reply.report? = none := by
    intro e he
    rcases List.mem_append.1 he with he | he
    · exact h.noReport e he
    · rw [List.mem_singleton.1 he]
      exact hr
  cases u.transition hown with
  | still time noReport noMutation _ scheduler _ painter =>
    refine ⟨?_, hquiet, painter.trans h.painter, hreport _ noReport⟩
    rw [mutationTimes_append, mutationTimes_singleton, noMutation, scheduler]
    simpa using h.owes.advance time
  | mutation noReport isMutation _ scheduler painter =>
    refine ⟨?_, hquiet, painter.trans h.painter, hreport _ noReport⟩
    rw [mutationTimes_append, mutationTimes_singleton, isMutation, scheduler]
    exact h.owes.notify
  | discard time noReport noMutation _ noWinner state =>
    refine ⟨?_, hquiet, state ▸ h.painter, hreport _ noReport⟩
    rw [mutationTimes_append, mutationTimes_singleton, noMutation, state]
    simpa using h.owes.pollAt noWinner
  | pass report _ _ cause =>
    rcases cause with rfl | ⟨time, g, htime, hwin⟩
    · cases hc
    · rw [hnone time htime] at hwin
      cases hwin

/-- As long as the clock has not reached the quiet interval's end, a burst runs no pass. -/
theorem Burst.held (hidle : s.scheduler.armed = []) {commands : List Command}
    (h : s.Burst commands)
    (hopen : ∀ last, (mutationTimes (s.events commands)).getLast? = some last →
      (s.run commands).scheduler.now < last + s.scheduler.quiet) :
    Held s (s.run commands) (s.events commands) := by
  induction commands using List.reverseRecOn with
  | nil => exact ⟨Scheduler.owes_nil hidle, rfl, rfl, fun _ he => absurd he List.not_mem_nil⟩
  | append_singleton before c ih =>
    have hc := h.scheduled c (by simp)
    have hgaps := h.gaps
    rw [events_concat, mutationTimes_append, mutationTimes_singleton] at hgaps hopen
    rw [run_concat] at hopen
    -- the clock was still within the interval before `c`: a mutation follows closely, and
    -- anything else leaves the last mutation as it is
    have hbefore : ∀ last, (mutationTimes (s.events before)).getLast? = some last →
        (s.run before).scheduler.now < last + s.scheduler.quiet := by
      intro last hlast
      cases hmut : ((s.run before).step c).1.isMutation with
      | true =>
        simp only [hmut, if_true] at hgaps
        exact (List.isChain_append.1 hgaps).2.2 last hlast _ rfl
      | false =>
        simp only [hmut, Bool.false_eq_true, if_false, List.append_nil] at hopen
        exact (now_le_now_step _ (Command.isOwn_of_isScheduled hc)).trans_lt (hopen last hlast)
    have held := ih h.left hbefore
    rw [run_concat, events_concat]
    refine held_step held hc fun time htime => ?_
    have hclock : time ≤ (s.run before).scheduler.now :=
      h.onClock _ (mem_events_concat s before c) time htime
    refine held.owes.winner_pollAt_eq_none h.left.few fun last hlast => ?_
    rw [held.quiet]
    exact hclock.trans_lt (hbefore last hlast)

/-- The last mutation of a burst arms the callback that the pass is owed to. -/
theorem Burst.held_last (hidle : s.scheduler.armed = []) {burst : List Command}
    (h : s.Burst (burst ++ [c])) (hlast : ((s.run burst).step c).1.isMutation = true) :
    Held s (s.run (burst ++ [c])) (s.events (burst ++ [c])) ∧
      mutationTimes (s.events (burst ++ [c]))
        = mutationTimes (s.events burst) ++ [(s.run burst).scheduler.now] := by
  have hc := h.scheduled c (by simp)
  have htimes : mutationTimes (s.events (burst ++ [c]))
      = mutationTimes (s.events burst) ++ [(s.run burst).scheduler.now] := by
    rw [events_concat, mutationTimes_append, mutationTimes_singleton, if_pos hlast]
  have hgaps := h.gaps
  rw [htimes, List.isChain_append] at hgaps
  have held := h.left.held hidle fun last hl => hgaps.2.2 last hl _ rfl
  refine ⟨?_, htimes⟩
  rw [run_concat, events_concat]
  refine held_step held hc fun time htime => ?_
  rw [tickTime?_of_isMutation (Command.isOwn_of_isScheduled hc) hlast] at htime
  cases htime

/-! ## After the last mutation -/

/-- From `u`, which owed a pass for mutations at `times` and at last `m` since generation `g`, the
text has rested up to `v`. The flag tells whether a tick has come due since. -/
structure Rested (u : Session σ) (g : Generation) (times : List Nat) (m : Nat) (v : Session σ)
    (reached : Bool) : Prop where
  document : v.buffer.document = u.buffer.document
  quiet : v.scheduler.quiet = u.scheduler.quiet
  waiting : reached = false → v.scheduler.Owes g (times ++ [m]) ∧ v.painter = u.painter
  settled : reached = true →
    v.scheduler.armed = [] ∧ v.painter = (u.painter.paint u.buffer.text).2

section

variable {g : Generation} {times : List Nat} {m : Nat} {reached : Bool}

/-- The first tick that comes due runs a pass over the rested text, and nothing else does. -/
theorem rested_step (h : Rested u g times m v reached) (hc : c.isScheduled = true)
    (hmut : (v.step c).1.isMutation = false) (hfew : times.length + 1 < 2 ^ 96) :
    let e : Event := ⟨v.scheduler.now, c, (v.step c).1⟩
    Rested u g times m (v.step c).2 (reached || e.isDue (m + u.scheduler.quiet)) ∧
    (e.reply.report?.isSome = true ↔
      reached = false ∧ e.isDue (m + u.scheduler.quiet) = true) ∧
    ∀ report, e.reply.report? = some report →
      report.generation = Generation.next^[times.length + 1] g ∧
      report.painted = (u.painter.paint u.buffer.text).1 := by
  intro e
  have hquiet := (quiet_step v (Command.isOwn_of_isScheduled hc)).trans h.quiet
  have hidle (hr : reached = true) (time : Nat) :
      v.scheduler.pollAt time = (⟨[], none⟩, v.scheduler) :=
    (Scheduler.owes_nil (h.settled hr).1).pollAt_nil time
  have hwinner (hr : reached = false) (time : Nat) :
      (v.scheduler.pollAt time).1.winner
        = if m + u.scheduler.quiet ≤ time then some v.scheduler.generation else none := by
    rw [(h.waiting hr).1.winner_pollAt hfew, h.quiet]
  cases v.transition (Command.isOwn_of_isScheduled hc) with
  | still time noReport _ noTick scheduler document painter =>
    have hdue : e.isDue (m + u.scheduler.quiet) = false := by
      simp [e, Event.isDue, Event.tickTime?, noTick]
    rw [hdue, Bool.or_false]
    refine ⟨⟨document.trans h.document, hquiet, fun hr => ?_, fun hr => ?_⟩, ?_, ?_⟩
    · rw [scheduler, painter]
      exact ⟨(h.waiting hr).1.advance time, (h.waiting hr).2⟩
    · rw [scheduler, painter]
      exact h.settled hr
    · simp [e, noReport]
    · simp [e, noReport]
  | mutation _ isMutation =>
    rw [isMutation] at hmut
    cases hmut
  | discard time noReport _ tick noWinner state =>
    have hdue : e.isDue (m + u.scheduler.quiet) = decide (m + u.scheduler.quiet ≤ time) := by
      simp [e, Event.isDue, Event.tickTime?, tick]
    -- while the pass is owed, a tick without a winner cannot have been due
    have hearly (hr : reached = false) : ¬ m + u.scheduler.quiet ≤ time := by
      intro hle
      rw [hwinner hr, if_pos hle] at noWinner
      cases noWinner
    refine ⟨⟨state ▸ h.document, hquiet, fun hr => ?_, fun hr => ?_⟩, ?_, ?_⟩
    · have hr := (Bool.or_eq_false_iff.1 hr).1
      rw [state]
      exact ⟨(h.waiting hr).1.pollAt noWinner, (h.waiting hr).2⟩
    · cases hreached : reached with
      | false => simp [hreached, hdue, hearly hreached] at hr
      | true =>
        rw [state, hidle hreached]
        exact h.settled hreached
    · rw [hdue, show e.reply.report? = none from noReport]
      constructor
      · intro hsome
        cases hsome
      · rintro ⟨hr, hle⟩
        exact absurd (of_decide_eq_true hle) (hearly hr)
    · simp [e, noReport]
  | pass report isReport _ cause generation painted state =>
    rcases cause with rfl | ⟨time, g', htime, hwin⟩
    · cases hc
    have hr : reached = false := by
      cases hreached : reached with
      | false => rfl
      | true =>
        rw [hidle hreached] at hwin
        cases hwin
    have hdue : e.isDue (m + u.scheduler.quiet) = true := by
      rw [hwinner hr] at hwin
      split at hwin
      · next hle => simpa [e, Event.isDue, Event.tickTime?, htime] using hle
      · cases hwin
    have howes := (h.waiting hr).1
    have hpainter := (h.waiting hr).2
    have htext : v.buffer.text = u.buffer.text := congrArg Document.text h.document
    refine ⟨⟨?_, hquiet, fun hfalse => ?_, fun _ => ?_⟩, by simp [e, isReport, hr, hdue], ?_⟩
    · rw [state, document_pass, h.document]
    · simp [hdue] at hfalse
    · rw [state, painter_pass, hpainter, htext]
      exact ⟨rfl, rfl⟩
    · intro report' hreport
      simp only [e, isReport, Option.some.injEq] at hreport
      rw [← hreport, generation, painted, howes.generation_eq, hpainter, htext,
        List.length_append]
      exact ⟨rfl, rfl⟩

theorem rested_run (howes : u.scheduler.Owes g (times ++ [m])) (hfew : times.length + 1 < 2 ^ 96)
    {rest : List Command} (hrest : ∀ c ∈ rest, c.isScheduled = true)
    (hmut : ∀ e ∈ u.events rest, e.reply.isMutation = false) :
    Rested u g times m (u.run rest)
      ((u.events rest).any (Event.isDue (m + u.scheduler.quiet))) := by
  induction rest using List.reverseRecOn with
  | nil => exact ⟨rfl, rfl, fun _ => ⟨howes, rfl⟩, fun h => by cases h⟩
  | append_singleton before c ih =>
    have hlast := hmut _ (mem_events_concat u before c)
    rw [events_concat] at hmut ⊢
    rw [run_concat, List.any_append, List.any_cons, List.any_nil, Bool.or_false]
    have hbefore := ih (fun d hd => hrest d (by simp [hd])) fun e he => hmut e (by simp [he])
    exact (rested_step hbefore (hrest c (by simp)) hlast hfew).1

end

/-! ## The burst and what follows it -/

section

variable {burst rest : List Command} {last : Command} (hidle : s.scheduler.armed = [])
  (hburst : s.Burst (burst ++ [last])) (hlast : ((s.run burst).step last).1.isMutation = true)
  (hrest : ∀ c ∈ rest, c.isScheduled = true)
  (hmut : ∀ e ∈ (s.run (burst ++ [last])).events rest, e.reply.isMutation = false)

include hidle hburst hlast hrest hmut

theorem rested_of_burst :
    let u := s.run (burst ++ [last])
    Rested u s.scheduler.generation (mutationTimes (s.events burst)) (s.run burst).scheduler.now
      (u.run rest)
      ((u.events rest).any (Event.isDue ((s.run burst).scheduler.now + s.scheduler.quiet))) := by
  intro u
  obtain ⟨held, htimes⟩ := hburst.held_last hidle hlast
  have howes := held.owes
  have hfew := hburst.few
  rw [htimes] at howes hfew
  rw [List.length_append] at hfew
  rw [← held.quiet]
  exact rested_run howes hfew hrest hmut

/-- Once a tick has come due, the painter has painted the rested text. Before that it has painted
nothing. -/
theorem painter_run_of_burst :
    let u := s.run (burst ++ [last])
    (u.run rest).painter
      = if (u.events rest).any (Event.isDue ((s.run burst).scheduler.now + s.scheduler.quiet))
        then (s.painter.paint u.buffer.text).2 else s.painter := by
  intro u
  have held := (hburst.held_last hidle hlast).1
  have hend := rested_of_burst hidle hburst hlast hrest hmut
  split
  · next hdue => rw [(hend.settled hdue).2, held.painter]
  · next hearly => rw [(hend.waiting (Bool.eq_false_of_not_eq_true hearly)).2, held.painter]

end

/-- Let nothing be armed, and let a burst end in its last mutation. No tick up to that mutation runs
a pass. After it, while no further mutation comes, exactly the first tick for a time at least one
quiet interval later runs one, whatever else happens in between: for the generation that as many
mutations lead to, over the text that the last one left. The parser, which may keep count of its
calls, is called for that pass and not otherwise. -/
theorem burst_runs_one_pass (s : Session σ) (burst rest : List Command) (last : Command)
    (hidle : s.scheduler.armed = []) (hburst : s.Burst (burst ++ [last]))
    (hlast : ((s.run burst).step last).1.isMutation = true)
    (hrest : ∀ c ∈ rest, c.isScheduled = true)
    (hmut : ∀ e ∈ (s.run (burst ++ [last])).events rest, e.reply.isMutation = false) :
    let u := s.run (burst ++ [last])
    let due := (s.run burst).scheduler.now + s.scheduler.quiet
    let count := (mutationTimes (s.events (burst ++ [last]))).length
    (∀ e ∈ s.events (burst ++ [last]), e.reply.report? = none) ∧
    (∀ early e late, u.events rest = early ++ e :: late →
      (e.reply.report?.isSome = true ↔
        e.isDue due = true ∧ ∀ f ∈ early, f.isDue due = false)) ∧
    (∀ e ∈ u.events rest, ∀ report, e.reply.report? = some report →
      report.generation = Generation.next^[count] s.scheduler.generation ∧
      report.painted = (s.painter.paint u.buffer.text).1) ∧
    (u.run rest).painter
      = if (u.events rest).any (Event.isDue due) then (s.painter.paint u.buffer.text).2
        else s.painter := by
  intro u due count
  obtain ⟨held, htimes⟩ := hburst.held_last hidle hlast
  have hcount : count = (mutationTimes (s.events burst)).length + 1 := by
    simp only [count, htimes, List.length_append, List.length_singleton]
  have hfew := hburst.few
  rw [htimes, List.length_append] at hfew
  have hdue : (s.run burst).scheduler.now + u.scheduler.quiet = due := by
    rw [show u.scheduler.quiet = s.scheduler.quiet from held.quiet]
  -- what holds when a command of `rest` is given, from the commands before it
  have hstep (early late : List Event) (e : Event) (hsplit : u.events rest = early ++ e :: late) :
      (e.reply.report?.isSome = true ↔ early.any (Event.isDue due) = false ∧ e.isDue due = true) ∧
      ∀ report, e.reply.report? = some report →
        report.generation = Generation.next^[count] s.scheduler.generation ∧
        report.painted = (s.painter.paint u.buffer.text).1 := by
    obtain ⟨before, c, after, hcommands, hearly, he⟩ := events_eq_append_cons hsplit
    have hscheduled : ∀ d ∈ before, d.isScheduled = true :=
      fun d hd => hrest d (by simp [hcommands, hd])
    have hresting : ∀ f ∈ u.events before, f.reply.isMutation = false := by
      intro f hf
      refine hmut f ?_
      rw [hsplit, ← hearly]
      exact List.mem_append_left _ hf
    have hbefore := rested_of_burst hidle hburst hlast hscheduled hresting
    have hquiet := hmut e (by rw [hsplit]; simp)
    rw [he] at hquiet ⊢
    have hnext := (rested_step hbefore (hrest c (by simp [hcommands])) hquiet hfew).2
    rw [hearly, hdue] at hnext
    rw [hcount, ← held.painter]
    exact hnext
  refine ⟨held.noReport, ?_, ?_, painter_run_of_burst hidle hburst hlast hrest hmut⟩
  · intro early e late hsplit
    rw [(hstep early late e hsplit).1, List.any_eq_false, and_comm]
    simp only [Bool.not_eq_true]
  · intro e he report hreport
    obtain ⟨early, late, hsplit⟩ := List.append_of_mem he
    exact (hstep early late e hsplit).2 report hreport

/-- Three mutations, the last two at one time, with ticks, a refused edit and scrolling among them;
the pass comes with the third tick after them. -/
theorem burst_of_three_runs_one_pass :
    let s := (start (.ofText ['a', 'b'] 2) (.ofFunction fun _ => .ok ⟨none, [], []⟩) default).run
      [.notify, .highlight]
    let burst : List Command :=
      [.tick, .edit (.insert ⟨1, 2⟩ ['c']), .advance 999, .tick, .edit (.insert ⟨7, 0⟩ ['d']),
        .notify, .tickAt 300]
    let last : Command := .edit (.delete (.between ⟨1, 0⟩ ⟨1, 1⟩))
    let rest : List Command := [.tick, .advance 999, .tick, .scrollTo 2 0, .advance 1, .tick, .tick]
    s.scheduler.armed = [] ∧ s.Burst (burst ++ [last]) ∧
      ((s.run burst).step last).1.isMutation = true ∧
      (∀ c ∈ rest, c.isScheduled = true) ∧
      (∀ e ∈ (s.run (burst ++ [last])).events rest, e.reply.isMutation = false) ∧
      ∀ e ∈ (s.run (burst ++ [last])).events rest, ∀ report, e.reply.report? = some report →
        report.generation = ⟨0, 4⟩ := by
  intro s burst last rest
  have hidle : s.scheduler.armed = [] := rfl
  have hburst : s.Burst (burst ++ [last]) :=
    ⟨by decide, by decide +kernel, by decide +kernel, by decide +kernel⟩
  have hlast : ((s.run burst).step last).1.isMutation = true := by decide +kernel
  have hrest : ∀ c ∈ rest, c.isScheduled = true := by decide
  have hmut : ∀ e ∈ (s.run (burst ++ [last])).events rest, e.reply.isMutation = false := by
    decide +kernel
  have hall := burst_runs_one_pass s burst rest last hidle hburst hlast hrest hmut
  have hfourth : Generation.next^[(mutationTimes (s.events (burst ++ [last]))).length]
      s.scheduler.generation = ⟨0, 4⟩ := by decide +kernel
  refine ⟨hidle, hburst, hlast, hrest, hmut, fun e he report hreport => ?_⟩
  exact (hall.2.2.1 e he report hreport).1.trans hfourth

/-- A parser that counts its calls has counted one more after the pass of a burst, and none before
it. -/
theorem calls_run_of_burst {burst rest : List Command} {last : Command} {calls : σ → Nat}
    (hcalls : s.painter.parser.Counts calls) (hidle : s.scheduler.armed = [])
    (hburst : s.Burst (burst ++ [last])) (hlast : ((s.run burst).step last).1.isMutation = true)
    (hrest : ∀ c ∈ rest, c.isScheduled = true)
    (hmut : ∀ e ∈ (s.run (burst ++ [last])).events rest, e.reply.isMutation = false) :
    let u := s.run (burst ++ [last])
    calls (u.run rest).painter.parser.memory = calls s.painter.parser.memory +
      if (u.events rest).any (Event.isDue ((s.run burst).scheduler.now + s.scheduler.quiet))
      then 1 else 0 := by
  intro u
  rw [painter_run_of_burst hidle hburst hlast hrest hmut]
  split
  · exact s.painter.calls_paint hcalls _
  · rfl

example : ((start (.ofText ['a'] 2) ⟨fun n _ => (.ok ⟨none, [], []⟩, n + 1), 0⟩ default).run
    [.notify, .advance 999, .tick, .notify, .advance 1000, .tick, .tick]).painter.parser.memory
      = 1 := by
  decide +kernel

end EditorPane.Session
