import EditorPane.Proofs.Session.Events
import Mathlib.Data.List.DropRight

/-!
# No lost edit, no needless pass

A session is stale while mutations wait for a pass. The three things it goes by, the generation,
the queue and the generation last painted, agree in every state that its own commands lead to: the
generation has moved on from the painted one once for each mutation since the last pass, and the
newest of the callbacks these mutations armed is still in the queue.

## Main definitions

* `sinceLastPass`, `unpainted` — the events after the last pass, and the mutations among them.

## Main results

* `owes_run` — a session owes a pass for its unpainted mutations and no others.
* `pass_follows_every_mutation` — nothing runs while the session is not stale, and a stale one keeps
  the callback that will run its pass.
-/

namespace EditorPane.Session

variable {σ : Type}

/-- The events after the last pass, or all of them if there was none. -/
def sinceLastPass (es : List Event) : List Event :=
  es.rtakeWhile fun e => e.reply.report?.isNone

/-- The times of the mutations that no pass has covered. -/
def unpainted (es : List Event) : List Nat := mutationTimes (sinceLastPass es)

theorem unpainted_concat_of_report {es : List Event} {e : Event} {report : PassReport}
    (h : e.reply.report? = some report) : unpainted (es ++ [e]) = [] := by
  rw [unpainted, sinceLastPass, List.rtakeWhile_concat_neg _ _ _ (by simp [h])]
  rfl

theorem unpainted_concat_of_no_report {es : List Event} {e : Event}
    (h : e.reply.report? = none) : unpainted (es ++ [e]) = unpainted es ++ mutationTimes [e] := by
  rw [unpainted, sinceLastPass, List.rtakeWhile_concat_pos _ _ _ (by simp [h]),
    mutationTimes_append]
  rfl

theorem length_unpainted_le (es : List Event) :
    (unpainted es).length ≤ (mutationTimes es).length := by
  have hsub : (sinceLastPass es).Sublist es := (List.rtakeWhile_suffix _ _).sublist
  exact ((hsub.filter _).map _).length_le

/-! ## What is owed -/

theorem owes_step {s : Session σ} {c : Command} {es : List Event} (hc : c.isOwn = true)
    (h : s.scheduler.Owes (s.lastPainted.getD default) (unpainted es)) :
    (s.step c).2.scheduler.Owes ((s.step c).2.lastPainted.getD default)
      (unpainted (es ++ [⟨s.scheduler.now, c, (s.step c).1⟩])) := by
  cases s.transition hc with
  | still time noReport noMutation _ scheduler _ _ lastPainted =>
    rw [unpainted_concat_of_no_report noReport, mutationTimes_singleton, noMutation, scheduler,
      lastPainted]
    simpa using h.advance time
  | mutation noReport isMutation _ scheduler _ lastPainted =>
    rw [unpainted_concat_of_no_report noReport, mutationTimes_singleton, isMutation, scheduler,
      lastPainted]
    exact h.notify
  | discard time noReport noMutation _ noWinner state =>
    rw [unpainted_concat_of_no_report noReport, mutationTimes_singleton, noMutation, state]
    simpa using h.pollAt noWinner
  | pass report isReport _ _ _ _ state =>
    rw [unpainted_concat_of_report isReport, state]
    exact Scheduler.owes_nil rfl

/-- A session owes a pass for its unpainted mutations, counted from the generation last painted or
else from the first one. -/
theorem owes_run (b : Buffer) (p : Parser σ) (c : Config) {commands : List Command}
    (hown : ∀ d ∈ commands, d.isOwn = true) :
    ((start b p c).run commands).scheduler.Owes
      (((start b p c).run commands).lastPainted.getD default)
      (unpainted ((start b p c).events commands)) := by
  induction commands using List.reverseRecOn with
  | nil => exact Scheduler.owes_nil rfl
  | append_singleton before d ih =>
    rw [run_concat, events_concat]
    exact owes_step (hown d (by simp)) (ih fun e he => hown e (by simp [he]))

/-! ## Staleness -/

section

variable {s : Session σ} {times : List Nat}

theorem isStale_of_owes {last : Nat}
    (h : s.scheduler.Owes (s.lastPainted.getD default) (times ++ [last]))
    (hfew : times.length + 1 < 2 ^ 96) : s.isStale = true := by
  cases hpainted : s.lastPainted with
  | none => simp [isStale, hpainted]
  | some g =>
    rw [hpainted] at h
    have hne : s.scheduler.generation ≠ g := by
      rw [h.generation_eq, List.length_append]
      exact Generation.iterate_next_ne_self (Nat.succ_pos _) hfew
    simp [isStale, hpainted, Ne.symm hne]

theorem eq_nil_of_not_isStale (h : s.scheduler.Owes (s.lastPainted.getD default) times)
    (hfew : times.length < 2 ^ 96) (hstale : s.isStale = false) : times = [] := by
  rcases List.eq_nil_or_concat times with rfl | ⟨earlier, last, rfl⟩
  · rfl
  · rw [List.concat_eq_append] at h hfew
    rw [List.length_append] at hfew
    rw [isStale_of_owes h hfew] at hstale
    cases hstale

/-- Where nothing is owed, a tick changes nothing, whatever its time; no text is parsed. -/
theorem tickAt_of_owes_nil (h : s.scheduler.Owes (s.lastPainted.getD default) []) (time : Nat) :
    s.tickAt time = ((⟨[], none⟩, none), s) := by
  have hpoll := h.pollAt_nil time
  rw [tickAt_of_winner_none (by rw [hpoll]), hpoll]

/-- Where a pass is owed, a tick runs it from one quiet interval after the last mutation on. -/
theorem tickAt_of_owes {last time : Nat}
    (h : s.scheduler.Owes (s.lastPainted.getD default) (times ++ [last]))
    (hfew : times.length + 1 < 2 ^ 96) (htime : last + s.scheduler.quiet ≤ time) :
    ∃ report, (s.tickAt time).1.2 = some report ∧ report.generation = s.scheduler.generation ∧
      report.painted = (s.painter.paint s.buffer.text).1 := by
  have hwin := h.winner_pollAt hfew time
  rw [if_pos htime] at hwin
  obtain ⟨report, htick, hgeneration, hpainted⟩ := tickAt_of_winner_some hwin
  exact ⟨report, by rw [htick], hgeneration, hpainted⟩

end

/-- Right after a pass, whatever command ran it, the session is not stale and nothing is armed. -/
theorem settled_of_report {s : Session σ} {c : Command} {report : PassReport}
    (h : (s.step c).1.report? = some report) :
    (s.step c).2.isStale = false ∧ (s.step c).2.scheduler.armed = [] := by
  rw [step_of_report (by rw [h]; rfl)]
  exact ⟨by simp [isStale, Scheduler.disarm], rfl⟩

theorem step_edit_refused {s : Session σ} {c : Buffer.Command} {e : BufferError}
    (h : (s.step (.edit c)).1 = .refused e) : (s.step (.edit c)).2 = s := by
  simp only [step] at h ⊢
  split at h
  · rfl
  · cases h
  · cases h

/-- Let a session's own commands have led to some state, with fewer mutations than there are
generations. If it is not stale, nothing is armed and ticks change nothing at all. If mutations came
since the last pass, it is stale, and the newest callback is armed for the current generation one
quiet interval after the last of them, so that from then on every tick runs a pass. A pass leaves
nothing stale or armed, and a refused edit leaves everything as it was. -/
theorem pass_follows_every_mutation (b : Buffer) (p : Parser σ) (c : Config)
    (commands : List Command) (hown : ∀ d ∈ commands, d.isOwn = true)
    (hfew : (mutationTimes ((start b p c).events commands)).length < 2 ^ 96) :
    let s := (start b p c).run commands
    (s.isStale = false →
      s.scheduler.armed = [] ∧ ∀ time, s.tickAt time = ((⟨[], none⟩, none), s)) ∧
    (∀ last, (unpainted ((start b p c).events commands)).getLast? = some last →
      s.isStale = true ∧
      s.scheduler.armed.getLast? = some ⟨last + c.quiet, s.scheduler.generation⟩ ∧
      ∀ time, last + c.quiet ≤ time → ∃ report, (s.tickAt time).1.2 = some report ∧
        report.generation = s.scheduler.generation ∧
        report.painted = (s.painter.paint s.buffer.text).1) ∧
    (∀ d report, (s.step d).1.report? = some report →
      (s.step d).2.isStale = false ∧ (s.step d).2.scheduler.armed = []) ∧
    ∀ d e, (s.step (.edit d)).1 = .refused e → (s.step (.edit d)).2 = s := by
  intro s
  have howes := owes_run b p c hown
  have hquiet : s.scheduler.quiet = c.quiet := quiet_run (start b p c) hown
  have hshort := (length_unpainted_le _).trans_lt hfew
  refine ⟨?_, ?_, fun d report h => settled_of_report h, fun d e h => step_edit_refused h⟩
  · intro hstale
    rw [eq_nil_of_not_isStale howes hshort hstale] at howes
    exact ⟨howes.armed_eq_nil, tickAt_of_owes_nil howes⟩
  · intro last hlast
    obtain ⟨earlier, htimes⟩ := List.getLast?_eq_some_iff.1 hlast
    rw [htimes, List.length_append] at hshort
    rw [htimes] at howes
    refine ⟨isStale_of_owes howes hshort, ?_, fun time htime => ?_⟩
    · rw [← hquiet]
      exact howes.getLast?_armed
    · exact tickAt_of_owes howes hshort (hquiet ▸ htime)

/-- Two edits after a pass, with a refused one and an early tick in between. -/
theorem pass_follows_two_edits :
    let s := start (.ofText ['a', 'b'] 2) (.ofFunction fun _ => .ok ⟨none, [], []⟩) default
    let commands : List Command :=
      [.edit (.insert ⟨1, 2⟩ ['\n', '"']), .advance 1000, .tick, .edit (.insert ⟨2, 1⟩ ['c']),
        .advance 400, .edit (.insert ⟨9, 0⟩ ['d']), .tick, .edit (.delete (.between ⟨1, 0⟩ ⟨1, 1⟩)),
        .scrollTo 2 0]
    (∀ d ∈ commands, d.isOwn = true) ∧ (mutationTimes (s.events commands)).length < 2 ^ 96 ∧
      unpainted (s.events commands) = [1000, 1400] ∧
      (s.run commands).isStale = true ∧
      ∀ time, 2400 ≤ time → ∃ report, ((s.run commands).tickAt time).1.2 = some report ∧
        report.generation = ⟨0, 3⟩ := by
  intro s commands
  have hown : ∀ d ∈ commands, d.isOwn = true := by decide
  have hfew : (mutationTimes (s.events commands)).length < 2 ^ 96 := by decide +kernel
  have htimes : unpainted (s.events commands) = [1000, 1400] := by decide +kernel
  have hthird : (s.run commands).scheduler.generation = ⟨0, 3⟩ := by decide +kernel
  have hlast : (unpainted (s.events commands)).getLast? = some 1400 := by rw [htimes]; rfl
  have hquiet : (default : Config).quiet = 1000 := rfl
  have hall := pass_follows_every_mutation _ _ _ commands hown hfew
  rw [show start _ _ _ = s from rfl] at hall
  obtain ⟨hstale, -, htick⟩ := hall.2.1 1400 hlast
  refine ⟨hown, hfew, htimes, hstale, fun time htime => ?_⟩
  obtain ⟨report, hreport, hgeneration, -⟩ := htick time (by omega)
  exact ⟨report, hreport, hgeneration.trans hthird⟩

end EditorPane.Session
