import EditorPane.Proofs.Schedule.History
import Mathlib.Order.Bounds.Basic

/-!
# Sleeping until the deadline

A host that has nothing else to do sleeps until the next deadline and polls then. It misses nothing:
the queue holds the live callbacks in the order of their notifications, which is also the order in
which they come due, since the clock never goes back. So its front comes due first, a poll before
that finds nothing, and a poll takes off the queue what has come due and nothing else.

## Main definitions

* `HoldsLive` — what the queue holds after the events of a run.

## Main results

* `nextDeadline_eq_some_iff` — the deadline of an ordered queue.
* `pollAt_of_lt_nextDeadline` — polls before the deadline.
* `queue_holds_live_callbacks` — the queue after any run.
-/

namespace EditorPane.Scheduler

variable {s : Scheduler} {time : Nat}

/-- An event leaves a callback in the queue if it neither disarms nor polls for the time at which
the callback comes due or a later one. -/
theorem Event.drops_eq_false_iff {e : Event} {due : Nat} : e.drops due = false ↔
    e.command ≠ .disarm ∧ ∀ time, e.pollTime? = some time → time < due := by
  rw [drops, Bool.or_eq_false_iff, decide_eq_false_iff_not]
  cases e.pollTime? <;> simp

/-! ## The deadline -/

theorem nextDeadline_eq_none_iff : s.nextDeadline = none ↔ s.armed = [] := by
  rw [nextDeadline, Option.map_eq_none_iff, List.head?_eq_none_iff]

/-- The front of an ordered queue comes due first. -/
theorem nextDeadline_eq_some_iff (h : s.armed.Pairwise fun a b => a.due ≤ b.due) :
    s.nextDeadline = some time ↔ IsLeast {due | ∃ a ∈ s.armed, a.due = due} time := by
  rw [nextDeadline]
  cases harmed : s.armed with
  | nil => simp [IsLeast]
  | cons a rest =>
    rw [harmed, List.pairwise_cons] at h
    have hfirst : IsLeast {due | ∃ b ∈ a :: rest, b.due = due} a.due := by
      refine ⟨⟨a, List.mem_cons_self, rfl⟩, ?_⟩
      rintro _ ⟨b, hb, rfl⟩
      rcases List.mem_cons.1 hb with rfl | hb
      · exact Nat.le_refl _
      · exact h.1 b hb
    rw [List.head?_cons, Option.map_some, Option.some.injEq]
    exact ⟨fun heq => heq ▸ hfirst, hfirst.unique⟩

/-! ## Polls -/

/-- A poll before the deadline finds nothing, whatever the queue holds. -/
theorem pollAt_of_lt_nextDeadline
    (h : ∀ deadline, s.nextDeadline = some deadline → time < deadline) :
    s.pollAt time = (⟨[], none⟩, s) := by
  obtain ⟨generation, armed, quiet, now⟩ := s
  cases armed with
  | nil => rfl
  | cons a rest =>
    have hnotDue : ¬ a.due ≤ time := Nat.not_le_of_lt (h a.due rfl)
    simp [pollAt, outcome, hnotDue]

/-- A poll takes what has come due off an ordered queue and leaves the rest as it is. -/
theorem armed_pollAt_eq_filter (h : s.armed.Pairwise fun a b => a.due ≤ b.due) (time : Nat) :
    (s.pollAt time).2.armed = s.armed.filter fun a => time < a.due := by
  rw [armed_pollAt, (takeWhile_due_eq_filter h time).2]
  simp only [← Nat.not_le, decide_not]

/-! ## After a run -/

/-- The queue holds what the events leave live, and the deadline and the polls go by that. -/
structure HoldsLive (quiet : Nat) (es : List Event) (s : Scheduler) : Prop where
  armed_eq : s.armed = live quiet es
  /-- A callback is live if its notification is followed neither by a disarming nor by a poll for
  the time at which it comes due or a later one. -/
  mem_armed_iff : ∀ a, a ∈ s.armed ↔ ∃ early n since, es = early ++ n :: since ∧
    n.isNotify = true ∧ a = ⟨n.clock + quiet, n.generation⟩ ∧
    ∀ e ∈ since, e.command ≠ .disarm ∧ ∀ time, e.pollTime? = some time → time < a.due
  ordered : s.armed.Pairwise fun a b => a.due ≤ b.due
  pending_eq : s.pending = (live quiet es).length
  nextDeadline_eq_none : s.nextDeadline = none ↔ live quiet es = []
  isLeast_nextDeadline : ∀ time, s.nextDeadline = some time ↔
    IsLeast {due | ∃ a ∈ live quiet es, a.due = due} time
  pollAt_early : ∀ time, (∀ deadline, s.nextDeadline = some deadline → time < deadline) →
    s.pollAt time = (⟨[], none⟩, s)
  armed_pollAt : ∀ time, (s.pollAt time).2.armed = (live quiet es).filter fun a => time < a.due
  lt_due_pollAt : ∀ time, ∀ a ∈ (s.pollAt time).2.armed, time < a.due

/-- A recorded queue holds the callbacks whose notifications nothing has undone since. -/
theorem Recorded.mem_armed_iff {g : Generation} {quiet : Nat} {es : List Event}
    (h : Recorded g quiet es s) {a : Armed} : a ∈ s.armed ↔
      ∃ early n since, es = early ++ n :: since ∧ n.isNotify = true ∧
        a = ⟨n.clock + quiet, n.generation⟩ ∧
        ∀ e ∈ since, e.command ≠ .disarm ∧ ∀ time, e.pollTime? = some time → time < a.due := by
  simp only [h.armed_eq, mem_live, Event.armed?_eq_some, and_assoc, Event.drops_eq_false_iff]

/-- Let nothing be armed at first. After any notifications, advances of the clock, disarmings and
polls for any times, the queue holds the live callbacks in the order of their notifications: those
that no disarming and no poll for their time or later has followed. They come due in that order. So
the next deadline is the time at which the first of them comes due, a poll before it changes
nothing, and a poll leaves those in the queue that come due after its time. -/
theorem queue_holds_live_callbacks (g : Generation) (quiet now : Nat) (commands : List Command) :
    HoldsLive quiet (events ⟨g, [], quiet, now⟩ commands)
      (after ⟨g, [], quiet, now⟩ commands) := by
  have h := recorded_after g quiet now commands
  exact {
    armed_eq := h.armed_eq
    mem_armed_iff := fun _ => h.mem_armed_iff
    ordered := h.ordered
    pending_eq := congrArg List.length h.armed_eq
    nextDeadline_eq_none := h.armed_eq ▸ nextDeadline_eq_none_iff
    isLeast_nextDeadline := fun _ => h.armed_eq ▸ nextDeadline_eq_some_iff h.ordered
    pollAt_early := fun _ => pollAt_of_lt_nextDeadline
    armed_pollAt := fun time => h.armed_eq ▸ armed_pollAt_eq_filter h.ordered time
    lt_due_pollAt := fun time a ha => by
      rw [armed_pollAt_eq_filter h.ordered] at ha
      exact of_decide_eq_true (List.mem_filter.1 ha).2 }

/-- Of four callbacks one is disarmed and one has come due. The host may sleep until the third comes
due, and the fourth stays when it does. -/
theorem queue_holds_live_callbacks_of_last_two :
    let s : Scheduler := ⟨⟨0, 7⟩, [], 1000, 0⟩
    let commands : List Command :=
      [.notify, .disarm, .notify, .advance 400, .notify, .advance 300, .notify, .pollAt 1000]
    live 1000 (s.events commands) = [⟨1400, ⟨0, 10⟩⟩, ⟨1700, ⟨0, 11⟩⟩] ∧
      (s.after commands).nextDeadline = some 1400 ∧
      (s.after commands).pollAt 1399 = (⟨[], none⟩, s.after commands) ∧
      ((s.after commands).pollAt 1400).2.armed = [⟨1700, ⟨0, 11⟩⟩] := by
  intro s commands
  have hqueue := queue_holds_live_callbacks ⟨0, 7⟩ 1000 0 commands
  have hlive : live 1000 (s.events commands) = [⟨1400, ⟨0, 10⟩⟩, ⟨1700, ⟨0, 11⟩⟩] := by
    decide +kernel
  have hdeadline : (s.after commands).nextDeadline = some 1400 := by decide +kernel
  refine ⟨hlive, hdeadline, hqueue.pollAt_early 1399 fun deadline h => ?_, ?_⟩
  · cases hdeadline.symm.trans h
    decide
  · rw [hqueue.armed_pollAt 1400, show live 1000 _ = _ from hlive]
    rfl

end EditorPane.Scheduler
