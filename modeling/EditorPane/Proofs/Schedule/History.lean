import EditorPane.Proofs.Schedule.Queue

/-!
# The queue as its history tells it

A run of a scheduler is recorded as a list of events, one for each command. The record alone says
which callbacks are live: those that no disarming and no poll for their time or later has followed.
The queue holds the live callbacks and no others, ordered by the times at which they come due. Their
generations are told apart, so of all polls exactly those win that reach the callback of the last
notification while it is live.

## Main definitions

* `Event`, `events`, `after` — the record of a run, and where the run leads.
* `live` — the callbacks that a record leaves live.
* `Recorded` — a state is what a record says.

## Main results

* `recorded_after` — every run leads to the state that its record tells.
* `winner_pollAt_after_iff` — what the record has to hold for a poll to have a winner.
* `poll_wins_iff_last_is_live` — the same for all polls of a run.
-/

namespace EditorPane.Scheduler

/-! ## The record of a run -/

/-- The time for which the command fires callbacks when the clock shows `clock`. -/
def Command.pollTime? (clock : Nat) : Command → Option Nat
  | .poll => some clock
  | .pollAt time => some time
  | _ => none

/-- A command of a run, given when the clock showed `clock`, with the generation it left as the
current one and what firing came to if it was a poll. -/
structure Event where
  clock : Nat
  command : Command
  generation : Generation
  result : Option PollResult
  deriving DecidableEq, Repr

namespace Event

/-- A mutation was recorded; the generation is then its token. -/
def isNotify (e : Event) : Bool := e.command = .notify

/-- The time for which the event fired callbacks if it was a poll. -/
def pollTime? (e : Event) : Option Nat := e.command.pollTime? e.clock

/-- The generation that won, if the event was a poll and one did. -/
def winner? (e : Event) : Option Generation := e.result.bind PollResult.winner

/-- The event takes a callback that comes due at `due` off the queue: it disarms, or it polls for
that time or a later one. -/
def drops (due : Nat) (e : Event) : Bool := e.command = .disarm || e.pollTime?.any (due ≤ ·)

/-- The callback that the event arms. -/
def armed? (quiet : Nat) (e : Event) : Option Armed :=
  if e.isNotify then some ⟨e.clock + quiet, e.generation⟩ else none

theorem armed?_eq_some {e : Event} {quiet : Nat} {a : Armed} :
    e.armed? quiet = some a ↔ e.isNotify = true ∧ a = ⟨e.clock + quiet, e.generation⟩ := by
  rw [armed?, Option.ite_none_right_eq_some, Option.some.injEq, eq_comm (a := a)]

theorem isNotify_of_pollTime? {e : Event} {time : Nat} (h : e.pollTime? = some time) :
    e.isNotify = false := by
  obtain ⟨clock, command, generation, result⟩ := e
  cases command <;> simp_all [pollTime?, Command.pollTime?, isNotify]

end Event

/-- The event of a command. -/
def eventOf (s : Scheduler) (c : Command) : Event := ⟨s.now, c, (s.run c).generation, s.result? c⟩

/-- The scheduler after a list of commands. -/
def after (s : Scheduler) (commands : List Command) : Scheduler := commands.foldl run s

/-- The events of a run. -/
def events (s : Scheduler) : List Command → List Event
  | [] => []
  | c :: rest => s.eventOf c :: (s.run c).events rest

theorem after_concat (s : Scheduler) (commands : List Command) (c : Command) :
    s.after (commands ++ [c]) = (s.after commands).run c :=
  List.foldl_append

theorem events_concat (s : Scheduler) (commands : List Command) (c : Command) :
    s.events (commands ++ [c]) = s.events commands ++ [(s.after commands).eventOf c] := by
  induction commands generalizing s with
  | nil => rfl
  | cons d rest ih =>
    rw [List.cons_append, events, ih]
    rfl

/-- An event of a run is that of a command given after the commands of the events before. -/
theorem events_eq_append_cons {s : Scheduler} {commands : List Command} {early late : List Event}
    {e : Event} (h : s.events commands = early ++ e :: late) :
    ∃ before c rest, commands = before ++ c :: rest ∧ s.events before = early ∧
      e = (s.after before).eventOf c := by
  induction commands generalizing s early with
  | nil => simp [events] at h
  | cons c rest ih =>
    rw [events] at h
    cases early with
    | nil =>
      obtain ⟨he, -⟩ := List.cons.inj h
      exact ⟨[], c, rest, rfl, rfl, he.symm⟩
    | cons f early =>
      obtain ⟨rfl, hrest⟩ := List.cons.inj h
      obtain ⟨before, d, last, rfl, rfl, rfl⟩ := ih hrest
      exact ⟨c :: before, d, last, rfl, rfl, rfl⟩

/-! ## Live callbacks -/

/-- The callbacks that the events have armed and no later one has taken off the queue. -/
def live (quiet : Nat) : List Event → List Armed
  | [] => []
  | e :: later =>
    (e.armed? quiet).toList.filter (fun a => later.all fun f => !f.drops a.due) ++ live quiet later

theorem live_append (quiet : Nat) (es fs : List Event) :
    live quiet (es ++ fs)
      = (live quiet es).filter (fun a => fs.all fun f => !f.drops a.due) ++ live quiet fs := by
  induction es with
  | nil => rfl
  | cons e later ih =>
    simp only [List.cons_append, live, ih, List.filter_append, List.filter_filter, List.all_append,
      List.append_assoc]
    simp only [Bool.and_comm]

/-- A live callback goes back to a notification that nothing has taken off the queue since. -/
theorem mem_live {quiet : Nat} {es : List Event} {a : Armed} : a ∈ live quiet es ↔
    ∃ early n since, es = early ++ n :: since ∧ n.armed? quiet = some a ∧
      ∀ f ∈ since, f.drops a.due = false := by
  constructor
  · intro h
    induction es with
    | nil => cases h
    | cons e later ih =>
      rw [live, List.mem_append] at h
      rcases h with h | h
      · obtain ⟨harmed, hlater⟩ := List.mem_filter.1 h
        exact ⟨[], e, later, rfl, Option.mem_toList.1 harmed, by simpa using hlater⟩
      · obtain ⟨early, n, since, rfl, harmed, hsince⟩ := ih h
        exact ⟨e :: early, n, since, rfl, harmed, hsince⟩
  · rintro ⟨early, n, since, rfl, harmed, hsince⟩
    rw [live_append, live, harmed]
    simpa using .inr (.inl hsince)

/-! ## Polling an ordered queue -/

/-- Where the entries that pass a test come first, taking them off the front finds them all. -/
theorem takeWhile_dropWhile_eq_filter {α : Type} {p : α → Bool} {l : List α}
    (h : l.Pairwise fun x y => p y = true → p x = true) :
    l.takeWhile p = l.filter p ∧ l.dropWhile p = l.filter (fun x => !p x) := by
  induction h with
  | nil => exact ⟨rfl, rfl⟩
  | @cons x rest hx _ ih =>
    by_cases hp : p x = true
    · simp [hp, ih]
    · have hnone : ∀ y ∈ rest, p y = false := by
        intro y hy
        exact Bool.eq_false_iff.2 fun hy' => hp (hx y hy hy')
      have hnil : rest.filter p = [] := List.filter_eq_nil_iff.2 (by simpa using hnone)
      have hself : rest.filter (fun y => !p y) = rest :=
        List.filter_eq_self.2 (by simpa using hnone)
      simp [hp, hnil, hself]

variable {s : Scheduler} {time : Nat}

theorem takeWhile_due_eq_filter (h : s.armed.Pairwise fun a b => a.due ≤ b.due) (time : Nat) :
    s.armed.takeWhile (·.due ≤ time) = s.armed.filter (·.due ≤ time) ∧
      s.armed.dropWhile (·.due ≤ time) = s.armed.filter fun a => !decide (a.due ≤ time) := by
  refine takeWhile_dropWhile_eq_filter (h.imp fun {a b} hab => ?_)
  simp only [decide_eq_true_eq]
  exact hab.trans

/-- A poll of an ordered queue has a winner if a callback for the current generation is due. -/
theorem winner_pollAt_eq_some_iff (h : s.armed.Pairwise fun a b => a.due ≤ b.due)
    {g : Generation} : (s.pollAt time).1.winner = some g ↔
      g = s.generation ∧ ∃ a ∈ s.armed, a.due ≤ time ∧ a.token = s.generation := by
  simp only [pollAt, outcome, (takeWhile_due_eq_filter h time).1]
  constructor
  · intro hwin
    obtain ⟨a, ha, rfl⟩ := Option.map_eq_some_iff.1 hwin
    have hmem := List.mem_of_getLast? ha
    simp only [List.mem_filter, decide_eq_true_eq, fire] at hmem
    exact ⟨hmem.2, a, hmem.1.1, hmem.1.2, hmem.2⟩
  · rintro ⟨rfl, a, ha, hdue, htoken⟩
    have hmem : a ∈ (s.armed.filter (·.due ≤ time)).filter fun a => s.fire a.token := by
      simp [ha, hdue, htoken, fire]
    have hlast := List.getLast?_eq_some_getLast (List.ne_nil_of_mem hmem)
    have hfire := (List.mem_filter.1 (List.mem_of_getLast? hlast)).2
    rw [hlast, Option.map_some, Option.some.injEq]
    exact of_decide_eq_true hfire

/-! ## A state and its record -/

/-- The state is what the events say, if the generation before them was `g` and nothing was armed:
each notification has moved the generation on, and the queue holds the live callbacks, ordered by
the times at which they come due. -/
structure Recorded (g : Generation) (quiet : Nat) (es : List Event) (s : Scheduler) : Prop where
  quiet_eq : s.quiet = quiet
  generation_eq : s.generation = Generation.next^[es.countP Event.isNotify] g
  armed_eq : s.armed = live quiet es
  ordered : s.armed.Pairwise fun a b => a.due ≤ b.due
  due_le : ∀ a ∈ s.armed, a.due ≤ s.now + quiet

namespace Recorded

variable {g : Generation} {quiet : Nat} {es : List Event}

theorem nil (g : Generation) (quiet now : Nat) : Recorded g quiet [] ⟨g, [], quiet, now⟩ :=
  ⟨rfl, rfl, rfl, .nil, by simp⟩

/-- Taking callbacks off the queue is in the record as well. -/
theorem of_filter (h : Recorded g quiet es s) {e : Event} {t : Scheduler}
    (hnotify : e.isNotify = false) (hquiet : t.quiet = s.quiet)
    (hgeneration : t.generation = s.generation) (hnow : s.now ≤ t.now)
    (harmed : t.armed = s.armed.filter fun a => !e.drops a.due) :
    Recorded g quiet (es ++ [e]) t where
  quiet_eq := hquiet.trans h.quiet_eq
  generation_eq := by
    rw [hgeneration, h.generation_eq, List.countP_append, List.countP_singleton, hnotify]
    rfl
  armed_eq := by
    rw [harmed, h.armed_eq, live_append]
    simp [live, Event.armed?, hnotify]
  ordered := harmed ▸ h.ordered.filter _
  due_le := by
    intro a ha
    rw [harmed] at ha
    have := h.due_le a (List.mem_of_mem_filter ha)
    omega

theorem notify (h : Recorded g quiet es s) :
    Recorded g quiet (es ++ [s.eventOf .notify]) s.notify where
  quiet_eq := h.quiet_eq
  generation_eq := by
    rw [generation_notify, h.generation_eq, List.countP_append]
    exact (Function.iterate_succ_apply' Generation.next _ g).symm
  armed_eq := by
    have hkeep : ∀ a ∈ live quiet es, ([s.eventOf .notify].all fun f => !f.drops a.due) = true :=
      fun _ _ => rfl
    rw [live_append, List.filter_eq_self.2 hkeep, ← h.armed_eq, ← h.quiet_eq]
    rfl
  ordered := by
    refine List.pairwise_append.2 ⟨h.ordered, List.pairwise_singleton _ _, ?_⟩
    intro a ha b hb
    rw [List.mem_singleton.1 hb, h.quiet_eq]
    exact h.due_le a ha
  due_le := by
    intro a ha
    rcases List.mem_append.1 ha with ha | ha
    · exact h.due_le a ha
    · rw [List.mem_singleton.1 ha, h.quiet_eq]
      exact Nat.le_refl _

theorem pollAt (h : Recorded g quiet es s) {e : Event} {time : Nat}
    (he : e.pollTime? = some time) (hnot : e.command ≠ .disarm) :
    Recorded g quiet (es ++ [e]) (s.pollAt time).2 := by
  refine h.of_filter (Event.isNotify_of_pollTime? he) rfl rfl (Nat.le_refl _) ?_
  rw [armed_pollAt, (takeWhile_due_eq_filter h.ordered time).2]
  simp [Event.drops, he, hnot]

/-- What one command does is what its event says. -/
theorem step (h : Recorded g quiet es s) (c : Command) :
    Recorded g quiet (es ++ [s.eventOf c]) (s.run c) := by
  cases c with
  | notify => exact h.notify
  | advance time =>
    refine h.of_filter rfl rfl rfl (Nat.le_add_right _ _) ?_
    exact (List.filter_eq_self.2 fun _ _ => rfl).symm
  | disarm =>
    refine h.of_filter rfl rfl rfl (Nat.le_refl _) ?_
    exact (List.filter_eq_nil_iff.2 fun _ _ => by simp [Event.drops, eventOf]).symm
  | poll => exact h.pollAt rfl (by simp [eventOf])
  | pollAt time => exact h.pollAt rfl (by simp [eventOf])

end Recorded

theorem recorded_after (g : Generation) (quiet now : Nat) (commands : List Command) :
    Recorded g quiet (events ⟨g, [], quiet, now⟩ commands)
      (after ⟨g, [], quiet, now⟩ commands) := by
  induction commands using List.reverseRecOn with
  | nil => exact .nil g quiet now
  | append_singleton before c ih =>
    rw [events_concat, after_concat]
    exact ih.step c

/-! ## Who wins -/

theorem result_eventOf {c : Command} {time : Nat} (h : (s.eventOf c).pollTime? = some time) :
    (s.eventOf c).result = some (s.pollAt time).1 := by
  cases c <;> cases h <;> rfl

/-- A poll leaves the generation as it is. -/
theorem generation_eventOf {c : Command} {time : Nat} (h : (s.eventOf c).pollTime? = some time) :
    (s.eventOf c).generation = s.generation := by
  cases c <;> cases h <;> rfl

theorem winner?_eventOf {c : Command} {w : Generation} (h : (s.eventOf c).winner? = some w) :
    ∃ time, (s.eventOf c).pollTime? = some time ∧ (s.pollAt time).1.winner = some w := by
  cases c with
  | notify | advance | disarm => cases h
  | poll => exact ⟨s.now, rfl, h⟩
  | pollAt time => exact ⟨time, rfl, h⟩

/-- A list has only one last entry that passes a test. -/
theorem last_unique {α : Type} {p : α → Bool} {before since before' since' : List α} {x y : α}
    (h : before ++ x :: since = before' ++ y :: since') (hx : p x = true) (hy : p y = true)
    (hsince : ∀ z ∈ since, p z = false) (hsince' : ∀ z ∈ since', p z = false) :
    x = y ∧ since = since' := by
  rcases List.append_eq_append_iff.1 h with ⟨mid, -, hmid⟩ | ⟨mid, -, hmid⟩ <;> cases mid <;> grind

/-- The notification `n` is the last among the events, and none after it has taken its callback off
the queue. -/
def IsLiveLast (quiet : Nat) (es : List Event) (n : Event) : Prop :=
  ∃ before since, es = before ++ n :: since ∧ n.isNotify = true ∧
    (∀ e ∈ since, e.isNotify = false) ∧ ∀ e ∈ since, e.drops (n.clock + quiet) = false

section

variable {g w : Generation} {quiet now : Nat} {commands : List Command} {es : List Event}

/-- The generation that an event leaves counts the notifications up to it. -/
theorem generation_of_events_eq {early late : List Event} {e : Event}
    (h : events ⟨g, [], quiet, now⟩ commands = early ++ e :: late) :
    e.generation = Generation.next^[(early ++ [e]).countP Event.isNotify] g := by
  obtain ⟨before, c, rest, -, rfl, rfl⟩ := events_eq_append_cons h
  have hrecorded := (recorded_after g quiet now before).step c
  exact hrecorded.generation_eq

/-- The generation that an event leaves is current until the next notification. -/
theorem generation_eq_after_iff {early late : List Event} {e : Event}
    (h : events ⟨g, [], quiet, now⟩ commands = early ++ e :: late)
    (hfew : (events ⟨g, [], quiet, now⟩ commands).countP Event.isNotify < 2 ^ 96) :
    e.generation = (after ⟨g, [], quiet, now⟩ commands).generation ↔
      ∀ f ∈ late, f.isNotify = false := by
  have hcount : (events ⟨g, [], quiet, now⟩ commands).countP Event.isNotify
      = (early ++ [e]).countP Event.isNotify + late.countP Event.isNotify := by
    rw [h, List.append_cons, List.countP_append]
  rw [generation_of_events_eq h, (recorded_after g quiet now commands).generation_eq, hcount]
  rw [hcount] at hfew
  constructor
  · intro heq
    have hsame := Generation.iterate_next_injective (by omega) hfew heq
    have hzero : late.countP Event.isNotify = 0 := by omega
    simpa using List.countP_eq_zero.1 hzero
  · intro hlate
    have hzero : late.countP Event.isNotify = 0 := List.countP_eq_zero.2 (by simpa using hlate)
    rw [hzero, Nat.add_zero]

/-- A poll wins exactly if it comes for the callback of the last notification while that is live. -/
theorem winner_pollAt_after_iff {time : Nat}
    (hfew : (events ⟨g, [], quiet, now⟩ commands).countP Event.isNotify < 2 ^ 96) :
    ((after ⟨g, [], quiet, now⟩ commands).pollAt time).1.winner = some w ↔
      ∃ n, IsLiveLast quiet (events ⟨g, [], quiet, now⟩ commands) n ∧ n.clock + quiet ≤ time ∧
        w = n.generation := by
  have h := recorded_after g quiet now commands
  rw [winner_pollAt_eq_some_iff h.ordered, h.armed_eq]
  constructor
  · rintro ⟨rfl, a, ha, hdue, htoken⟩
    obtain ⟨before, n, since, hes, harmed, hsince⟩ := mem_live.1 ha
    obtain ⟨hn, rfl⟩ := Event.armed?_eq_some.1 harmed
    have hlast := (generation_eq_after_iff hes hfew).1 htoken
    exact ⟨n, ⟨before, since, hes, hn, hlast, hsince⟩, hdue, htoken.symm⟩
  · rintro ⟨n, ⟨before, since, hes, hn, hlast, hsince⟩, hdue, rfl⟩
    have htoken := (generation_eq_after_iff hes hfew).2 hlast
    refine ⟨htoken, ⟨n.clock + quiet, n.generation⟩, ?_, hdue, htoken⟩
    exact mem_live.2 ⟨before, n, since, hes, Event.armed?_eq_some.2 ⟨hn, rfl⟩, hsince⟩

/-- A generation that has won a poll wins no later one: the poll took its callback off the queue. -/
theorem winner_pollAt_after_ne {time : Nat}
    (hfew : (events ⟨g, [], quiet, now⟩ commands).countP Event.isNotify < 2 ^ 96) {e : Event}
    (he : e ∈ events ⟨g, [], quiet, now⟩ commands) (hwinner : e.winner? = some w) :
    ((after ⟨g, [], quiet, now⟩ commands).pollAt time).1.winner ≠ some w := by
  intro hagain
  obtain ⟨early, late, hes⟩ := List.append_of_mem he
  obtain ⟨before, c, rest, -, hearly, rfl⟩ := events_eq_append_cons hes
  obtain ⟨polled, hpolled, hwin⟩ := winner?_eventOf hwinner
  have hfewer : (events ⟨g, [], quiet, now⟩ before).countP Event.isNotify < 2 ^ 96 := by
    rw [hes, List.countP_append, ← hearly] at hfew
    omega
  obtain ⟨n, ⟨first, since, hfirst, hn, hlast, hsince⟩, hdue, rfl⟩ :=
    (winner_pollAt_after_iff hfewer).1 hwin
  obtain ⟨m, ⟨first', since', hfirst', hm, hlast', hsince'⟩, -, hmn⟩ :=
    (winner_pollAt_after_iff hfew).1 hagain
  -- The notification of the first win still left the current generation, so it is the last one now.
  rw [hearly] at hfirst
  have hsplit := hes
  rw [hfirst, List.append_assoc, List.cons_append] at hsplit
  have hcurrent := (generation_eq_after_iff hfirst' hfew).2 hlast'
  have hlate := (generation_eq_after_iff hsplit hfew).1 (hmn.trans hcurrent)
  obtain ⟨rfl, rfl⟩ := last_unique (hfirst'.symm.trans hsplit) hm hn hlast' hlate
  have hkept := hsince' _ (List.mem_append_right since List.mem_cons_self)
  simp [Event.drops, hpolled, hdue] at hkept

theorem nodup_winners
    (hfew : (events ⟨g, [], quiet, now⟩ commands).countP Event.isNotify < 2 ^ 96) :
    ((events ⟨g, [], quiet, now⟩ commands).filterMap Event.winner?).Nodup := by
  induction commands using List.reverseRecOn with
  | nil => exact List.nodup_nil
  | append_singleton before c ih =>
    rw [events_concat, List.countP_append] at hfew
    rw [events_concat, List.filterMap_append, List.nodup_append]
    have hfewer := (Nat.le_add_right _ _).trans_lt hfew
    refine ⟨ih hfewer, ?_, ?_⟩
    · rw [List.filterMap_cons]
      split <;> simp
    · intro w hw w' hw' heq
      obtain ⟨e, he, hwinner⟩ := List.mem_filterMap.1 hw
      have hlast : (eventOf (after ⟨g, [], quiet, now⟩ before) c).winner? = some w' := by
        simpa using hw'
      obtain ⟨time, -, hwin⟩ := winner?_eventOf hlast
      exact winner_pollAt_after_ne hfewer he hwinner (heq ▸ hwin)

end

/-- Let nothing be armed at first, and let there be fewer notifications than generations. Then a
poll wins exactly if there was a notification before it, the last one came at least a quiet interval
before the time of the poll, and neither a disarming nor a poll that reached its callback has come
since. What wins is the generation that this notification started, which is still the current one,
and no generation wins twice. -/
theorem poll_wins_iff_last_is_live (g : Generation) (quiet now : Nat) (commands : List Command)
    (hfew : (events ⟨g, [], quiet, now⟩ commands).countP Event.isNotify < 2 ^ 96) :
    let es := events ⟨g, [], quiet, now⟩ commands
    (∀ early e late time, es = early ++ e :: late → e.pollTime? = some time →
      ∃ r, e.result = some r ∧
        (∀ w, r.winner = some w ↔
          ∃ n, IsLiveLast quiet early n ∧ n.clock + quiet ≤ time ∧ w = n.generation) ∧
        ∀ w, r.winner = some w → w = e.generation) ∧
    (es.filterMap Event.winner?).Nodup := by
  intro es
  refine ⟨?_, nodup_winners hfew⟩
  intro early e late time hes htime
  obtain ⟨before, c, rest, -, rfl, rfl⟩ := events_eq_append_cons hes
  have hfewer : (events ⟨g, [], quiet, now⟩ before).countP Event.isNotify < 2 ^ 96 := by
    rw [show events _ _ = _ from hes, List.countP_append] at hfew
    omega
  refine ⟨_, result_eventOf htime, fun w => winner_pollAt_after_iff hfewer, ?_⟩
  intro w hwin
  obtain ⟨rfl, -⟩ := (winner_pollAt_eq_some_iff (recorded_after g quiet now before).ordered).1 hwin
  exact (generation_eventOf htime).symm

/-- The count starts over at the first of two notifications. A poll for the time at which the first
callback comes due discards it, and one half a quiet interval later is won by the second. -/
theorem poll_wins_across_full_count :
    let s : Scheduler := ⟨⟨0, 18446744073709551615⟩, [], 1000, 0⟩
    let before : List Command := [.notify, .advance 500, .notify, .pollAt 1000, .poll]
    let commands : List Command :=
      before ++ [.pollAt 1500, .advance 2000, .poll, .notify, .disarm, .pollAt 9000]
    (s.events commands).countP Event.isNotify < 2 ^ 96 ∧
      (s.events commands).filterMap Event.winner? = [⟨1, 1⟩] ∧
      ∃ n, IsLiveLast 1000 (s.events before) n ∧ n.clock + 1000 ≤ 1500 ∧ n.generation = ⟨1, 1⟩ := by
  intro s before commands
  have hfew : (s.events commands).countP Event.isNotify < 2 ^ 96 := by decide +kernel
  have hwinners : (s.events commands).filterMap Event.winner? = [⟨1, 1⟩] := by decide +kernel
  have hsplit : s.events commands = s.events before ++ (s.after before).eventOf (.pollAt 1500) ::
      (s.after (before ++ [.pollAt 1500])).events
        [.advance 2000, .poll, .notify, .disarm, .pollAt 9000] := by decide +kernel
  obtain ⟨r, hr, hwinner, -⟩ :=
    (poll_wins_iff_last_is_live _ 1000 0 commands hfew).1 _ _ _ 1500 hsplit rfl
  have hwin : r.winner = some ⟨1, 1⟩ := by
    rw [result_eventOf rfl, Option.some.injEq] at hr
    rw [← hr]
    decide +kernel
  obtain ⟨n, hlive, hdue, hn⟩ := (hwinner ⟨1, 1⟩).1 hwin
  exact ⟨hfew, hwinners, n, hlive, hdue, hn.symm⟩

end EditorPane.Scheduler
