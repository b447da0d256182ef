import EditorPane.Schedule.Scheduler
import EditorPane.Proofs.Schedule.Generation
import Mathlib.Data.List.TakeWhile
import Mathlib.Data.List.Infix

/-!
# What the queue holds

Mutations that no pass has covered yet leave a trace in the scheduler: the generation has moved on
once for each, and of the callbacks they armed some may have come due and been discarded, but
never the newest. `Scheduler.Owes` says so of the times of these mutations, and every operation
that does not call for a pass keeps it.

## Main definitions

* `callbacks` — what mutations at given times arm.
* `Scheduler.Owes` — a pass is owed for the mutations at given times.

## Main results

* `Scheduler.Owes.winner_pollAt` — a poll has a winner exactly from one quiet interval after the
  last mutation on.
-/

namespace EditorPane

/-! ## Callbacks -/

/-- The callbacks that mutations at the given times arm when the generation before them is `g`. -/
def callbacks (quiet : Nat) (g : Generation) : List Nat → List Armed
  | [] => []
  | t :: times => ⟨t + quiet, g.next⟩ :: callbacks quiet g.next times

theorem callbacks_concat (quiet : Nat) (g : Generation) (times : List Nat) (t : Nat) :
    callbacks quiet g (times ++ [t])
      = callbacks quiet g times ++ [⟨t + quiet, Generation.next^[times.length + 1] g⟩] := by
  induction times generalizing g with
  | nil => rfl
  | cons u times ih =>
    rw [List.cons_append, callbacks, ih, callbacks, List.cons_append, List.length_cons,
      Function.iterate_succ_apply _ (times.length + 1)]

/-- A callback belongs to one of the mutations: it is due one quiet interval after it, and its
generation is one of those that the mutations led to. -/
theorem mem_callbacks {quiet : Nat} {g : Generation} {times : List Nat} {a : Armed}
    (h : a ∈ callbacks quiet g times) :
    (∃ t ∈ times, a.due = t + quiet) ∧ ∃ n < times.length, a.token = Generation.next^[n + 1] g := by
  induction times generalizing g with
  | nil => cases h
  | cons t times ih =>
    rw [callbacks, List.mem_cons] at h
    rcases h with rfl | h
    · exact ⟨⟨t, List.mem_cons_self, rfl⟩, 0, Nat.succ_pos _, rfl⟩
    · obtain ⟨⟨u, hu, hdue⟩, n, hn, htoken⟩ := ih h
      refine ⟨⟨u, List.mem_cons_of_mem t hu, hdue⟩, n + 1, Nat.succ_lt_succ hn, ?_⟩
      rw [htoken, Function.iterate_succ_apply _ (n + 1)]

namespace Scheduler

/-! ## Polls -/

/-- If all callbacks are due and the newest is for the current generation, that generation wins. -/
theorem winner_pollAt_of_forall_due {s : Scheduler} {time : Nat} {a : Armed}
    (hlast : s.armed.getLast? = some a) (htoken : a.token = s.generation)
    (hdue : ∀ b ∈ s.armed, b.due ≤ time) : (s.pollAt time).1.winner = some s.generation := by
  obtain ⟨before, harmed⟩ := List.getLast?_eq_some_iff.1 hlast
  have hall : s.armed.takeWhile (·.due ≤ time) = s.armed := by
    rw [List.takeWhile_eq_self_iff]
    simpa using hdue
  simp only [pollAt, outcome]
  rw [hall, harmed]
  simp [fire, htoken]

/-- If no callback that is due is for the current generation, there is no winner. -/
theorem winner_pollAt_of_forall_ne {s : Scheduler} {time : Nat}
    (h : ∀ b ∈ s.armed, b.due ≤ time → b.token ≠ s.generation) :
    (s.pollAt time).1.winner = none := by
  have hnone : (s.armed.takeWhile (·.due ≤ time)).filter (fun a => s.fire a.token) = [] := by
    rw [List.filter_eq_nil_iff]
    intro b hb
    have hdue : b.due ≤ time := by simpa using List.mem_takeWhile_imp hb
    have hmem : b ∈ s.armed := (List.takeWhile_prefix _).subset hb
    simpa [fire] using h b hmem hdue
  simp only [pollAt, outcome, hnone]
  rfl

/-! ## Owing a pass -/

/-- Mutations came at `times`, in this order, since the generation was `g` and nothing was armed.
No callback has won since, so the newest is still armed. -/
structure Owes (s : Scheduler) (g : Generation) (times : List Nat) : Prop where
  generation_eq : s.generation = Generation.next^[times.length] g
  suffix : s.armed <:+ callbacks s.quiet g times
  newest : times ≠ [] → s.armed ≠ []
  ordered : times.Pairwise (· ≤ ·)
  past : ∀ t ∈ times, t ≤ s.now

/-- With nothing armed, no pass is owed. -/
theorem owes_nil {s : Scheduler} (h : s.armed = []) : s.Owes s.generation [] where
  generation_eq := rfl
  suffix := h ▸ List.nil_suffix
  newest := fun hne => absurd rfl hne
  ordered := List.Pairwise.nil
  past := fun _ ht => absurd ht List.not_mem_nil

namespace Owes

variable {s : Scheduler} {g : Generation} {times : List Nat}

theorem armed_eq_nil (h : s.Owes g []) : s.armed = [] := List.suffix_nil.1 h.suffix

theorem notify (h : s.Owes g times) : s.notify.Owes g (times ++ [s.now]) where
  generation_eq := by
    rw [generation_notify, h.generation_eq, List.length_append, List.length_singleton,
      Function.iterate_succ_apply']
  suffix := by
    obtain ⟨gone, hgone⟩ := h.suffix
    refine ⟨gone, ?_⟩
    show gone ++ (s.armed ++ [_]) = callbacks s.quiet g _
    rw [callbacks_concat, ← hgone, h.generation_eq, List.append_assoc,
      Function.iterate_succ_apply']
  newest := fun _ => List.concat_ne_nil _ _
  ordered := List.pairwise_append.2 ⟨h.ordered, List.pairwise_singleton _ _, by
    intro t ht u hu
    rw [List.mem_singleton.1 hu]
    exact h.past t ht⟩
  past := by
    intro t ht
    rcases List.mem_append.1 ht with ht | ht
    · exact h.past t ht
    · exact Nat.le_of_eq (List.mem_singleton.1 ht)

theorem advance (h : s.Owes g times) (time : Nat) : (s.advance time).Owes g times :=
  { h with past := fun t ht => Nat.le_add_right_of_le (h.past t ht) }

/-- The newest callback is for the current generation, one quiet interval after the last
mutation. -/
theorem getLast?_armed {t : Nat} (h : s.Owes g (times ++ [t])) :
    s.armed.getLast? = some ⟨t + s.quiet, s.generation⟩ := by
  obtain ⟨gone, hgone⟩ := h.suffix
  have hne := h.newest (List.concat_ne_nil _ _)
  have hlast := congrArg List.getLast? hgone
  rw [callbacks_concat, List.getLast?_append_of_ne_nil _ hne, List.getLast?_concat] at hlast
  rw [hlast, h.generation_eq, List.length_append, List.length_singleton]

/-- All callbacks are due when the newest is. -/
theorem due_le {t : Nat} (h : s.Owes g (times ++ [t])) {a : Armed} (ha : a ∈ s.armed) :
    a.due ≤ t + s.quiet := by
  obtain ⟨⟨u, hu, hdue⟩, -⟩ := mem_callbacks (h.suffix.subset ha)
  have hle : u ≤ t := by
    rcases List.mem_append.1 hu with hu | hu
    · exact (List.pairwise_append.1 h.ordered).2.2 u hu t (List.mem_singleton_self t)
    · exact Nat.le_of_eq (List.mem_singleton.1 hu)
  omega

/-- The callbacks before the newest are for earlier generations. -/
theorem token_ne {t : Nat} (h : s.Owes g (times ++ [t])) (hfew : times.length + 1 < 2 ^ 96)
    {a : Armed} (ha : a ∈ s.armed) (hdue : a.due < t + s.quiet) : a.token ≠ s.generation := by
  have hmem := h.suffix.subset ha
  rw [callbacks_concat, List.mem_append] at hmem
  rcases hmem with hmem | hmem
  · obtain ⟨-, n, hn, htoken⟩ := mem_callbacks hmem
    rw [htoken, h.generation_eq, List.length_append, List.length_singleton]
    intro e
    have := Generation.iterate_next_injective (by omega) hfew e
    omega
  · rw [List.mem_singleton.1 hmem] at hdue
    exact absurd hdue (Nat.lt_irrefl _)

/-- The current generation wins a poll exactly from one quiet interval after the last mutation
on. -/
theorem winner_pollAt {t : Nat} (h : s.Owes g (times ++ [t])) (hfew : times.length + 1 < 2 ^ 96)
    (time : Nat) : (s.pollAt time).1.winner
      = if t + s.quiet ≤ time then some s.generation else none := by
  split
  · next hdue =>
    exact winner_pollAt_of_forall_due h.getLast?_armed rfl fun a ha => (h.due_le ha).trans hdue
  · next hdue =>
    refine winner_pollAt_of_forall_ne fun a ha hle => h.token_ne hfew ha ?_
    omega

/-- Where no pass is owed, no poll has a winner, and polls change nothing. -/
theorem pollAt_nil (h : s.Owes g []) (time : Nat) : s.pollAt time = (⟨[], none⟩, s) := by
  have harmed := h.armed_eq_nil
  obtain ⟨generation, armed, quiet, now⟩ := s
  cases harmed
  rfl

/-- A poll less than a quiet interval after the last mutation, if there was any, has no winner. -/
theorem winner_pollAt_eq_none (h : s.Owes g times) (hfew : times.length < 2 ^ 96) {time : Nat}
    (hearly : ∀ last, times.getLast? = some last → time < last + s.quiet) :
    (s.pollAt time).1.winner = none := by
  rcases List.eq_nil_or_concat times with rfl | ⟨earlier, last, rfl⟩
  · rw [h.pollAt_nil]
  · rw [List.concat_eq_append] at h hfew hearly
    rw [List.length_append] at hfew
    have hlt := hearly last List.getLast?_concat
    rw [h.winner_pollAt hfew, if_neg (Nat.not_le_of_gt hlt)]

/-- A poll without a winner leaves the newest callback armed. -/
theorem pollAt (h : s.Owes g times) {time : Nat} (hnone : (s.pollAt time).1.winner = none) :
    (s.pollAt time).2.Owes g times where
  generation_eq := h.generation_eq
  suffix := (List.dropWhile_suffix _).trans h.suffix
  newest := by
    intro hne hempty
    obtain ⟨earlier, t, rfl⟩ := List.eq_nil_or_concat times |>.resolve_left hne
    rw [List.concat_eq_append] at h
    have hdue : ∀ a ∈ s.armed, a.due ≤ time := by
      simpa [List.dropWhile_eq_nil_iff] using hempty
    have hwin := winner_pollAt_of_forall_due h.getLast?_armed rfl hdue
    rw [hwin] at hnone
    cases hnone
  ordered := h.ordered
  past := h.past

end Owes

end Scheduler

end EditorPane
