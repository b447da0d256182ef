import EditorPane.Proofs.Schedule.Tokens
import EditorPane.Proofs.Session.Staleness

/-!
# What was painted is told from what is there

A session remembers the generation that its last pass painted. Mutations start new generations and
nothing else does, not even where the scheduler is polled or disarmed behind the back of the
session. So the generation painted is the current one exactly as long as no mutation has come since,
unless there are as many mutations as generations.

## Main definitions

* `TracksPainted` — what a session remembers of its last pass.

## Main results

* `generation_step`, `lastPainted_step` — what every command does to the generations.
* `lastPainted_eq_generation_iff` — when the generation painted is the current one.
* `generations_tell_mutations_apart` — generations, tokens and passes are told apart.
-/

namespace EditorPane.Session

variable {σ : Type} {s : Session σ} {c : Command}

/-! ## One command -/

/-- A mutation starts the next generation, nothing else starts one. -/
theorem generation_step (s : Session σ) (c : Command) : (s.step c).2.scheduler.generation
    = if (s.step c).1.isMutation then s.scheduler.generation.next else s.scheduler.generation := by
  by_cases hown : c.isOwn = true
  · cases s.transition hown with
    | still time _ noMutation _ scheduler => rw [scheduler, noMutation]; rfl
    | mutation _ isMutation _ scheduler => rw [scheduler, isMutation]; rfl
    | discard time _ noMutation _ _ state => rw [state, noMutation]; rfl
    | pass _ _ noMutation _ _ _ state => rw [state, noMutation]; rfl
  · cases c with
    | poll | disarm => rfl
    | _ => exact absurd rfl hown

/-- A pass paints the current generation, and nothing else paints. -/
theorem lastPainted_step (s : Session σ) (c : Command) : (s.step c).2.lastPainted
    = if (s.step c).1.report?.isSome then some s.scheduler.generation else s.lastPainted := by
  by_cases hown : c.isOwn = true
  · cases s.transition hown with
    | still _ noReport _ _ _ _ _ lastPainted => rw [lastPainted, noReport]; rfl
    | mutation noReport _ _ _ _ lastPainted => rw [lastPainted, noReport]; rfl
    | discard _ noReport _ _ _ state => rw [state, noReport]; rfl
    | pass _ isReport _ _ _ _ state => rw [state, isReport]; rfl
  · cases c with
    | poll | disarm => rfl
    | _ => exact absurd rfl hown

/-! ## Along a run -/

/-- The session remembers whether a pass is among the events, and the generation has moved on from
the one that the last of them painted once for each mutation since. -/
structure TracksPainted (es : List Event) (s : Session σ) : Prop where
  isSome_iff : s.lastPainted.isSome = true ↔ ∃ e ∈ es, e.reply.report?.isSome = true
  generation_eq : ∀ g, s.lastPainted = some g →
    s.scheduler.generation = Generation.next^[(unpainted es).length] g

theorem Reply.isMutation_of_report? {r : Reply} {report : PassReport}
    (h : r.report? = some report) : r.isMutation = false := by
  cases r with
  | mutated => cases h
  | _ => rfl

theorem TracksPainted.step {es : List Event} (h : TracksPainted es s) (c : Command) :
    TracksPainted (es ++ [⟨s.scheduler.now, c, (s.step c).1⟩]) (s.step c).2 := by
  have hpainted := s.lastPainted_step c
  have hgeneration := s.generation_step c
  cases hreport : (s.step c).1.report? with
  | some report =>
    simp only [hreport, Option.isSome_some, if_true] at hpainted
    rw [Reply.isMutation_of_report? hreport] at hgeneration
    refine ⟨by simp [hpainted, hreport], fun g hg => ?_⟩
    cases hpainted.symm.trans hg
    rw [unpainted_concat_of_report hreport]
    exact hgeneration
  | none =>
    simp only [hreport, Option.isSome_none, Bool.false_eq_true, if_false] at hpainted
    refine ⟨by simp [hpainted, hreport, h.isSome_iff], fun g hg => ?_⟩
    rw [unpainted_concat_of_no_report hreport, mutationTimes_singleton, List.length_append,
      hgeneration, h.generation_eq g (hpainted.symm.trans hg)]
    split
    · exact (Function.iterate_succ_apply' Generation.next _ g).symm
    · rfl

theorem tracksPainted_run (hfresh : s.lastPainted = none) (commands : List Command) :
    TracksPainted (s.events commands) (s.run commands) := by
  induction commands using List.reverseRecOn with
  | nil => exact ⟨by simp [hfresh], fun g hg => by cases hfresh.symm.trans hg⟩
  | append_singleton before c ih =>
    rw [run_concat, events_concat]
    exact ih.step c

/-- The generation painted is the current one if there was a pass and no mutation since. -/
theorem lastPainted_eq_generation_iff (hfresh : s.lastPainted = none) {commands : List Command}
    (hfew : (mutationTimes (s.events commands)).length < 2 ^ 96) :
    (s.run commands).lastPainted = some (s.run commands).scheduler.generation ↔
      (∃ e ∈ s.events commands, e.reply.report?.isSome = true) ∧
        unpainted (s.events commands) = [] := by
  have htracks := tracksPainted_run hfresh commands
  have hshort := (length_unpainted_le (s.events commands)).trans_lt hfew
  constructor
  · intro hcurrent
    refine ⟨htracks.isSome_iff.1 (by rw [hcurrent]; rfl), ?_⟩
    by_contra hne
    have hpos := List.length_pos_iff.2 hne
    exact Generation.iterate_next_ne_self hpos hshort (htracks.generation_eq _ hcurrent).symm
  · rintro ⟨hpass, hnone⟩
    obtain ⟨g, hg⟩ := Option.isSome_iff_exists.1 (htracks.isSome_iff.2 hpass)
    rw [hg, htracks.generation_eq g hg, hnone]
    rfl

/-- From no generation do some mutations lead back to it, if they are fewer than the `2 ^ 96`
generations. So in a run of a scheduler with fewer notifications than that, from any state, the
tokens that they return differ from each other and from the generation before the run, and only the
last of them fires. And a session that has painted nothing before has painted the current generation
after a run with fewer mutations than that exactly if there was a pass and no mutation since. -/
theorem generations_tell_mutations_apart :
    (∀ (g : Generation) (k : Nat), 0 < k → k < 2 ^ 96 → Generation.next^[k] g ≠ g) ∧
    (∀ (s : Scheduler) (commands : List Scheduler.Command),
      (s.tokens commands).length < 2 ^ 96 →
      (s.generation :: s.tokens commands).Nodup ∧
      ∀ i token, (s.tokens commands)[i]? = some token →
        ((s.after commands).fire token = true ↔ i + 1 = (s.tokens commands).length)) ∧
    ∀ (s : Session σ) (commands : List Command), s.lastPainted = none →
      (mutationTimes (s.events commands)).length < 2 ^ 96 →
      ((s.run commands).lastPainted = some (s.run commands).scheduler.generation ↔
        (∃ e ∈ s.events commands, e.reply.report?.isSome = true) ∧
          unpainted (s.events commands) = []) := by
  refine ⟨fun g k => Generation.iterate_next_ne_self, fun s commands hfew => ⟨?_, ?_⟩,
    fun s commands hfresh hfew => lastPainted_eq_generation_iff hfresh hfew⟩
  · exact Scheduler.nodup_generation_cons_tokens hfew
  · exact fun i token htoken => Scheduler.fire_iff_of_getElem?_tokens hfew htoken

/-- The first of three notifications starts the last generation of the last epoch, so the second
starts over. Of their tokens the third fires. A session whose scheduler is emptied behind its back
has painted the current generation, until the text is edited. -/
theorem generations_tell_mutations_apart_at_wrap :
    let s : Scheduler := ⟨⟨4294967295, 18446744073709551614⟩, [], 1000, 0⟩
    let notified : List Scheduler.Command := [.notify, .notify, .pollAt 1000, .notify]
    let t := start (.ofText ['a'] 2) (.ofFunction fun _ => .ok ⟨none, [], []⟩) default
    let painted : List Command := [.edit (.insert ⟨1, 0⟩ ['b']), .highlight, .poll, .disarm]
    let edited : List Command := painted ++ [.edit (.delete (.between ⟨1, 0⟩ ⟨1, 1⟩)), .disarm]
    Generation.next^[2 ^ 64] s.generation ≠ s.generation ∧
      s.tokens notified = [⟨4294967295, 18446744073709551615⟩, ⟨0, 0⟩, ⟨0, 1⟩] ∧
      (s.generation :: s.tokens notified).Nodup ∧
      (s.after notified).fire ⟨0, 1⟩ = true ∧ (s.after notified).fire ⟨0, 0⟩ = false ∧
      (t.run painted).lastPainted = some (t.run painted).scheduler.generation ∧
      (t.run edited).lastPainted ≠ some (t.run edited).scheduler.generation := by
  intro s notified t painted edited
  obtain ⟨hnext, htokens, hpainted⟩ := generations_tell_mutations_apart (σ := Unit)
  have hthree : s.tokens notified = [⟨4294967295, 18446744073709551615⟩, ⟨0, 0⟩, ⟨0, 1⟩] := by
    decide +kernel
  obtain ⟨hnodup, hfire⟩ := htokens s notified (by rw [hthree]; decide)
  rw [hthree] at hfire
  have hpass : (∃ e ∈ t.events painted, e.reply.report?.isSome = true) ∧
      unpainted (t.events painted) = [] := by decide +kernel
  have hedit : unpainted (t.events edited) ≠ [] := by decide +kernel
  refine ⟨hnext s.generation (2 ^ 64) (by decide) (by decide), hthree, hnodup, ?_, ?_, ?_, ?_⟩
  · exact (hfire 2 ⟨0, 1⟩ rfl).2 rfl
  · exact Bool.eq_false_iff.2 fun h => absurd ((hfire 1 ⟨0, 0⟩ rfl).1 h) (by decide)
  · exact (hpainted t painted rfl (by decide +kernel)).2 hpass
  · exact fun h => hedit ((hpainted t edited rfl (by decide +kernel)).1 h).2

end EditorPane.Session
