import EditorPane.Proofs.Schedule.History

/-!
# Tokens are told apart

Every notification returns the generation that it starts, as a token. The tokens of a run are the
generations that follow the one it began with, one by one and whatever else happens in between. As
long as there are fewer of them than generations, no token comes up twice, nor does the generation
at the start. So only the token of the last notification can still fire.

## Main definitions

* `tokens` — what the notifications of a run return.

## Main results

* `generation_cons_tokens` — the generations of a run follow each other.
* `nodup_generation_cons_tokens` — and are told apart.
* `fire_iff_of_getElem?_tokens` — which of the tokens fires.
-/

namespace EditorPane.Scheduler

variable {s : Scheduler} {commands : List Command}

/-- The tokens that the notifications of a run return, in their order. -/
def tokens (s : Scheduler) (commands : List Command) : List Generation :=
  ((s.events commands).filter Event.isNotify).map Event.generation

theorem tokens_cons_notify (s : Scheduler) (rest : List Command) :
    s.tokens (.notify :: rest) = s.generation.next :: s.notify.tokens rest := rfl

/-- Only notifications return tokens and start generations. -/
theorem tokens_cons_of_ne {c : Command} (hc : c ≠ .notify) (rest : List Command) :
    s.tokens (c :: rest) = (s.run c).tokens rest ∧ (s.run c).generation = s.generation := by
  cases c with
  | notify => exact absurd rfl hc
  | advance | disarm | poll | pollAt => exact ⟨rfl, rfl⟩

/-- The generations of a run follow each other, beginning with the one before it. -/
theorem generation_cons_tokens (s : Scheduler) (commands : List Command) :
    s.generation :: s.tokens commands
      = List.iterate Generation.next s.generation ((s.tokens commands).length + 1) := by
  induction commands generalizing s with
  | nil => rfl
  | cons c rest ih =>
    by_cases hc : c = .notify
    · rw [hc, tokens_cons_notify, List.length_cons, List.iterate, ← generation_notify, ih s.notify]
    · obtain ⟨htokens, hgeneration⟩ := tokens_cons_of_ne (s := s) hc rest
      rw [htokens, ← hgeneration, ih (s.run c)]

/-- The last of them is the current one. -/
theorem generation_after (s : Scheduler) (commands : List Command) :
    (s.after commands).generation = Generation.next^[(s.tokens commands).length] s.generation := by
  induction commands generalizing s with
  | nil => rfl
  | cons c rest ih =>
    rw [show s.after (c :: rest) = (s.run c).after rest from rfl, ih (s.run c)]
    by_cases hc : c = .notify
    · rw [hc]
      rfl
    · obtain ⟨htokens, hgeneration⟩ := tokens_cons_of_ne (s := s) hc rest
      rw [htokens, hgeneration]

theorem nodup_generation_cons_tokens (hfew : (s.tokens commands).length < 2 ^ 96) :
    (s.generation :: s.tokens commands).Nodup := by
  rw [generation_cons_tokens]
  exact s.generation.nodup_iterate_next hfew

theorem getElem?_tokens {i : Nat} {token : Generation} (h : (s.tokens commands)[i]? = some token) :
    i < (s.tokens commands).length ∧ token = Generation.next^[i + 1] s.generation := by
  obtain ⟨hi, rfl⟩ := List.getElem?_eq_some_iff.1 h
  refine ⟨hi, ?_⟩
  have hall := congrArg (·[i + 1]?) (generation_cons_tokens s commands)
  simpa [hi, List.getElem?_eq_getElem] using hall

/-- Of the tokens of a run only the last one fires after it. -/
theorem fire_iff_of_getElem?_tokens (hfew : (s.tokens commands).length < 2 ^ 96) {i : Nat}
    {token : Generation} (h : (s.tokens commands)[i]? = some token) :
    (s.after commands).fire token = true ↔ i + 1 = (s.tokens commands).length := by
  obtain ⟨hi, rfl⟩ := getElem?_tokens h
  rw [fire, decide_eq_true_eq, generation_after]
  constructor
  · exact Generation.iterate_next_injective (Nat.lt_of_le_of_lt hi hfew) hfew
  · intro hlast
    rw [hlast]

end EditorPane.Scheduler
