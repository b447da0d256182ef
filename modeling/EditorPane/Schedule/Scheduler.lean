import EditorPane.Schedule.Generation

/-!
# The scheduler

Every mutation starts a new generation and arms a callback for it, due one quiet interval later. A
callback that comes due wins if its generation is still the current one; a superseded one is
discarded. So a burst of mutations has one winner, one quiet interval after its end. Times are
milliseconds on a clock that moves when it is told to.

## Main definitions

* `Scheduler`, `Armed` — the state and its queue.
* `Scheduler.notify`, `Scheduler.advance`, `Scheduler.disarm`, `Scheduler.fire`.
* `Scheduler.pollAt`, `Scheduler.poll`, `PollResult` — firing what is due.
* `Scheduler.Command`, `Scheduler.run` — the same as data.
-/

namespace EditorPane

/-- The quiet interval used where none is given. -/
def defaultQuiet : Nat := 1000

/-- A callback that waits for its time. -/
structure Armed where
  due : Nat
  token : Generation
  deriving DecidableEq, Repr

/-- A callback that came due for a generation that is no longer the current one. -/
structure Superseded where
  token : Generation
  current : Generation
  deriving DecidableEq, Repr

/-- What firing the due callbacks came to. -/
structure PollResult where
  discarded : List Superseded
  winner : Option Generation
  deriving DecidableEq, Repr

/-- The current generation, the armed callbacks in the order in which they were armed, the quiet
interval and the time. -/
structure Scheduler where
  generation : Generation
  armed : List Armed
  quiet : Nat
  now : Nat
  deriving DecidableEq, Repr

namespace Scheduler

/-- A scheduler at time zero with nothing armed. -/
def start (generation : Generation) (quiet : Nat) : Scheduler := ⟨generation, [], quiet, 0⟩

/-! ## Operations -/

/-- Move the clock forward. -/
def advance (s : Scheduler) (time : Nat) : Scheduler := { s with now := s.now + time }

/-- Record a mutation; its generation is the current one then. -/
def notify (s : Scheduler) : Scheduler :=
  { s with
    generation := s.generation.next
    armed := s.armed ++ [⟨s.now + s.quiet, s.generation.next⟩] }

/-- Drop all armed callbacks. -/
def disarm (s : Scheduler) : Scheduler := { s with armed := [] }

/-- The number of armed callbacks. -/
def pending (s : Scheduler) : Nat := s.armed.length

/-- When the first armed callback comes due. -/
def nextDeadline (s : Scheduler) : Option Nat := s.armed.head?.map Armed.due

/-- A callback with this token should run. -/
def fire (s : Scheduler) (token : Generation) : Bool := token = s.generation

/-- What firing callbacks in order comes to; the last one that should run wins. -/
def outcome (s : Scheduler) (due : List Armed) : PollResult where
  discarded := (due.filter fun a => !s.fire a.token).map fun a => ⟨a.token, s.generation⟩
  winner := ((due.filter fun a => s.fire a.token).getLast?).map Armed.token

/-- Take callbacks off the front of the queue while they are due at `time`, and fire them. -/
def pollAt (s : Scheduler) (time : Nat) : PollResult × Scheduler :=
  (s.outcome (s.armed.takeWhile (·.due ≤ time)),
    { s with armed := s.armed.dropWhile (·.due ≤ time) })

/-- Fire the callbacks that are due now. -/
def poll (s : Scheduler) : PollResult × Scheduler := s.pollAt s.now

@[simp] theorem generation_notify (s : Scheduler) : s.notify.generation = s.generation.next := rfl

@[simp] theorem pending_notify (s : Scheduler) : s.notify.pending = s.pending + 1 :=
  List.length_append

@[simp] theorem pending_disarm (s : Scheduler) : s.disarm.pending = 0 := rfl

@[simp] theorem generation_pollAt (s : Scheduler) (time : Nat) :
    (s.pollAt time).2.generation = s.generation := rfl

@[simp] theorem armed_pollAt (s : Scheduler) (time : Nat) :
    (s.pollAt time).2.armed = s.armed.dropWhile (·.due ≤ time) := rfl

/-! ## Commands -/

/-- What can happen to a scheduler. -/
inductive Command where
  | notify
  | advance (time : Nat)
  | disarm
  | poll
  | pollAt (time : Nat)
  deriving DecidableEq, Repr

/-- The result of the polls among the commands. -/
def result? (s : Scheduler) : Command → Option PollResult
  | .poll => some s.poll.1
  | .pollAt time => some (s.pollAt time).1
  | _ => none

/-- The scheduler after a command. -/
def run (s : Scheduler) : Command → Scheduler
  | .notify => s.notify
  | .advance time => s.advance time
  | .disarm => s.disarm
  | .poll => s.poll.2
  | .pollAt time => (s.pollAt time).2

end Scheduler

end EditorPane
