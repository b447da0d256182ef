import EditorPane.Buffer.Command
import EditorPane.Config.Basic
import EditorPane.Diagnostic.Surface
import EditorPane.Paint

/-!
# Sessions

A session keeps the highlighting and the error display of one buffer in step with its text. Every
accepted edit is a mutation for the scheduler; when a callback wins, one pass runs: the text is
painted, the buffer repainted and the error surface synced. Between an edit and the pass that
covers it the session is stale, and none of its markers are to be drawn.

## Main definitions

* `Session`, `Session.start` — the state and a fresh one.
* `Session.edit`, `Session.notify` — mutations.
* `Session.pass`, `Session.tickAt`, `PassReport` — passes.
* `Session.isStale`, `Session.visibleMarkers`.
* `Session.Command`, `Session.Reply`, `Session.step` — all of it as data.
-/

namespace EditorPane

/-- What came of a pass. -/
structure PassReport where
  generation : Generation
  /-- How many armed callbacks the pass made needless. -/
  disarmed : Nat
  painted : PaintResult
  /-- How many batches were applied before. -/
  batch : Nat
  decorations : TagReport
  sync : SyncReport
  deriving DecidableEq, Repr

/-- One buffer with all that follows its text. -/
structure Session (σ : Type) where
  buffer : Buffer
  scheduler : Scheduler
  painter : Painter σ
  decorator : Decorator
  surface : ErrorSurface
  /-- The generation that the last pass painted. -/
  lastPainted : Option Generation

namespace Session

variable {σ : Type}

/-- A session over `b`, which takes on the configured tab width. -/
def start (b : Buffer) (p : Parser σ) (c : Config) : Session σ where
  buffer := b.setTabWidth c.tabWidth
  scheduler := .start default c.quiet
  painter := ⟨p, c.comments⟩
  decorator := default
  surface := .empty c.geometry
  lastPainted := none

/-! ## Mutations -/

/-- Record a mutation of the text. -/
def notify (s : Session σ) : Session σ := { s with scheduler := s.scheduler.notify }

/-- Carry out a request to change the buffer. An accepted edit is a mutation. -/
def edit (s : Session σ) (c : Buffer.Command) :
    Except BufferError (Option MutationEvent × Session σ) :=
  match s.buffer.run? c with
  | .error e => .error e
  | .ok (none, b) => .ok (none, { s with buffer := b })
  | .ok (some event, b) => .ok (some event, notify { s with buffer := b })

/-! ## Passes -/

/-- Run a pass over the present text. What is armed is covered by it and dropped. -/
def pass (s : Session σ) : PassReport × Session σ :=
  let generation := s.scheduler.generation
  let (painted, painter) := s.painter.paint s.buffer.text
  let (decorations, repainted, decorator) := s.decorator.apply s.buffer painted.commands
  let (sync, buffer, surface) := s.surface.sync repainted painted.errors
  (⟨generation, s.scheduler.pending, painted, s.decorator.batches, decorations, sync⟩,
    { buffer := buffer
      scheduler := s.scheduler.disarm
      painter := painter
      decorator := decorator
      surface := surface
      lastPainted := some generation })

/-- Fire the callbacks due at a time, and run a pass if one of them wins. -/
def tickAt (s : Session σ) (time : Nat) : (PollResult × Option PassReport) × Session σ :=
  let (polled, scheduler) := s.scheduler.pollAt time
  let s' := { s with scheduler := scheduler }
  match polled.winner with
  | none => ((polled, none), s')
  | some _ =>
    let (report, s'') := s'.pass
    ((polled, some report), s'')

/-- Fire the callbacks due now, and run a pass if one of them wins. -/
def tick (s : Session σ) : (PollResult × Option PassReport) × Session σ := s.tickAt s.scheduler.now

/-! ## Markers -/

/-- There was a mutation since the last pass, or no pass yet. -/
def isStale (s : Session σ) : Bool := s.lastPainted ≠ some s.scheduler.generation

/-- The markers to draw. -/
def visibleMarkers (s : Session σ) : List Marker :=
  s.surface.markers.filter fun m => !s.isStale && m.isVisible

/-- Draw every marker where its character is now. -/
def reposition (s : Session σ) : Session σ :=
  { s with surface := s.surface.reposition s.buffer }

/-- Scroll the buffer, and the markers with it. -/
def scrollTo (s : Session σ) (line cell : Nat) : Session σ :=
  reposition { s with buffer := s.buffer.scrollTo line cell }

/-- Resize the window of the buffer, and move the markers accordingly. -/
def resize (s : Session σ) (width height : Nat) : Session σ :=
  reposition { s with buffer := s.buffer.resize width height }

/-- The pointer comes over the `i`-th marker; the label it then shows. -/
def pointerEnter (s : Session σ) (i : Nat) : Option Tooltip × Session σ :=
  let (label, surface) := s.surface.pointerEnter i
  (label, { s with surface := surface })

/-- The pointer leaves the `i`-th marker. -/
def pointerLeave (s : Session σ) (i : Nat) : Session σ :=
  { s with surface := s.surface.pointerLeave i }

/-! ## Commands -/

/-- What can happen to a session. -/
inductive Command where
  | edit (c : Buffer.Command)
  | notify
  | advance (time : Nat)
  | poll
  | disarm
  | tick
  | tickAt (time : Nat)
  | highlight
  | scrollTo (line cell : Nat)
  | resize (width height : Nat)
  | reposition
  | pointerEnter (i : Nat)
  | pointerLeave (i : Nat)
  | subscribe
  deriving DecidableEq, Repr

/-- What a command answers. -/
inductive Reply where
  | done
  | refused (e : BufferError)
  /-- A mutation: its event if it was an edit, and its generation. -/
  | mutated (event : Option MutationEvent) (generation : Generation)
  | polled (result : PollResult)
  | disarmed (count : Nat)
  | ticked (polled : PollResult) (report : Option PassReport)
  | passed (report : PassReport)
  | label (tooltip : Option Tooltip)
  deriving DecidableEq, Repr

/-- Carry out a command. -/
def step (s : Session σ) : Command → Reply × Session σ
  | .edit c =>
    match s.edit c with
    | .error e => (.refused e, s)
    | .ok (none, s') => (.done, s')
    | .ok (some event, s') => (.mutated (some event) s'.scheduler.generation, s')
  | .notify =>
    let s' := s.notify
    (.mutated none s'.scheduler.generation, s')
  | .advance time => (.done, { s with scheduler := s.scheduler.advance time })
  | .poll =>
    let (result, scheduler) := s.scheduler.poll
    (.polled result, { s with scheduler := scheduler })
  | .disarm => (.disarmed s.scheduler.pending, { s with scheduler := s.scheduler.disarm })
  | .tick =>
    let ((polled, report), s') := s.tick
    (.ticked polled report, s')
  | .tickAt time =>
    let ((polled, report), s') := s.tickAt time
    (.ticked polled report, s')
  | .highlight =>
    let (report, s') := s.pass
    (.passed report, s')
  | .scrollTo line cell => (.done, s.scrollTo line cell)
  | .resize width height => (.done, s.resize width height)
  | .reposition => (.done, s.reposition)
  | .pointerEnter i =>
    let (label, s') := s.pointerEnter i
    (.label label, s')
  | .pointerLeave i => (.done, s.pointerLeave i)
  | .subscribe => (.done, { s with surface := s.surface.subscribe })

/-- The session after a list of commands. -/
def run (s : Session σ) (commands : List Command) : Session σ :=
  commands.foldl (fun s c => (s.step c).2) s

@[simp] theorem run_nil (s : Session σ) : s.run [] = s := rfl

@[simp] theorem run_cons (s : Session σ) (c : Command) (rest : List Command) :
    s.run (c :: rest) = (s.step c).2.run rest := rfl

theorem run_append (s : Session σ) (first second : List Command) :
    s.run (first ++ second) = (s.run first).run second := List.foldl_append

end Session

end EditorPane
