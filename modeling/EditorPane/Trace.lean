import EditorPane.Session

/-!
# The trace

What an editor writes to its trace about the things it does. Every record has a level, a message
and named values, all of them text. The records of an operation are read off its result.

## Main definitions

* `Record`, `Level` — the records.
* `MutationEvent.record`, `TagReport.records`, `SyncReport.records`, `PaintResult.records`,
  `PollResult.records`, `PassReport.records` — the records of the parts.
* `Session.Reply.records` — the records of a command.
-/

namespace EditorPane

/-- How much a record matters. -/
inductive Level where
  | trace
  | debug
  | warn
  deriving DecidableEq, Repr

/-- The name of a level. -/
def Level.name : Level → String
  | trace => "TRACE"
  | debug => "DEBUG"
  | warn => "WARN"

/-- An entry of the trace. -/
structure Record where
  level : Level
  message : String
  fields : List (String × String)
  deriving DecidableEq, Repr

/-! ## Values in full -/

/-- The name of a kind of edit. -/
def MutationKind.name : MutationKind → String
  | insert => "Insert"
  | delete => "Delete"
  | replace => "Replace"

/-- The name of an outcome. -/
def ParseOutcome.name : ParseOutcome → String
  | parsed _ => "Parsed"
  | noTree _ => "NoTree"
  | failed _ => "Failed"

/-- A position with the names of its parts. -/
def Position.inFull (p : Position) : String :=
  s!"Position \x7b line: {p.line}, column: {p.column} \x7d"

/-- A refusal with the names of its parts. -/
def BufferError.inFull : BufferError → String
  | invalidPosition p => s!"InvalidPosition({p.inFull})"
  | invalidSpan s => s!"InvalidSpan(Span \x7b start: {s.start.inFull}, end: {s.stop.inFull} \x7d)"

/-- A generation with the names of its parts. -/
def Generation.inFull (g : Generation) : String :=
  s!"Generation \x7b epoch: {g.epoch.toNat}, count: {g.count.toNat} \x7d"

/-- Milliseconds after the point of a number of seconds, without the zeros at its end. -/
def millisecondDigits (n : Nat) : String :=
  if n = 0 then ""
  else if n % 100 = 0 then s!".{n / 100}"
  else if n % 10 = 0 then s!".{n / 100}{n / 10 % 10}"
  else s!".{n / 100}{n / 10 % 10}{n % 10}"

/-- A time in milliseconds, in seconds from one second on. -/
def timeInFull (ms : Nat) : String :=
  if 1000 ≤ ms then s!"{ms / 1000}{millisecondDigits (ms % 1000)}s"
  else if ms = 0 then "0ns"
  else s!"{ms}ms"

/-- A scheduler with the names of its parts; of what is armed only the number is shown. -/
def Scheduler.inFull (s : Scheduler) : String :=
  s!"HighlightScheduler \x7b generation: {s.generation.inFull}, pending: {s.pending}, "
    ++ s!"quiet_interval: {timeInFull s.quiet} \x7d"

/-! ## Records of the parts -/

/-- The record of an accepted edit. -/
def MutationEvent.record (e : MutationEvent) : Record :=
  ⟨.trace, "buffer mutated", [("version", toString e.version), ("kind", e.kind.name)]⟩

/-- The record of a callback armed for a generation. -/
def Generation.armedRecord (g : Generation) : Record :=
  ⟨.trace, "armed highlight callback",
    [("epoch", toString g.epoch.toNat), ("count", toString g.count.toNat)]⟩

/-- The record of dropping armed callbacks, if there were any. -/
def disarmRecords (count : Nat) : List Record :=
  if count = 0 then []
  else [⟨.trace, "disarmed highlight callbacks", [("dropped", toString count)]⟩]

/-- The record of a callback that came due too late. -/
def Superseded.record (s : Superseded) : Record :=
  ⟨.debug, "superseded highlight callback discarded",
    [("token", toString s.token.count.toNat), ("current", toString s.current.count.toNat)]⟩

/-- The record of firing a single callback, if it was superseded. -/
def Scheduler.fireRecords (s : Scheduler) (token : Generation) : List Record :=
  if s.fire token then [] else [Superseded.record ⟨token, s.generation⟩]

/-- The records of firing what was due. -/
def PollResult.records (r : PollResult) : List Record := r.discarded.map Superseded.record

/-- The records of painting. -/
def PaintResult.records (r : PaintResult) : List Record :=
  let parse : Record := match r.outcome with
    | .parsed tokens | .noTree tokens => ⟨.trace, "parser returned", [("tokens", toString tokens)]⟩
    | .failed f => ⟨.warn, "parse failed, painting comments only", [("err", f.description)]⟩
  [parse, ⟨.debug, "painted buffer",
    [("syntactic", toString r.syntactic.length), ("comments", toString r.comments.length),
      ("errors", toString r.errors.length), ("outcome", r.outcome.name)]⟩]

/-- The records of applying the batch with the given number. -/
def TagReport.records (r : TagReport) (batch : Nat) : List Record :=
  (r.rejected.map fun (c, e) => (⟨.trace, "skipping stale decoration",
    [("class", c.visualClass.name), ("err", e.inFull)]⟩ : Record))
  ++ [⟨.trace, "applied decoration batch",
    [("batch", toString batch), ("applied", toString r.applied),
      ("skipped", toString r.skipped)]⟩]

/-- The records of showing errors. -/
def SyncReport.records (r : SyncReport) : List Record :=
  (r.tags.rejected.map fun (c, e) => (⟨.trace, "error anchor out of range",
    [("line", toString c.span.start.line), ("column", toString c.span.start.column),
      ("err", e.inFull)]⟩ : Record))
  ++ [⟨.debug, "error surface synced",
    [("errors", toString r.errors), ("decorated", toString r.decorated),
      ("skipped", toString r.skipped)]⟩]

/-- The records of a pass. -/
def PassReport.records (r : PassReport) : List Record :=
  disarmRecords r.disarmed ++ r.painted.records ++ r.decorations.records (r.batch + 1)
    ++ r.sync.records
    ++ [⟨.debug, "highlight pass complete",
      [("generation", toString r.generation.count.toNat),
        ("applied", toString r.decorations.applied), ("errors", toString r.sync.errors)]⟩]

/-! ## Records of a session -/

/-- The records of a command. -/
def Session.Reply.records : Session.Reply → List Record
  | .done | .refused _ | .label _ => []
  | .mutated event generation =>
    (event.map MutationEvent.record).toList ++ [generation.armedRecord]
  | .polled result => result.records
  | .disarmed count => disarmRecords count
  | .ticked result report => result.records ++ (report.map PassReport.records).getD []
  | .passed report => report.records

end EditorPane
