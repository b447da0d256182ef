import EditorPane.Text.Document
import EditorPane.Tag.Layers
import EditorPane.View.Cell
import EditorPane.View.Viewport

/-!
# Buffers

A buffer holds an edited text, the tags on it and the window it is seen through. Every accepted
edit raises its version and is reported to all observers, each of which keeps the events it has
received since it was registered.

## Main definitions

* `Buffer`, `Buffer.ofText` — the state and a fresh one.
* `MutationEvent`, `Buffer.observe`, `Buffer.received` — what observers are told.
* `BufferError` — why a request is refused.
-/

namespace EditorPane

/-- The kinds of accepted edits. -/
inductive MutationKind where
  | insert
  | delete
  | replace
  deriving DecidableEq, Repr

/-- The report of an accepted edit: the version it led to and the range of the new text. -/
structure MutationEvent where
  kind : MutationKind
  version : Nat
  start : Nat
  stop : Nat
  deriving DecidableEq, Repr

/-- Why a request that addresses text is refused. -/
inductive BufferError where
  | invalidPosition (p : Position)
  | invalidSpan (s : Span)
  deriving DecidableEq, Repr

/-- The wording of the refusal. -/
def BufferError.message : BufferError → String
  | invalidPosition p => s!"invalid position {p}"
  | invalidSpan s => s!"invalid span {s}"

/-- An edited text with its tags, observers and view. -/
structure Buffer where
  document : Document
  layers : Layers
  /-- The number that the next tag call gets. -/
  nextSeq : Nat
  /-- The number of accepted edits. -/
  version : Nat
  /-- The events each observer has received, oldest first. -/
  observers : List (List MutationEvent)
  viewport : Viewport
  metrics : CellMetrics
  tabWidth : Nat
  deriving DecidableEq

namespace Buffer

/-- A buffer over `t` without tags or observers, seen through the usual window. -/
def ofText (t : Text) (tabWidth : Nat) : Buffer where
  document := ⟨t⟩
  layers := Layers.empty
  nextSeq := 0
  version := 0
  observers := []
  viewport := default
  metrics := default
  tabWidth := max tabWidth 1

/-- A buffer without text, with tabs of the usual width. -/
instance : Inhabited Buffer := ⟨ofText [] defaultTabWidth⟩

/-- The text. -/
def text (b : Buffer) : Text := b.document.text

/-! ## Observers -/

/-- Register an observer. -/
def observe (b : Buffer) : Buffer := { b with observers := b.observers ++ [[]] }

/-- What the `i`-th observer has received. -/
def received (b : Buffer) (i : Nat) : List MutationEvent := b.observers[i]?.getD []

/-- The buffer after an edit has been reported. -/
def notify (b : Buffer) (event : MutationEvent) : Buffer :=
  { b with version := event.version, observers := b.observers.map (· ++ [event]) }

@[simp] theorem document_ofText (t : Text) (tabWidth : Nat) : (ofText t tabWidth).document = ⟨t⟩ :=
  rfl

@[simp] theorem document_notify (b : Buffer) (event : MutationEvent) :
    (b.notify event).document = b.document := rfl

@[simp] theorem layers_notify (b : Buffer) (event : MutationEvent) :
    (b.notify event).layers = b.layers := rfl

@[simp] theorem version_notify (b : Buffer) (event : MutationEvent) :
    (b.notify event).version = event.version := rfl

/-- Every observer is told of an edit, after all edits before it. -/
theorem received_notify (b : Buffer) (event : MutationEvent) {i : Nat}
    (h : i < b.observers.length) :
    (b.notify event).received i = b.received i ++ [event] := by
  simp [received, notify, h]

/-- An observer knows nothing of the edits before it was registered. -/
@[simp] theorem received_observe (b : Buffer) : b.observe.received b.observers.length = [] := by
  simp [received, observe]

end Buffer

end EditorPane
