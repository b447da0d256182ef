import EditorPane.Decoration
import EditorPane.Diagnostic.Log
import EditorPane.Diagnostic.Marker

/-!
# The error surface

All that is shown about syntax errors: the error tags of a buffer, the log, and one marker for
each error. A new list of errors replaces everything that was shown for the one before.
Subscribers receive every list.

## Main definitions

* `ErrorSurface`, `ErrorSurface.sync`, `SyncReport`.
* `ErrorSurface.reposition`, `ErrorSurface.pointerEnter`, `ErrorSurface.pointerLeave`.
-/

namespace EditorPane

/-- What came of showing a list of errors: their number, and how their tags fared. -/
structure SyncReport where
  errors : Nat
  tags : TagReport
  deriving DecidableEq, Repr

/-- The number of errors whose character was tagged. -/
def SyncReport.decorated (r : SyncReport) : Nat := r.tags.applied

/-- The number of errors that point outside the text. -/
def SyncReport.skipped (r : SyncReport) : Nat := r.tags.skipped

/-- What is shown about errors. -/
structure ErrorSurface where
  errors : List SyntaxError
  log : DiagnosticsLog
  markers : List Marker
  geometry : MarkerGeometry
  /-- The lists each subscriber has received, oldest first. -/
  subscribers : List (List (List SyntaxError))
  deriving DecidableEq

namespace ErrorSurface

/-- Nothing is shown. -/
def empty (g : MarkerGeometry) : ErrorSurface := ⟨[], default, [], g, []⟩

/-! ## Errors -/

/-- Tag the character of each error. -/
def tagErrors (b : Buffer) (errors : List SyntaxError) : TagReport × Buffer :=
  (b.untag .error).tagAll (errors.map fun e => ⟨.error, e.anchor⟩)

/-- Show the given errors in place of those shown before. -/
def sync (s : ErrorSurface) (b : Buffer) (errors : List SyntaxError) :
    SyncReport × Buffer × ErrorSurface :=
  let (tags, b') := tagErrors b errors
  (⟨errors.length, tags⟩, b', { s with
    errors := errors
    log := DiagnosticsLog.ofErrors errors
    markers := errors.map fun e => (Marker.ofError e).reposition s.geometry b'
    subscribers := s.subscribers.map (· ++ [errors]) })

@[simp] theorem errors_sync (s : ErrorSurface) (b : Buffer) (errors : List SyntaxError) :
    (s.sync b errors).2.2.errors = errors := rfl

/-- There is one marker for each error, in the same order. -/
@[simp] theorem map_error_markers_sync (s : ErrorSurface) (b : Buffer)
    (errors : List SyntaxError) : (s.sync b errors).2.2.markers.map Marker.error = errors := by
  simp [sync, Function.comp_def, Marker.ofError]

/-- Register a subscriber. -/
def subscribe (s : ErrorSurface) : ErrorSurface := { s with subscribers := s.subscribers ++ [[]] }

/-- What the `i`-th subscriber has received. -/
def received (s : ErrorSurface) (i : Nat) : List (List SyntaxError) := s.subscribers[i]?.getD []

/-! ## Markers -/

/-- Draw every marker where its character is now. -/
def reposition (s : ErrorSurface) (b : Buffer) : ErrorSurface :=
  { s with markers := s.markers.map (Marker.reposition s.geometry b) }

/-- The pointer comes over the `i`-th marker; the label it then shows. -/
def pointerEnter (s : ErrorSurface) (i : Nat) : Option Tooltip × ErrorSurface :=
  let s' := { s with markers := s.markers.modify i Marker.pointerEnter }
  (s'.markers[i]?.bind (Marker.tooltip? s.geometry), s')

/-- The pointer leaves the `i`-th marker. -/
def pointerLeave (s : ErrorSurface) (i : Nat) : ErrorSurface :=
  { s with markers := s.markers.modify i Marker.pointerLeave }

end ErrorSurface

end EditorPane
