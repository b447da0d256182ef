import EditorPane.Buffer.Tag
import EditorPane.Buffer.Geometry

/-!
# Commands of a buffer

The requests that change a buffer, as data. Running one either refuses it, leaving the buffer as
it was, or gives the new buffer together with the event of the edit if it was one.

## Main definitions

* `Buffer.Command`, `Buffer.run?`, `Buffer.run`.
-/

namespace EditorPane

namespace Buffer

/-- A request to change a buffer. -/
inductive Command where
  | insert (p : Position) (new : Text)
  | delete (s : Span)
  | replace (s : Span) (new : Text)
  | setText (new : Text)
  | tag (s : Span) (c : VisualClass)
  | untag (c : VisualClass)
  | setViewport (v : Viewport)
  | scrollTo (line cell : Nat)
  | resize (width height : Nat)
  | setMetrics (m : CellMetrics)
  | setTabWidth (n : Nat)
  deriving DecidableEq, Repr

/-- Carry out a request. The event is that of an accepted edit. -/
def run? (b : Buffer) : Command → Except BufferError (Option MutationEvent × Buffer)
  | .insert p new => (b.insert p new).map fun r => (some r.1, r.2)
  | .delete s => (b.delete s).map fun r => (some r.1, r.2)
  | .replace s new => (b.replace s new).map fun r => (some r.1, r.2)
  | .setText new => let r := b.setText new; .ok (some r.1, r.2)
  | .tag s c => (b.tag s c).map fun b' => (none, b')
  | .untag c => .ok (none, b.untag c)
  | .setViewport v => .ok (none, b.setViewport v)
  | .scrollTo line cell => .ok (none, b.scrollTo line cell)
  | .resize width height => .ok (none, b.resize width height)
  | .setMetrics m => .ok (none, b.setMetrics m)
  | .setTabWidth n => .ok (none, b.setTabWidth n)

/-- The buffer after a request, the same one if it is refused. -/
def run (b : Buffer) (c : Command) : Buffer :=
  match b.run? c with
  | .ok r => r.2
  | .error _ => b

end Buffer

end EditorPane
