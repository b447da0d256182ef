import EditorPane.Buffer.Geometry
import EditorPane.Diagnostic.SyntaxError

/-!
# Error markers

A marker floats just below the character that an error points to, and is hidden while that
character has no box on screen. While the pointer is over a marker its message is shown beside it.

## Main definitions

* `MarkerGeometry`, `Point`, `Tooltip`.
* `Marker`, `Marker.reposition`, `Marker.pointerEnter`, `Marker.pointerLeave`, `Marker.tooltip?`.
-/

namespace EditorPane

/-- Where markers and their labels are drawn, in pixels. -/
structure MarkerGeometry where
  /-- From the character down to the marker. -/
  distanceFromChar : Int
  /-- From the marker across to its label. -/
  hoverLabelOffset : Int
  paddingX : Int
  paddingY : Int
  deriving DecidableEq, Repr

instance : Inhabited MarkerGeometry := ⟨⟨20, 36, 5, 5⟩⟩

/-- A place on screen. -/
structure Point where
  x : Int
  y : Int
  deriving DecidableEq, Repr

/-- A label with its place. -/
structure Tooltip where
  text : String
  place : Point
  deriving DecidableEq, Repr

/-- A marker for an error: where it is drawn, if it is, and whether the pointer is over it. -/
structure Marker where
  error : SyntaxError
  placement : Option Point
  hovered : Bool
  deriving DecidableEq, Repr

/-- Where the marker of a character with the given box is drawn. The sums are those of a machine as
long as they are coordinates, see `MarkerGeometry.place_eq_words`. -/
def MarkerGeometry.place (g : MarkerGeometry) (box : Rect) : Point where
  x := box.x + g.paddingX - signedPixel box.width
  y := box.y + g.distanceFromChar + g.paddingY

/-- Sums of coordinates may wrap around on the way, only the place itself has to fit. -/
theorem MarkerGeometry.place_eq_words {g : MarkerGeometry} {box : Rect}
    (hx : IsCoordinate (g.place box).x) (hy : IsCoordinate (g.place box).y) :
    g.place box
      = ⟨(Int32.ofInt box.x + Int32.ofInt g.paddingX - Int32.ofInt (signedPixel box.width)).toInt,
        (Int32.ofInt box.y + Int32.ofInt g.distanceFromChar + Int32.ofInt g.paddingY).toInt⟩ := by
  have hplaceX : (Int32.ofInt (box.x + g.paddingX - signedPixel box.width)).toInt
      = (g.place box).x := toInt_ofInt_of_isCoordinate hx
  have hplaceY : (Int32.ofInt (box.y + g.distanceFromChar + g.paddingY)).toInt
      = (g.place box).y := toInt_ofInt_of_isCoordinate hy
  rw [← Int32.ofInt_add, ← Int32.ofInt_sub, hplaceX, ← Int32.ofInt_add, ← Int32.ofInt_add, hplaceY]

namespace Marker

/-- A hidden marker. -/
def ofError (e : SyntaxError) : Marker := ⟨e, none, false⟩

/-- The place in the text that the marker belongs to. -/
def anchor (m : Marker) : Position := m.error.position

/-- The marker is drawn. -/
def isVisible (m : Marker) : Bool := m.placement.isSome

/-- Draw the marker where its character is now. A marker that is not drawn loses the pointer. -/
def reposition (g : MarkerGeometry) (b : Buffer) (m : Marker) : Marker :=
  match b.box? m.anchor with
  | some box => { m with placement := some (g.place box) }
  | none => { m with placement := none, hovered := false }

/-- The label shown now. Its place too is that of a machine as long as it is a coordinate, see
`Marker.tooltip?_eq_words`. -/
def tooltip? (g : MarkerGeometry) (m : Marker) : Option Tooltip :=
  match m.hovered, m.placement with
  | true, some p => some ⟨m.error.message, ⟨p.x + g.hoverLabelOffset, p.y⟩⟩
  | _, _ => none

theorem tooltip?_eq_words {g : MarkerGeometry} {m : Marker} {t : Tooltip}
    (h : m.tooltip? g = some t) (hx : IsCoordinate t.place.x) : ∃ p, m.placement = some p ∧
      t.place = ⟨(Int32.ofInt p.x + Int32.ofInt g.hoverLabelOffset).toInt, p.y⟩ := by
  unfold tooltip? at h
  split at h
  · next p _ hplacement =>
    cases h
    refine ⟨p, hplacement, ?_⟩
    rw [← Int32.ofInt_add, toInt_ofInt_of_isCoordinate hx]
  · cases h

/-- The pointer comes over the marker, which has to be drawn for that. -/
def pointerEnter (m : Marker) : Marker := { m with hovered := m.hovered || m.isVisible }

/-- The pointer goes away. -/
def pointerLeave (m : Marker) : Marker := { m with hovered := false }

@[simp] theorem error_reposition (g : MarkerGeometry) (b : Buffer) (m : Marker) :
    (m.reposition g b).error = m.error := by
  unfold reposition
  split <;> rfl

theorem placement_reposition (g : MarkerGeometry) (b : Buffer) (m : Marker) :
    (m.reposition g b).placement = (b.box? m.anchor).map g.place := by
  unfold reposition
  split <;> simp_all

@[simp] theorem anchor_reposition (g : MarkerGeometry) (b : Buffer) (m : Marker) :
    (m.reposition g b).anchor = m.anchor := by
  rw [anchor, error_reposition, anchor]

/-- A marker that has just been placed is drawn if its character has a box. -/
theorem isVisible_reposition (g : MarkerGeometry) (b : Buffer) (m : Marker) :
    (m.reposition g b).isVisible = (b.box? m.anchor).isSome := by
  rw [isVisible, placement_reposition, Option.isSome_map]

theorem hovered_reposition_ofError (g : MarkerGeometry) (b : Buffer) (e : SyntaxError) :
    ((ofError e).reposition g b).hovered = false := by
  unfold reposition
  split <;> rfl

@[simp] theorem error_pointerEnter (m : Marker) : m.pointerEnter.error = m.error := rfl

@[simp] theorem error_pointerLeave (m : Marker) : m.pointerLeave.error = m.error := rfl

end Marker

end EditorPane
