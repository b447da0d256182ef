import EditorPane.Proofs.Session.Markers
import EditorPane.Syntax.Word

/-!
# Labels and drawn markers

A marker answers the pointer with its label as soon as it has a place, while it is drawn only if the
session is not stale as well. So the markers that can be hovered over are those that are drawn, as
long as no edit is pending. From an edit to the next pass nothing is drawn, and yet the markers of
the last pass still show their labels.

## Main results

* `markers_eq_nil_run` — without a pass there are no markers.
* `label_of_placed_marker` — the markers that have a label, against those that are drawn.
-/

namespace EditorPane

/-- The label that a marker answers the pointer with. -/
theorem Marker.tooltip?_pointerEnter (g : MarkerGeometry) (m : Marker) :
    m.pointerEnter.tooltip? g = m.placement.map fun place =>
      ⟨m.error.message, ⟨place.x + g.hoverLabelOffset, place.y⟩⟩ := by
  cases h : m.placement <;> simp [tooltip?, pointerEnter, isVisible, h]

namespace Session

variable {σ : Type}

theorem pointerEnter_eq (s : Session σ) (i : Nat) : (s.pointerEnter i).1
    = s.surface.markers[i]?.bind fun m => m.pointerEnter.tooltip? s.surface.geometry := by
  simp only [pointerEnter, ErrorSurface.pointerEnter, List.getElem?_modify_eq]
  exact Option.bind_map

/-! ## Where markers come from -/

theorem markers_eq_nil_tickAt {s : Session σ} (h : s.lastPainted = none → s.surface.markers = [])
    (time : Nat) :
    (s.tickAt time).2.lastPainted = none → (s.tickAt time).2.surface.markers = [] := by
  cases hwin : (s.scheduler.pollAt time).1.winner with
  | none =>
    rw [tickAt_of_winner_none hwin]
    exact h
  | some winner =>
    obtain ⟨report, htick, -⟩ := tickAt_of_winner_some hwin
    rw [htick]
    intro hnone
    cases hnone

/-- Only a pass makes markers. -/
theorem markers_eq_nil_step {s : Session σ} (h : s.lastPainted = none → s.surface.markers = [])
    (c : Command) : (s.step c).2.lastPainted = none → (s.step c).2.surface.markers = [] := by
  cases c with
  | edit c =>
    simp only [step, edit]
    cases s.buffer.run? c with
    | error e => exact h
    | ok result =>
      obtain ⟨event, b⟩ := result
      cases event <;> exact h
  | notify | advance | poll | disarm | subscribe => exact h
  | tick => exact markers_eq_nil_tickAt h _
  | tickAt time => exact markers_eq_nil_tickAt h time
  | highlight =>
    intro hnone
    cases hnone
  | scrollTo | resize | reposition =>
    intro hnone
    exact List.map_eq_nil_iff.2 (h hnone)
  | pointerEnter i | pointerLeave i =>
    intro hnone
    have hnil : s.surface.markers = [] := h hnone
    simp [step, Session.pointerEnter, Session.pointerLeave, ErrorSurface.pointerEnter,
      ErrorSurface.pointerLeave, hnil]

theorem markers_eq_nil_run (b : Buffer) (p : Parser σ) (c : Config) (commands : List Command) :
    ((start b p c).run commands).lastPainted = none →
      ((start b p c).run commands).surface.markers = [] := by
  induction commands using List.reverseRecOn with
  | nil => exact fun _ => rfl
  | append_singleton before d ih =>
    rw [run_concat]
    exact markers_eq_nil_step ih d

/-! ## Labels -/

/-- A marker is drawn if it has a place and no mutation has come since the last pass. -/
theorem mem_visibleMarkers_iff {s : Session σ} {times : List Nat} {m : Marker}
    (howes : s.scheduler.Owes (s.lastPainted.getD default) times) (hfew : times.length < 2 ^ 96)
    (hpainted : s.lastPainted = none → s.surface.markers = []) (hm : m ∈ s.surface.markers) :
    m ∈ s.visibleMarkers ↔ m.isVisible = true ∧ times = [] := by
  have hstale : s.isStale = false ↔ times = [] := by
    refine ⟨eq_nil_of_not_isStale howes hfew, ?_⟩
    rintro rfl
    refine not_isStale_of_owes ?_ howes
    rw [Option.isSome_iff_ne_none]
    intro hnone
    rw [hpainted hnone] at hm
    cases hm
  simp [visibleMarkers, hm, hstale, and_comm]

/-- Let a session's own commands have led to some state. The pointer gets a label only from a marker
that has a place, and such a marker is drawn exactly if no mutation has come since the last pass.
Every marker that is drawn answers the pointer with its label. -/
theorem label_of_placed_marker (b : Buffer) (p : Parser σ) (c : Config) (commands : List Command)
    (hown : ∀ d ∈ commands, d.isOwn = true)
    (hfew : (mutationTimes ((start b p c).events commands)).length < 2 ^ 96) :
    let s := (start b p c).run commands
    let es := (start b p c).events commands
    (∀ i label, (s.pointerEnter i).1 = some label →
      ∃ m, s.surface.markers[i]? = some m ∧ m.isVisible = true ∧ label.text = m.error.message ∧
        (m ∈ s.visibleMarkers ↔ unpainted es = [])) ∧
    ∀ i m, s.surface.markers[i]? = some m → m ∈ s.visibleMarkers →
      ∃ label, (s.pointerEnter i).1 = some label ∧ label.text = m.error.message := by
  intro s es
  have hdrawn {m : Marker} (hm : m ∈ s.surface.markers) :
      m ∈ s.visibleMarkers ↔ m.isVisible = true ∧ unpainted es = [] :=
    mem_visibleMarkers_iff (owes_run b p c hown) ((length_unpainted_le es).trans_lt hfew)
      (markers_eq_nil_run b p c commands) hm
  constructor
  · intro i label hlabel
    rw [pointerEnter_eq, Option.bind_eq_some_iff] at hlabel
    obtain ⟨m, hm, hlabel⟩ := hlabel
    rw [Marker.tooltip?_pointerEnter, Option.map_eq_some_iff] at hlabel
    obtain ⟨place, hplace, rfl⟩ := hlabel
    have hvisible : m.isVisible = true := by rw [Marker.isVisible, hplace]; rfl
    refine ⟨m, hm, hvisible, rfl, ?_⟩
    rw [hdrawn (List.mem_of_getElem? hm)]
    exact and_iff_right hvisible
  · intro i m hm hmem
    obtain ⟨hvisible, -⟩ := (hdrawn (List.mem_of_getElem? hm)).1 hmem
    obtain ⟨place, hplace⟩ := Option.isSome_iff_exists.1 hvisible
    rw [pointerEnter_eq, hm, Option.bind_some, Marker.tooltip?_pointerEnter, hplace]
    exact ⟨_, rfl, rfl⟩

/-- A quote that is not closed has a marker with a label. Once the text goes on, the marker is no
longer drawn. -/
theorem label_of_placed_quote :
    let s := start (.ofText ['"'] 2) (.ofFunction fun t => .ok { wordParse t with tree := none })
      default
    let commands : List Command :=
      [.advance 5, .highlight, .scrollTo 1 0, .edit (.insert ⟨1, 1⟩ ['x'])]
    (∀ d ∈ commands, d.isOwn = true) ∧ (mutationTimes (s.events commands)).length < 2 ^ 96 ∧
      unpainted (s.events commands) = [5] ∧
      ∃ m, (s.run commands).surface.markers[0]? = some m ∧ m.isVisible = true ∧
        m.error.message = "token recognition error at: '\"'" ∧
        m ∉ (s.run commands).visibleMarkers := by
  intro s commands
  have hown : ∀ d ∈ commands, d.isOwn = true := by decide
  have hfew : (mutationTimes (s.events commands)).length < 2 ^ 96 := by decide +kernel
  have htimes : unpainted (s.events commands) = [5] := by decide +kernel
  have hlabel : ((s.run commands).pointerEnter 0).1
      = some ⟨"token recognition error at: '\"'", ⟨33, 25⟩⟩ := by decide +kernel
  obtain ⟨hplaced, -⟩ := label_of_placed_marker _ _ _ commands hown hfew
  obtain ⟨m, hm, hvisible, hmessage, hdrawn⟩ := hplaced 0 _ hlabel
  refine ⟨hown, hfew, htimes, m, hm, hvisible, hmessage.symm, ?_⟩
  intro hmem
  have hnil : unpainted (s.events commands) = [] := hdrawn.1 hmem
  rw [htimes] at hnil
  cases hnil

/-- So the pointer can get a label where no marker is drawn at all. -/
theorem label_without_drawn_marker :
    let s := start (.ofText ['"'] 2) (.ofFunction fun t => .ok { wordParse t with tree := none })
      default
    let commands : List Command := [.highlight, .edit (.insert ⟨1, 1⟩ ['x'])]
    (∀ d ∈ commands, d.isOwn = true) ∧
      ((s.run commands).pointerEnter 0).1
        = some ⟨"token recognition error at: '\"'", ⟨33, 25⟩⟩ ∧
      (s.run commands).visibleMarkers = [] := by
  intro s commands
  exact ⟨by decide, by decide +kernel, by decide +kernel⟩

end Session

end EditorPane
