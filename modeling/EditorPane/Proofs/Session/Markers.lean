import EditorPane.Proofs.Session.Display
import EditorPane.Proofs.Session.Staleness

/-!
# Drawn markers are never out of place

A marker keeps the pixels at which it was last placed, while the text and the window go their own
ways. It is out of place once the text is edited, but then the session is stale and draws no marker;
a scroll or a new size of the window places all markers anew. Hence whatever is drawn is drawn where
its character is now, as long as the window is changed through the session.

## Main definitions

* `Command.isHosted` — commands of the session that leave the window to it.
* `lastReport` — the report of the last pass of a run.
* `Placed` — the markers are those of the last pass, and in place unless an edit is pending.

## Main results

* `placed_run` — every run keeps its markers in place.
* `drawn_markers_in_place` — what is drawn after a run.
-/

namespace EditorPane

/-- The request leaves the window, the size of its cells and the width of its tabs alone. -/
def Buffer.Command.keepsView : Buffer.Command → Bool
  | .setViewport _ | .scrollTo _ _ | .resize _ _ | .setMetrics _ | .setTabWidth _ => false
  | _ => true

/-- An accepted request that is neither an edit nor about the window changes tags only. -/
theorem Buffer.SameView.of_run? {b b' : Buffer} {c : Buffer.Command} (hc : c.keepsView = true)
    (h : b.run? c = .ok (none, b')) : SameView b' b := by
  cases c with
  | insert | delete | replace =>
    simp only [run?, Except.map] at h
    split at h <;> cases h
  | setText => cases h
  | tag s v =>
    simp only [run?, Except.map] at h
    split at h
    · cases h
    · next t htag =>
      cases h
      exact .of_tag htag
  | untag v =>
    cases h
    exact ⟨rfl, rfl, rfl, rfl⟩
  | setViewport | scrollTo | resize | setMetrics | setTabWidth => cases hc

namespace Marker

/-- The markers that are drawn, given that each is where its character is. -/
theorem map_filter_isVisible {g : MarkerGeometry} {b : Buffer} {markers : List Marker}
    (h : ∀ m ∈ markers, m.placement = (b.box? m.anchor).map g.place) :
    (markers.filter isVisible).map (fun m => (m.error, m.placement))
      = (markers.map error).filterMap fun e =>
          (b.box? e.position).map fun box => (e, some (g.place box)) := by
  induction markers with
  | nil => rfl
  | cons m rest ih =>
    have hm : m.placement = (b.box? m.error.position).map g.place := h m List.mem_cons_self
    have hrest := ih fun n hn => h n (List.mem_cons_of_mem m hn)
    rw [List.map_cons, List.filterMap_cons, List.filter_cons]
    cases hbox : b.box? m.error.position with
    | none =>
      rw [hbox] at hm
      rw [if_neg (by simp [isVisible, hm]), hrest]
      rfl
    | some box =>
      rw [hbox] at hm
      rw [if_pos (by simp [isVisible, hm]), List.map_cons, hrest, hm]
      rfl

end Marker

/-- A change of one entry does not show in what it leaves alone. -/
theorem map_modify_of_eq {α β : Type} {f : α → β} {g : α → α} (h : ∀ x, f (g x) = f x)
    (l : List α) (i : Nat) : (l.modify i g).map f = l.map f := by
  apply List.ext_getElem?
  intro j
  rw [List.getElem?_map, List.getElem?_modify, List.getElem?_map]
  cases l[j]? with
  | none => rfl
  | some x =>
    by_cases hij : i = j
    · simp [hij, h]
    · simp [hij]

namespace Session

variable {σ : Type}

/-- The command is the session's own, and the window is left to the session as well. -/
def Command.isHosted : Command → Bool
  | .edit c => c.keepsView
  | c => c.isOwn

theorem Command.isOwn_of_isHosted {c : Command} (h : c.isHosted = true) : c.isOwn = true := by
  cases c with
  | edit => rfl
  | _ => exact h

/-! ## The last pass -/

/-- The report of the last pass among the events. -/
def lastReport (es : List Event) : Option PassReport :=
  (es.filterMap fun e => e.reply.report?).getLast?

/-- The errors that the last pass found; none if there was no pass. -/
def lastErrors (es : List Event) : List SyntaxError :=
  ((lastReport es).map fun report => report.painted.errors).getD []

theorem lastReport_concat_of_report {es : List Event} {e : Event} {report : PassReport}
    (h : e.reply.report? = some report) : lastReport (es ++ [e]) = some report := by
  simp [lastReport, h]

theorem lastReport_concat_of_no_report {es : List Event} {e : Event}
    (h : e.reply.report? = none) : lastReport (es ++ [e]) = lastReport es := by
  simp [lastReport, h]

/-! ## Markers in place -/

/-- After the events `es`, the session has a marker for each error of the last pass, and each is
where its character is unless an edit has come since that pass. -/
structure Placed (g : MarkerGeometry) (es : List Event) (s : Session σ) : Prop where
  geometry : s.surface.geometry = g
  painted : s.lastPainted.isSome = (lastReport es).isSome
  errors : s.surface.markers.map Marker.error = lastErrors es
  placement : unpainted es = [] →
    ∀ m ∈ s.surface.markers, m.placement = (s.buffer.box? m.anchor).map g.place

namespace Placed

variable {g : MarkerGeometry} {es : List Event} {s t : Session σ} {e : Event}

/-- A command without a pass keeps the markers, and what is left to show is their places. -/
theorem keep (h : Placed g es s) (hreport : e.reply.report? = none)
    (hgeometry : t.surface.geometry = s.surface.geometry)
    (hpainted : t.lastPainted = s.lastPainted)
    (herrors : t.surface.markers.map Marker.error = s.surface.markers.map Marker.error)
    (hplacement : e.reply.isMutation = false → unpainted es = [] →
      ∀ m ∈ t.surface.markers, m.placement = (t.buffer.box? m.anchor).map g.place) :
    Placed g (es ++ [e]) t := by
  refine ⟨hgeometry.trans h.geometry, ?_, ?_, fun hnil => ?_⟩
  · rw [hpainted, h.painted, lastReport_concat_of_no_report hreport]
  · rw [herrors, h.errors, lastErrors, lastErrors, lastReport_concat_of_no_report hreport]
  · rw [unpainted_concat_of_no_report hreport, List.append_eq_nil_iff,
      mutationTimes_singleton] at hnil
    refine hplacement ?_ hnil.1
    cases hmut : e.reply.isMutation with
    | false => rfl
    | true => simp [hmut] at hnil

theorem pass (h : Placed g es s) {report : PassReport} (hreport : e.reply.report? = some report)
    (hpainted : report.painted = s.pass.1.painted) : Placed g (es ++ [e]) s.pass.2 := by
  refine ⟨h.geometry, ?_, ?_, fun _ m hm => ?_⟩
  · rw [lastReport_concat_of_report hreport]
    rfl
  · rw [lastErrors, lastReport_concat_of_report hreport, Option.map_some, hpainted]
    exact ErrorSurface.map_error_markers_sync _ _ _
  · rw [markers_pass, List.mem_map] at hm
    obtain ⟨error, -, rfl⟩ := hm
    rw [Marker.placement_reposition, Marker.anchor_reposition, h.geometry]

theorem edit (h : Placed g es s) {c : Buffer.Command} (hc : c.keepsView = true) (clock : Nat) :
    Placed g (es ++ [⟨clock, .edit c, (s.step (.edit c)).1⟩]) (s.step (.edit c)).2 := by
  simp only [step, Session.edit]
  cases hrun : s.buffer.run? c with
  | error refusal => exact h.keep rfl rfl rfl rfl fun _ => h.placement
  | ok result =>
    obtain ⟨event, b⟩ := result
    cases event with
    | none =>
      refine h.keep rfl rfl rfl rfl fun _ hnil m hm => ?_
      rw [(Buffer.SameView.of_run? hc hrun).box?_eq]
      exact h.placement hnil m hm
    | some event => exact h.keep rfl rfl rfl rfl fun hmut => by cases hmut

theorem tickAt (h : Placed g es s) (time clock : Nat) (c : Command) :
    Placed g (es ++ [⟨clock, c, .ticked (s.tickAt time).1.1 (s.tickAt time).1.2⟩])
      (s.tickAt time).2 := by
  cases hwin : (s.scheduler.pollAt time).1.winner with
  | none =>
    rw [tickAt_of_winner_none hwin]
    exact h.keep rfl rfl rfl rfl fun _ => h.placement
  | some winner =>
    obtain ⟨report, htick, -, hpainted⟩ := tickAt_of_winner_some hwin
    rw [htick]
    exact h.pass rfl hpainted

/-- Wherever the window has gone, the markers go with it. -/
theorem reposition (h : Placed g es s) (b : Buffer) (hreport : e.reply.report? = none) :
    Placed g (es ++ [e]) ({ s with buffer := b } : Session σ).reposition := by
  refine h.keep hreport rfl rfl ?_ fun _ _ m hm => ?_
  · simp [Session.reposition, ErrorSurface.reposition, Function.comp_def]
  · obtain ⟨n, -, rfl⟩ := List.mem_map.1 hm
    rw [Marker.placement_reposition, Marker.anchor_reposition, h.geometry]
    rfl

/-- The pointer moves no marker. -/
theorem pointer (h : Placed g es s) (i : Nat) {f : Marker → Marker}
    (herror : ∀ m, (f m).error = m.error) (hplacement : ∀ m, (f m).placement = m.placement)
    (hreport : e.reply.report? = none) :
    Placed g (es ++ [e])
      { s with surface := { s.surface with markers := s.surface.markers.modify i f } } := by
  refine h.keep hreport rfl rfl (map_modify_of_eq herror _ i) fun _ hnil m hm => ?_
  have hshown : (m.error, m.placement)
      ∈ s.surface.markers.map fun n => (n.error, n.placement) := by
    rw [← map_modify_of_eq (g := f) (fun n => by rw [herror, hplacement]) _ i]
    exact List.mem_map_of_mem hm
  obtain ⟨n, hn, heq⟩ := List.mem_map.1 hshown
  simp only [Prod.mk.injEq] at heq
  have := h.placement hnil n hn
  rwa [heq.2, Marker.anchor, heq.1] at this

end Placed

theorem placed_step {g : MarkerGeometry} {es : List Event} {s : Session σ} {c : Command}
    (h : Placed g es s) (hc : c.isHosted = true) (clock : Nat) :
    Placed g (es ++ [⟨clock, c, (s.step c).1⟩]) (s.step c).2 := by
  cases c with
  | edit c => exact h.edit hc clock
  | notify => exact h.keep rfl rfl rfl rfl fun hmut => by cases hmut
  | advance | subscribe => exact h.keep rfl rfl rfl rfl fun _ => h.placement
  | poll | disarm => cases hc
  | tick => exact h.tickAt _ clock _
  | tickAt time => exact h.tickAt time clock _
  | highlight => exact h.pass rfl rfl
  | scrollTo | resize | reposition => exact h.reposition _ rfl
  | pointerEnter i => exact h.pointer i (fun _ => rfl) (fun _ => rfl) rfl
  | pointerLeave i => exact h.pointer i (fun _ => rfl) (fun _ => rfl) rfl

theorem placed_run (b : Buffer) (p : Parser σ) (c : Config) {commands : List Command}
    (hhosted : ∀ d ∈ commands, d.isHosted = true) :
    Placed c.geometry ((start b p c).events commands) ((start b p c).run commands) := by
  induction commands using List.reverseRecOn with
  | nil => exact ⟨rfl, rfl, rfl, fun _ m hm => absurd hm List.not_mem_nil⟩
  | append_singleton before d ih =>
    rw [run_concat, events_concat]
    exact placed_step (ih fun e he => hhosted e (by simp [he])) (hhosted d (by simp)) _

/-! ## What is drawn -/

theorem visibleMarkers_of_isStale {s : Session σ} (h : s.isStale = true) :
    s.visibleMarkers = [] := by
  simp [visibleMarkers, h]

theorem not_isStale_of_owes {s : Session σ} (hpainted : s.lastPainted.isSome = true)
    (h : s.scheduler.Owes (s.lastPainted.getD default) []) : s.isStale = false := by
  obtain ⟨g, hg⟩ := Option.isSome_iff_exists.1 hpainted
  have hgeneration := h.generation_eq
  rw [hg] at hgeneration
  simp [isStale, hg, hgeneration]

/-- Let a session's own commands have led to some state, the window being changed through the
session only. If a mutation has come since the last pass, or if there was none, no marker is drawn.
Otherwise exactly those errors of the last pass have one whose character has a box in the window
now, in the order of the errors, and each marker is drawn next to the box as it is now. -/
theorem drawn_markers_in_place (b : Buffer) (p : Parser σ) (c : Config) (commands : List Command)
    (hhosted : ∀ d ∈ commands, d.isHosted = true)
    (hfew : (mutationTimes ((start b p c).events commands)).length < 2 ^ 96) :
    let s := (start b p c).run commands
    let es := (start b p c).events commands
    (unpainted es ≠ [] ∨ lastReport es = none → s.visibleMarkers = []) ∧
    ∀ report, unpainted es = [] → lastReport es = some report →
      (∀ e ∈ report.painted.errors, ∀ box, s.buffer.box? e.position = some box →
        2 * box.width < UInt32.size) →
      s.visibleMarkers.map (fun m => (m.error, m.placement))
        = report.painted.errors.filterMap fun e => (s.buffer.box? e.position).map fun box =>
            (e, some ⟨box.x + c.geometry.paddingX - box.width,
              box.y + c.geometry.distanceFromChar + c.geometry.paddingY⟩) := by
  intro s es
  have hplaced : Placed c.geometry es s := placed_run b p c hhosted
  have howes : s.scheduler.Owes (s.lastPainted.getD default) (unpainted es) :=
    owes_run b p c fun d hd => Command.isOwn_of_isHosted (hhosted d hd)
  constructor
  · intro hpending
    apply visibleMarkers_of_isStale
    rcases hpending with hne | hnone
    · have hshort := (length_unpainted_le es).trans_lt hfew
      rw [← List.dropLast_append_getLast hne] at howes hshort
      rw [List.length_append] at hshort
      exact isStale_of_owes howes hshort
    · have hpainted := hplaced.painted
      rw [hnone, Option.isSome_none, Option.isSome_eq_false_iff, Option.isNone_iff_eq_none]
        at hpainted
      simp [isStale, hpainted]
  · intro report hnil hreport hsmall
    have hstale : s.isStale = false := by
      rw [hnil] at howes
      exact not_isStale_of_owes (by rw [hplaced.painted, hreport]; rfl) howes
    have herrors : s.surface.markers.map Marker.error = report.painted.errors := by
      rw [hplaced.errors, lastErrors, hreport]
      rfl
    have hvisible : s.visibleMarkers = s.surface.markers.filter Marker.isVisible := by
      simp [visibleMarkers, hstale]
    rw [hvisible, Marker.map_filter_isVisible (hplaced.placement hnil), herrors]
    apply List.filterMap_congr
    intro e he
    cases hbox : s.buffer.box? e.position with
    | none => simp only [Option.map_none]
    | some box =>
      rw [Option.map_some, Option.map_some, MarkerGeometry.place,
        signedPixel_of_lt (hsmall e he box hbox)]

/-- The quote on line one is scrolled out of sight, the one on line two is drawn at the new top. -/
theorem drawn_markers_in_place_after_scroll :
    let s := start (.ofText ['"', '\n', '\t', '"'] 2) (.ofFunction fun _ =>
      .ok ⟨none, [], [⟨1, 0, "quote"⟩, ⟨2, 1, "quote"⟩]⟩) default
    let commands : List Command :=
      [.highlight, .pointerEnter 0, .edit (.tag (.between ⟨1, 0⟩ ⟨2, 1⟩) .keyword), .scrollTo 2 1]
    (∀ d ∈ commands, d.isHosted = true) ∧ (mutationTimes (s.events commands)).length < 2 ^ 96 ∧
      unpainted (s.events commands) = [] ∧
      (s.run commands).visibleMarkers.map (fun m => (m.error, m.placement))
        = [(⟨2, 1, "quote"⟩, some ⟨8 + 5 - 8, 0 + 20 + 5⟩)] := by
  intro s commands
  have hhosted : ∀ d ∈ commands, d.isHosted = true := by decide
  have hfew : (mutationTimes (s.events commands)).length < 2 ^ 96 := by decide +kernel
  have hnil : unpainted (s.events commands) = [] := by decide +kernel
  have hall := drawn_markers_in_place _ _ _ commands hhosted hfew
  rw [show start _ _ _ = s from rfl] at hall
  have herrors : (lastReport (s.events commands)).map (fun report => report.painted.errors)
      = some [⟨1, 0, "quote"⟩, ⟨2, 1, "quote"⟩] := by decide +kernel
  obtain ⟨report, hreport, hpainted⟩ := Option.map_eq_some_iff.1 herrors
  have hfirst : (s.run commands).buffer.box? ⟨1, 0⟩ = none := by decide +kernel
  have hsecond : (s.run commands).buffer.box? ⟨2, 1⟩ = some ⟨8, 0, 8, 18⟩ := by decide +kernel
  have hdrawn := hall.2 report hnil hreport
  rw [hpainted] at hdrawn
  refine ⟨hhosted, hfew, hnil, (hdrawn ?_).trans ?_⟩
  · intro e he box hbox
    rcases List.mem_cons.1 he with rfl | he
    · cases hfirst.symm.trans hbox
    · cases List.mem_singleton.1 he
      cases hsecond.symm.trans hbox
      decide
  · simp [SyntaxError.position, hfirst, hsecond]
    decide

end Session

end EditorPane
