import EditorPane.Proofs.Buffer.Reachable
import EditorPane.Proofs.Session.Events

/-!
# A pass shows the text and nothing of the past

After a pass, what a session displays is determined by its text, the window it is seen through, the
parser and the configuration. The way there leaves two traces in the session, the numbers of its
tag calls and the memory of its parser, and neither is displayed.

## Main definitions

* `Display`, `Session.display` — all that a session shows of its text.
* `Parser.Computes` — the answers of a parser are a function of the text.
* `Session.Configured` — what a session keeps of the way it was set up.
* `Session.fresh` — a new session over the text of a buffer.

## Main results

* `Session.display_pass` — sessions that look at the same text display the same after a pass.
* `Session.display_forgets_history` — and that is what a fresh session displays.
-/

namespace EditorPane

/-- What the parser answers depends on the text alone. -/
def Parser.Computes {σ : Type} (p : Parser σ) (f : Text → ParseResult) : Prop :=
  ∀ memory t, (p.parse memory t).1 = f t

/-- All that a session shows of its text. -/
structure Display where
  spans : VisualClass → List Span
  foreground : Position → Option VisualClass
  background : Position → Option VisualClass
  classes : Position → List VisualClass
  tagCount : Nat
  diagnostics : List SyntaxError
  log : List String
  markers : List Marker

theorem Buffer.Framed.of_sameView {a b : Buffer} (hb : b.Framed) (h : a.SameView b) :
    a.Framed := by
  refine ⟨?_, ?_⟩
  · rw [h.viewport]
    exact hb.firstLine_pos
  · rw [h.tabWidth]
    exact hb.tabWidth_pos

theorem Marker.reposition_congr {a b : Buffer} (h : a.SameView b) (g : MarkerGeometry)
    (m : Marker) : m.reposition g a = m.reposition g b := by
  simp only [reposition, h.box?_eq]

namespace Session

variable {σ τ : Type} {f : Text → ParseResult} {config : Config}

def display (s : Session σ) : Display where
  spans := s.buffer.taggedSpans
  foreground := s.buffer.foregroundAt
  background := s.buffer.backgroundAt
  classes := s.buffer.classesAt
  tagCount := s.buffer.tagCount
  diagnostics := s.surface.errors
  log := s.surface.log.lines
  markers := s.surface.markers

/-! ## What a pass does -/

theorem errors_pass (s : Session σ) : s.pass.2.surface.errors = s.pass.1.painted.errors := rfl

theorem log_pass (s : Session σ) :
    s.pass.2.surface.log = .ofErrors s.pass.1.painted.errors := rfl

theorem markers_pass (s : Session σ) :
    s.pass.2.surface.markers = s.pass.1.painted.errors.map fun e =>
      (Marker.ofError e).reposition s.surface.geometry s.pass.2.buffer := rfl

/-- The pointer is over none of the new markers. -/
theorem hovered_pass (s : Session σ) : ∀ m ∈ s.pass.2.surface.markers, m.hovered = false := by
  intro m hm
  rw [markers_pass, List.mem_map] at hm
  obtain ⟨e, -, rfl⟩ := hm
  exact Marker.hovered_reposition_ofError _ _ e

/-! ## What stays along a run -/

/-- The session's parser computes `f`, the rest of its setup is that of `config`, and its window
is in order. -/
structure Configured (f : Text → ParseResult) (config : Config) (s : Session σ) : Prop where
  computes : s.painter.parser.Computes f
  comments : s.painter.comments = config.comments
  geometry : s.surface.geometry = config.geometry
  framed : s.buffer.Framed

namespace Configured

variable {s : Session σ}

theorem start {b : Buffer} {p : Parser σ} (hp : p.Computes f) (hb : b.Framed) (config : Config) :
    Configured f config (start b p config) :=
  ⟨hp, rfl, rfl, ⟨hb.firstLine_pos, Nat.le_max_right _ _⟩⟩

theorem pass (h : Configured f config s) : Configured f config s.pass.2 :=
  ⟨h.computes, h.comments, h.geometry, h.framed.of_sameView s.sameView_pass⟩

theorem edit (h : Configured f config s) (c : Buffer.Command) :
    Configured f config (s.step (.edit c)).2 := by
  simp only [step, Session.edit]
  cases hrun : s.buffer.run? c with
  | error e => exact h
  | ok result =>
    obtain ⟨event, b⟩ := result
    have hb : b.Framed := h.framed.effect (Buffer.effect hrun)
    cases event with
    | none => exact ⟨h.computes, h.comments, h.geometry, hb⟩
    | some event => exact ⟨h.computes, h.comments, h.geometry, hb⟩

theorem tickAt (h : Configured f config s) (time : Nat) :
    Configured f config (s.tickAt time).2 := by
  cases hwin : (s.scheduler.pollAt time).1.winner with
  | none =>
    rw [tickAt_of_winner_none hwin]
    exact ⟨h.computes, h.comments, h.geometry, h.framed⟩
  | some g =>
    obtain ⟨report, htick, -, -⟩ := tickAt_of_winner_some hwin
    rw [htick]
    exact h.pass

theorem step (h : Configured f config s) (c : Command) : Configured f config (s.step c).2 := by
  cases c with
  | edit c => exact h.edit c
  | tick => exact h.tickAt s.scheduler.now
  | tickAt time => exact h.tickAt time
  | highlight => exact h.pass
  | scrollTo line cell =>
    exact ⟨h.computes, h.comments, h.geometry, Nat.le_max_right _ _, h.framed.tabWidth_pos⟩
  | resize width height =>
    exact ⟨h.computes, h.comments, h.geometry, Nat.le_max_right _ _, h.framed.tabWidth_pos⟩
  | notify | advance | poll | disarm | reposition | pointerEnter | pointerLeave | subscribe =>
    exact ⟨h.computes, h.comments, h.geometry, h.framed⟩

theorem run (h : Configured f config s) (commands : List Command) :
    Configured f config (s.run commands) := by
  induction commands generalizing s with
  | nil => exact h
  | cons c rest ih =>
    rw [run_cons]
    exact ih (h.step c)

/-- What a pass paints is determined by the text. -/
theorem painted_eq (h : Configured f config s) :
    s.pass.1.painted = .ofParse config.comments s.buffer.document (f s.buffer.text) := by
  rw [← h.computes s.painter.parser.memory, ← h.comments]
  rfl

end Configured

/-! ## Display after a pass -/

/-- Sessions on the same text display the same after a pass, shown here for the case that one of
them has made no tag calls before. -/
theorem display_pass {s : Session σ} {t : Session τ} (hs : Configured f config s)
    (ht : Configured f config t) (hview : t.buffer.SameView s.buffer)
    (hseq : s.buffer.nextSeq = 0) : t.pass.2.display = s.pass.2.display := by
  have hpainted : t.pass.1.painted = s.pass.1.painted := by
    rw [hs.painted_eq, ht.painted_eq, Buffer.text, Buffer.text, hview.document]
  have hnext : t.buffer.nextSeq = s.buffer.nextSeq + t.buffer.nextSeq := by omega
  have hbuffer : Buffer.Renumbered t.buffer.nextSeq (fun _ => True) s.pass.2.buffer
      t.pass.2.buffer := by
    rw [buffer_pass, buffer_pass, hpainted]
    exact ((Buffer.renumbered_repaint hview.document hnext _).2.tagErrors _).2
  have hmarkers : t.pass.2.surface.markers = s.pass.2.surface.markers := by
    have hscreen : t.pass.2.buffer.SameView s.pass.2.buffer :=
      t.sameView_pass.trans (hview.trans s.sameView_pass.symm)
    rw [markers_pass, markers_pass, hpainted, ht.geometry, hs.geometry]
    simp only [Marker.reposition_congr hscreen]
  simp only [display, Display.mk.injEq]
  refine ⟨funext hbuffer.taggedSpans_eq, funext (hbuffer.dominantAt_eq .foreground),
    funext (hbuffer.dominantAt_eq .background), funext hbuffer.classesAt_eq, hbuffer.tagCount_eq,
    ?_, ?_, hmarkers⟩
  · rw [errors_pass, errors_pass, hpainted]
  · rw [log_pass, log_pass, hpainted]

/-! ## Fresh sessions -/

/-- A new session over the text that `b` holds, looking at it as `b` does. -/
def fresh (b : Buffer) (p : Parser σ) (config : Config) : Session σ :=
  (start (.ofText b.text b.tabWidth) p config).run
    [.edit (.setViewport b.viewport), .edit (.setMetrics b.metrics),
      .edit (.setTabWidth b.tabWidth)]

theorem sameView_fresh {b : Buffer} (hb : b.Framed) (p : Parser σ) (config : Config) :
    b.SameView (fresh b p config).buffer := by
  have hclamped : b.viewport.clamped = b.viewport := by
    rw [Viewport.clamped, Nat.max_eq_left hb.firstLine_pos]
  exact ⟨rfl, hclamped.symm, rfl, (Nat.max_eq_left hb.tabWidth_pos).symm⟩

theorem display_pass_eq_fresh {s : Session σ} (hs : Configured f config s) {p : Parser τ}
    (hp : p.Computes f) :
    s.pass.2.display = ((fresh s.buffer p config).step .highlight).2.display := by
  have hfresh : Configured f config (fresh s.buffer p config) :=
    (Configured.start hp (.ofText _ _) config).run _
  exact display_pass hfresh hs (sameView_fresh hs.framed p config) rfl

/-- Two sessions with one configuration, and parsers that compute the same, are taken through any
two runs to the same text in the same window. Then a pass makes both display the same, and that is
what a fresh session on the text displays; no marker has the pointer over it. -/
theorem display_forgets_history {p : Parser σ} {q : Parser τ} (hp : p.Computes f)
    (hq : q.Computes f) {a b : Buffer} (ha : a.Reachable) (hb : b.Reachable) (config : Config)
    (first second : List Command) {c d : Command}
    (hview : ((start a p config).run first).buffer.SameView
      ((start b q config).run second).buffer)
    (hc : (((start a p config).run first).step c).1.report?.isSome = true)
    (hd : (((start b q config).run second).step d).1.report?.isSome = true) :
    let s := (start a p config).run first
    let s' := (s.step c).2
    s'.display = (((start b q config).run second).step d).2.display ∧
      s'.display = ((fresh s.buffer p config).step .highlight).2.display ∧
      ∀ m ∈ s'.display.markers, m.hovered = false := by
  intro s s'
  have hs : Configured f config s := (Configured.start hp ha.framed config).run first
  have ht : Configured f config ((start b q config).run second) :=
    (Configured.start hq hb.framed config).run second
  have hstep : s' = s.pass.2 := step_of_report hc
  have hfresh : s.pass.2.display = ((fresh s.buffer p config).step .highlight).2.display :=
    display_pass_eq_fresh hs hp
  rw [hstep, step_of_report hd]
  refine ⟨?_, hfresh, hovered_pass s⟩
  -- Both look like the session that starts afresh on the first one's text.
  rw [hfresh]
  have hsame := hview.symm.trans (sameView_fresh hs.framed p config)
  exact (display_pass ((Configured.start hp (.ofText _ _) config).run _) ht hsame rfl).symm

/-- One text is what an edit has made of a highlighted one, the other is typed in two steps. The
quote is an error, the rest of the line a comment. -/
theorem display_forgets_typing :
    let parser := Parser.ofFunction fun t =>
      .ok ⟨none, [], if t.contains '"' then [⟨1, 0, "quote"⟩] else []⟩
    let edited : List Command :=
      [.highlight, .pointerEnter 0, .edit (.tag (.between ⟨1, 0⟩ ⟨1, 2⟩) .keyword),
        .edit (.insert ⟨1, 1⟩ ['a', ' ']), .advance 1000]
    let typed : List Command :=
      [.edit (.insert ⟨1, 0⟩ ['a', ' ', '#']), .edit (.insert ⟨1, 0⟩ ['"'])]
    let s := (start (.ofText ['"', '#'] 2) parser default).run edited
    let t := (start (.ofText [] 4) parser default).run typed
    (s.step .tick).2.display = (t.step .highlight).2.display ∧
      (s.step .tick).2.display.tagCount = 2 ∧
      (s.step .tick).2.display.foreground ⟨1, 0⟩ = none ∧
      (s.step .tick).2.display.background ⟨1, 0⟩ = some .error ∧
      (s.step .tick).2.display.foreground ⟨1, 3⟩ = some .comment ∧
      (s.step .tick).2.display.markers.map Marker.hovered = [false] := by
  intro parser edited typed s t
  have hview : s.buffer.SameView t.buffer :=
    ⟨by decide +kernel, by decide +kernel, by decide +kernel, by decide +kernel⟩
  have hs : (s.step .tick).1.report?.isSome = true := by decide +kernel
  have ht : (t.step .highlight).1.report?.isSome = true := by decide +kernel
  have hparser : parser.Computes _ := fun _ _ => rfl
  have hall := display_forgets_history hparser hparser (.ofText _ _) (.ofText _ _) default edited
    typed hview hs ht
  exact ⟨hall.1, by decide +kernel, by decide +kernel, by decide +kernel, by decide +kernel,
    by decide +kernel⟩

end Session

end EditorPane
