import EditorPane.Diagnostic.Surface
import Mathlib.Data.List.Basic
import Mathlib.Data.List.Induction

/-!
# When a marker is hovered

The pointer can come over a marker that is drawn. From then on the marker is hovered, until the
pointer leaves it, it goes off screen, or a new list of errors takes its place. Coming back on
screen does not bring the pointer back. A marker that is hovered shows its message beside the place
where it is drawn at the moment, and no other marker shows anything.

## Main definitions

* `ErrorSurface.Command`, `ErrorSurface.run` — what can happen to a surface.
* `ErrorSurface.draws`, `ErrorSurface.hovers` — the marker with a number is drawn, is hovered.

## Main results

* `ErrorSurface.hovers_step` — whether a marker is hovered after a command.
* `ErrorSurface.hovers_run_iff` — a marker is hovered since the pointer came over it.
* `ErrorSurface.hover_follows_pointer` — markers, labels and the pointer after any commands.
-/

namespace EditorPane

namespace Marker

/-- The label is that of the message, beside the place of the marker, and only a hovered marker has
one. -/
theorem tooltip?_eq (g : MarkerGeometry) (m : Marker) : m.tooltip? g =
    if m.hovered then m.placement.map fun place =>
      ⟨m.error.message, ⟨place.x + g.hoverLabelOffset, place.y⟩⟩
    else none := by
  obtain ⟨error, placement, hovered⟩ := m
  cases hovered <;> cases placement <;> rfl

theorem hovered_reposition (g : MarkerGeometry) (b : Buffer) (m : Marker) :
    (m.reposition g b).hovered = (m.hovered && (m.reposition g b).isVisible) := by
  rw [isVisible_reposition, reposition]
  cases b.box? m.anchor <;> simp

@[simp] theorem isVisible_pointerEnter (m : Marker) : m.pointerEnter.isVisible = m.isVisible := rfl

theorem hovered_pointerEnter (m : Marker) :
    m.pointerEnter.hovered = (m.hovered || m.isVisible) := rfl

end Marker

namespace ErrorSurface

/-! ## Commands -/

/-- What can happen to a surface. The buffer is whatever it is at that time. -/
inductive Command where
  | sync (b : Buffer) (errors : List SyntaxError)
  | reposition (b : Buffer)
  | pointerEnter (i : Nat)
  | pointerLeave (i : Nat)
  | subscribe
  deriving DecidableEq

/-- Carry out a command. -/
def step (s : ErrorSurface) : Command → ErrorSurface
  | .sync b errors => (s.sync b errors).2.2
  | .reposition b => s.reposition b
  | .pointerEnter i => (s.pointerEnter i).2
  | .pointerLeave i => s.pointerLeave i
  | .subscribe => s.subscribe

/-- The surface after a list of commands. -/
def run (s : ErrorSurface) (commands : List Command) : ErrorSurface := commands.foldl step s

theorem run_append (s : ErrorSurface) (first second : List Command) :
    s.run (first ++ second) = (s.run first).run second := List.foldl_append

theorem run_concat (s : ErrorSurface) (commands : List Command) (c : Command) :
    s.run (commands ++ [c]) = (s.run commands).step c := run_append s commands [c]

/-- Whatever was hovered before, the marker with the number `i` is not hovered afterwards. -/
def Command.endsHover (i : Nat) : Command → Bool
  | .sync _ _ => true
  | .pointerLeave j => i = j
  | _ => false

/-! ## Markers by number -/

/-- The marker with the number `i` is drawn. -/
def draws (s : ErrorSurface) (i : Nat) : Bool := s.markers[i]?.any Marker.isVisible

/-- The marker with the number `i` is hovered. -/
def hovers (s : ErrorSurface) (i : Nat) : Bool := s.markers[i]?.any Marker.hovered

variable {s : ErrorSurface} {i : Nat}

theorem geometry_step (s : ErrorSurface) (c : Command) : (s.step c).geometry = s.geometry := by
  cases c <;> rfl

theorem geometry_run (s : ErrorSurface) (commands : List Command) :
    (s.run commands).geometry = s.geometry := by
  induction commands using List.reverseRecOn with
  | nil => rfl
  | append_singleton before c ih => rw [run_concat, geometry_step, ih]

theorem getElem?_pointerEnter_of_ne {j : Nat} (s : ErrorSurface) (h : i ≠ j) :
    (s.pointerEnter i).2.markers[j]? = s.markers[j]? := List.getElem?_modify_ne _ _ h

theorem getElem?_pointerLeave_of_ne {j : Nat} (s : ErrorSurface) (h : i ≠ j) :
    (s.pointerLeave i).markers[j]? = s.markers[j]? := List.getElem?_modify_ne _ _ h

theorem pointerEnter_of_length_le (h : s.markers.length ≤ i) : s.pointerEnter i = (none, s) := by
  simp [pointerEnter, List.modify_eq_self h, h]

theorem pointerLeave_of_length_le (h : s.markers.length ≤ i) : s.pointerLeave i = s := by
  simp [pointerLeave, List.modify_eq_self h]

/-! ## Steps -/

/-- A marker that a command is not about is hovered if it was. -/
theorem hovers_of_getElem?_eq {t : ErrorSurface} (h : s.hovers i = true → s.draws i = true)
    (hsame : t.markers[i]? = s.markers[i]?) : t.hovers i = (t.draws i && s.hovers i) := by
  rw [hovers, draws, hsame, ← hovers, ← draws]
  cases hhover : s.hovers i with
  | false => rw [Bool.and_false]
  | true => rw [h hhover, Bool.and_true]

/-- A marker is hovered after a command if it is drawn then and the pointer has just come over it,
or was over it before and stayed. -/
theorem hovers_step (h : s.hovers i = true → s.draws i = true) (c : Command) :
    (s.step c).hovers i
      = ((s.step c).draws i && (c = .pointerEnter i || s.hovers i && !c.endsHover i)) := by
  cases c with
  | sync b errors =>
    simp only [hovers, step, sync, List.getElem?_map, Option.any_map,
      Marker.hovered_reposition_ofError, Command.endsHover]
    cases errors[i]? <;> simp
  | reposition b =>
    simp only [hovers, draws, step, reposition, List.getElem?_map, Option.any_map,
      Command.endsHover]
    cases s.markers[i]? with
    | none => simp
    | some m => simp [m.hovered_reposition, Bool.and_comm]
  | pointerEnter j =>
    by_cases hij : j = i
    · subst hij
      simp only [hovers, draws, step, pointerEnter, List.getElem?_modify_eq] at h ⊢
      cases hm : s.markers[j]? with
      | none => simp
      | some m =>
        rw [hm] at h
        cases hvisible : m.isVisible <;> simp_all [Marker.hovered_pointerEnter]
    · rw [step, hovers_of_getElem?_eq h (s.getElem?_pointerEnter_of_ne hij)]
      simp [Command.endsHover, hij]
  | pointerLeave j =>
    by_cases hij : j = i
    · subst hij
      simp only [hovers, draws, step, pointerLeave, List.getElem?_modify_eq]
      cases s.markers[j]? <;> simp [Marker.pointerLeave, Command.endsHover]
    · rw [step, hovers_of_getElem?_eq h (s.getElem?_pointerLeave_of_ne hij)]
      simp [Command.endsHover, Ne.symm hij]
  | subscribe =>
    rw [step, hovers_of_getElem?_eq (t := s.subscribe) h rfl]
    simp [Command.endsHover]

/-- Every hovered marker is drawn, whatever has happened. -/
theorem draws_of_hovers_run (g : MarkerGeometry) (commands : List Command) (i : Nat) :
    ((empty g).run commands).hovers i = true → ((empty g).run commands).draws i = true := by
  induction commands using List.reverseRecOn with
  | nil => simp [run, empty, hovers]
  | append_singleton before c ih =>
    rw [run_concat, hovers_step ih c, Bool.and_eq_true]
    exact And.left

/-- A marker is hovered exactly if the pointer came over it at some time, and from then on the
marker was drawn all the time and neither the pointer left it nor the list of errors was
replaced. -/
theorem hovers_run_iff (g : MarkerGeometry) (commands : List Command) (i : Nat) :
    ((empty g).run commands).hovers i = true ↔
      ∃ before after, commands = before ++ .pointerEnter i :: after ∧
        (∀ c ∈ after, c.endsHover i = false) ∧
        ∀ early, early <+: after →
          ((empty g).run (before ++ .pointerEnter i :: early)).draws i = true := by
  induction commands using List.reverseRecOn with
  | nil => simp [run, empty, hovers]
  | append_singleton past c ih =>
    have hstep := hovers_step (draws_of_hovers_run g past i) c
    rw [← run_concat] at hstep
    rw [hstep]
    simp only [Bool.and_eq_true, Bool.or_eq_true, decide_eq_true_eq, Bool.not_eq_true']
    constructor
    · rintro ⟨hdraws, rfl | ⟨hhover, hstays⟩⟩
      · refine ⟨past, [], rfl, by simp, ?_⟩
        intro early hearly
        rw [List.prefix_nil.1 hearly]
        exact hdraws
      · obtain ⟨before, after, rfl, hends, hdrawn⟩ := ih.1 hhover
        refine ⟨before, after ++ [c], by simp, ?_, ?_⟩
        · simpa [or_imp, forall_and] using ⟨hends, hstays⟩
        · intro early hearly
          rcases List.prefix_concat_iff.1 hearly with rfl | hearly
          · simpa using hdraws
          · exact hdrawn early hearly
    · rintro ⟨before, after, heq, hends, hdrawn⟩
      have hlast := hdrawn after List.prefix_rfl
      rw [← heq] at hlast
      refine ⟨hlast, ?_⟩
      rcases List.eq_nil_or_concat' after with rfl | ⟨rest, d, rfl⟩
      · obtain ⟨-, hc⟩ := List.append_inj' heq rfl
        exact .inl (List.head_eq_of_cons_eq hc)
      · rw [← List.cons_append, ← List.append_assoc] at heq
        obtain ⟨rfl, hc⟩ := List.append_inj' heq rfl
        cases hc
        refine .inr ⟨ih.2 ⟨before, rest, rfl, ?_, ?_⟩, hends c (by simp)⟩
        · exact fun d hd => hends d (by simp [hd])
        · exact fun early hearly => hdrawn early (hearly.trans (List.prefix_append rest [c]))

/-- Once a marker is off screen it takes the pointer to hover it again. -/
theorem hovers_run_of_not_draws (g : MarkerGeometry) {commands after : List Command}
    (hhidden : ((empty g).run commands).draws i = false) (hafter : .pointerEnter i ∉ after) :
    ((empty g).run (commands ++ after)).hovers i = false := by
  rw [← Bool.not_eq_true, hovers_run_iff]
  rintro ⟨before, rest, heq, -, hdrawn⟩
  rcases List.append_eq_append_iff.1 heq with ⟨mid, -, hmid⟩ | ⟨mid, hcommands, hmid⟩
  · exact hafter (by simp [hmid])
  · -- the pointer came before the marker was off screen, and so it was drawn all the time
    cases mid with
    | nil =>
      rw [List.nil_append] at hmid
      exact hafter (by simp [← hmid])
    | cons c mid =>
      rw [List.cons_append, List.cons.injEq] at hmid
      obtain ⟨rfl, rfl⟩ := hmid
      rw [hcommands, hdrawn mid (List.prefix_append mid after)] at hhidden
      cases hhidden

/-! ## Markers after any commands -/

/-- Let any commands have been given to a fresh surface. A hovered marker is drawn, and it is the
hovered markers that have a label: the message, beside the place where the marker is drawn now. A
marker is hovered if the pointer came over it and if since then it was drawn all the time, the
pointer did not leave it and there was no new list of errors. Hence a marker that is off screen is
not hovered, and is not until the pointer comes over it again. The pointer does nothing to the other
markers, and nothing at all where there is no marker. -/
theorem hover_follows_pointer (g : MarkerGeometry) (commands : List Command) :
    let s := (empty g).run commands
    (∀ m ∈ s.markers, (m.hovered = true → m.isVisible = true) ∧
      (m.tooltip? s.geometry).isSome = m.hovered ∧
      ∀ label, m.tooltip? s.geometry = some label → ∃ place, m.placement = some place ∧
        label = ⟨m.error.message, ⟨place.x + g.hoverLabelOffset, place.y⟩⟩) ∧
    (∀ i, s.hovers i = true ↔
      ∃ before after, commands = before ++ .pointerEnter i :: after ∧
        (∀ c ∈ after, c.endsHover i = false) ∧
        ∀ early, early <+: after →
          ((empty g).run (before ++ .pointerEnter i :: early)).draws i = true) ∧
    (∀ i after, s.draws i = false → .pointerEnter i ∉ after → (s.run after).hovers i = false) ∧
    (∀ i j, i ≠ j → (s.pointerEnter i).2.markers[j]? = s.markers[j]? ∧
      (s.pointerLeave i).markers[j]? = s.markers[j]?) ∧
    ∀ i, s.markers.length ≤ i → s.pointerEnter i = (none, s) ∧ s.pointerLeave i = s := by
  intro s
  have hdrawn {m : Marker} (hm : m ∈ s.markers) (hhover : m.hovered = true) :
      m.isVisible = true := by
    obtain ⟨i, hi⟩ := List.mem_iff_getElem?.1 hm
    have hdraws := draws_of_hovers_run g commands i (by rw [hovers, hi]; exact hhover)
    rwa [draws, hi] at hdraws
  refine ⟨fun m hm => ⟨hdrawn hm, ?_, ?_⟩, hovers_run_iff g commands, ?_, ?_, ?_⟩
  · rw [Marker.tooltip?_eq]
    cases hhover : m.hovered with
    | false => rfl
    | true => exact Option.isSome_map.trans (hdrawn hm hhover)
  · intro label hlabel
    rw [Marker.tooltip?_eq, show s.geometry = g from geometry_run _ commands] at hlabel
    split at hlabel
    · obtain ⟨place, hplace, rfl⟩ := Option.map_eq_some_iff.1 hlabel
      exact ⟨place, hplace, rfl⟩
    · cases hlabel
  · intro i after hhidden hafter
    rw [← run_append]
    exact hovers_run_of_not_draws g hhidden hafter
  · exact fun i j hij => ⟨s.getElem?_pointerEnter_of_ne hij, s.getElem?_pointerLeave_of_ne hij⟩
  · exact fun i hi => ⟨pointerEnter_of_length_le hi, pointerLeave_of_length_le hi⟩

/-- The window is scrolled so that the first of two hovered markers is off screen. When it is back,
only the second one is hovered still. -/
theorem hover_follows_pointer_back_on_screen :
    let b := Buffer.ofText ['a', '\n', 'b'] 2
    let commands : List Command :=
      [.sync b [⟨1, 0, "a"⟩, ⟨2, 0, "b"⟩], .pointerEnter 0, .pointerEnter 1,
        .reposition (b.scrollTo 2 0)]
    let s := (empty default).run commands
    s.draws 0 = false ∧ s.hovers 1 = true ∧ (s.run [.reposition b]).draws 0 = true ∧
      (s.run [.reposition b]).hovers 0 = false ∧ (s.run [.reposition b]).hovers 1 = true ∧
      s.markers.length = 2 ∧ s.pointerEnter 2 = (none, s) := by
  intro b commands s
  have hhidden : s.draws 0 = false := by decide +kernel
  have hback : Command.pointerEnter 0 ∉ [Command.reposition b] := by simp
  have hlength : s.markers.length = 2 := by decide +kernel
  obtain ⟨-, -, hunhovered, -, hnone⟩ := hover_follows_pointer default commands
  exact ⟨hhidden, by decide +kernel, by decide +kernel, hunhovered 0 _ hhidden hback,
    by decide +kernel, hlength, (hnone 2 (Nat.le_of_eq hlength)).1⟩

end ErrorSurface

end EditorPane
