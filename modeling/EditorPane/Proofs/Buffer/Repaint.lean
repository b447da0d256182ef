import EditorPane.Diagnostic.Surface
import EditorPane.Proofs.Tag.Renumber

/-!
# Repainting is free of history

A batch of commands is accepted or refused by the text alone. On two buffers with the same text it
therefore makes the same ranges, with numbers that differ by a constant, and once what was there
before is dropped, nothing tells the two apart.

## Main definitions

* `Buffer.SameView` — buffers that show the same text through the same window.
* `Buffer.Renumbered` — buffers whose tags differ by a constant in the numbers.

## Main results

* `Buffer.Renumbered.tagAll`, `Buffer.renumbered_repaint`, `Buffer.Renumbered.tagErrors`.
* `Buffer.Renumbered.taggedSpans_eq`, `Buffer.Renumbered.dominantAt_eq` — the numbers do not show.
-/

namespace EditorPane.Buffer

variable {a b b' : Buffer}

theorem foldl_untag (classes : List VisualClass) (b : Buffer) :
    classes.foldl untag b = { b with layers := classes.foldl Layers.erase b.layers } := by
  induction classes generalizing b with
  | nil => rfl
  | cons v rest ih =>
    rw [List.foldl_cons, ih, List.foldl_cons]
    rfl

/-- Clearing the foreground changes nothing but the ranges. -/
theorem clearForeground_eq (b : Buffer) :
    b.clearForeground = { b with layers :=
      (VisualClass.all.filter fun c => c.layer = .foreground).foldl Layers.erase b.layers } :=
  foldl_untag _ b

@[simp] theorem document_clearForeground (b : Buffer) :
    b.clearForeground.document = b.document := by
  rw [clearForeground_eq]

/-! ## Views -/

/-- The buffers show the same text through the same window, whatever is tagged. -/
structure SameView (a b : Buffer) : Prop where
  document : a.document = b.document
  viewport : a.viewport = b.viewport
  metrics : a.metrics = b.metrics
  tabWidth : a.tabWidth = b.tabWidth

namespace SameView

theorem refl (b : Buffer) : SameView b b := ⟨rfl, rfl, rfl, rfl⟩

theorem symm (h : SameView a b) : SameView b a :=
  ⟨h.document.symm, h.viewport.symm, h.metrics.symm, h.tabWidth.symm⟩

theorem trans (h : SameView a b) (h' : SameView b b') : SameView a b' :=
  ⟨h.document.trans h'.document, h.viewport.trans h'.viewport, h.metrics.trans h'.metrics,
    h.tabWidth.trans h'.tabWidth⟩

theorem of_tag {s : Span} {v : VisualClass} (h : b.tag s v = .ok b') : SameView b' b := by
  obtain ⟨_, _, -, ⟨-, rfl⟩ | ⟨-, rfl⟩⟩ := tag_cases h
  · exact ⟨rfl, rfl, rfl, rfl⟩
  · exact refl _

theorem tagAll (b : Buffer) (batch : List DecorationCommand) :
    SameView (b.tagAll batch).2 b := by
  refine tagAll_keeps (motive := fun b' => SameView b' b) (refl b) ?_
  intro _ _ _ _ hb htag
  exact (of_tag htag).trans hb

theorem repaint (b : Buffer) (batch : List DecorationCommand) :
    SameView (b.repaint batch).2 b := by
  have hclear : SameView b.clearForeground b := by
    rw [clearForeground_eq]
    exact ⟨rfl, rfl, rfl, rfl⟩
  exact (tagAll b.clearForeground batch).trans hclear

theorem tagErrors (b : Buffer) (errors : List SyntaxError) :
    SameView (ErrorSurface.tagErrors b errors).2 b :=
  (tagAll (b.untag .error) _).trans ⟨rfl, rfl, rfl, rfl⟩

/-- A character is on screen in the same place. -/
theorem box?_eq (h : SameView a b) (p : Position) : a.box? p = b.box? p := by
  simp only [box?, h.document, h.viewport, h.metrics, h.tabWidth]

end SameView

/-! ## Renumbered tags -/

/-- The buffers have the same text, and `b` has the tags of `a` with their numbers raised by `k`,
as far as classes in `p` go. -/
structure Renumbered (k : Nat) (p : VisualClass → Prop) (a b : Buffer) : Prop where
  document : b.document = a.document
  nextSeq : b.nextSeq = a.nextSeq + k
  get : ∀ v, p v → b.layers.get v = (a.layers.get v).renumber k

namespace Renumbered

variable {k : Nat} {p : VisualClass → Prop}

theorem insert (h : Renumbered k p a b) (v : VisualClass) (start stop : Nat) :
    Renumbered k p
      { a with
        layers := a.layers.insert v ⟨start, stop, a.nextSeq⟩
        nextSeq := a.nextSeq + 1 }
      { b with
        layers := b.layers.insert v ⟨start, stop, b.nextSeq⟩
        nextSeq := b.nextSeq + 1 } := by
  refine ⟨h.document, ?_, fun w hw => ?_⟩
  · have := h.nextSeq
    dsimp only
    omega
  · rw [Layers.get_insert, Layers.get_insert]
    split
    · rw [h.get w hw, IntervalSet.renumber_insert, Interval.renumber, h.nextSeq]
    · exact h.get w hw

/-- A tag call is answered alike, and the new range fits with those that were there. -/
theorem tag (h : Renumbered k p a b) (s : Span) (v : VisualClass) :
    (∃ e, a.tag s v = .error e ∧ b.tag s v = .error e) ∨
      ∃ a' b', a.tag s v = .ok a' ∧ b.tag s v = .ok b' ∧ Renumbered k p a' b' := by
  have hrange : b.document.range? s = a.document.range? s := by rw [h.document]
  unfold Buffer.tag
  rw [hrange]
  cases a.document.range? s with
  | none => exact .inl ⟨_, rfl, rfl⟩
  | some range =>
    obtain ⟨start, stop⟩ := range
    refine .inr ?_
    by_cases hlt : start < stop
    · simp only [if_pos hlt]
      exact ⟨_, _, rfl, rfl, h.insert v start stop⟩
    · simp only [if_neg hlt]
      exact ⟨_, _, rfl, rfl, h⟩

theorem tagAll (h : Renumbered k p a b) (batch : List DecorationCommand) :
    (a.tagAll batch).1 = (b.tagAll batch).1 ∧
      Renumbered k p (a.tagAll batch).2 (b.tagAll batch).2 := by
  induction batch generalizing a b with
  | nil => exact ⟨rfl, h⟩
  | cons c rest ih =>
    rw [Buffer.tagAll, Buffer.tagAll]
    rcases h.tag c.span c.visualClass with ⟨e, ha, hb⟩ | ⟨a', b', ha, hb, h'⟩
    · obtain ⟨hreport, hlast⟩ := ih h
      simp only [ha, hb, hreport]
      exact ⟨trivial, hlast⟩
    · obtain ⟨hreport, hlast⟩ := ih h'
      simp only [ha, hb, hreport]
      exact ⟨trivial, hlast⟩

theorem untag (h : Renumbered k p a b) (v : VisualClass) :
    Renumbered k (fun w => w = v ∨ p w) (a.untag v) (b.untag v) := by
  refine ⟨h.document, h.nextSeq, fun w hw => ?_⟩
  rw [layers_untag, layers_untag, Layers.get_erase, Layers.get_erase]
  by_cases hvw : v = w
  · rw [if_pos hvw, if_pos hvw, IntervalSet.renumber_empty]
  · rw [if_neg hvw, if_neg hvw]
    exact h.get w (hw.resolve_left (Ne.symm hvw))

/-- Showing errors replaces the background, so that all classes come to agree. -/
theorem tagErrors (h : Renumbered k (fun v => v.layer = .foreground) a b)
    (errors : List SyntaxError) :
    (ErrorSurface.tagErrors a errors).1 = (ErrorSurface.tagErrors b errors).1 ∧
      Renumbered k (fun _ => True) (ErrorSurface.tagErrors a errors).2
        (ErrorSurface.tagErrors b errors).2 := by
  have hall : Renumbered k (fun _ => True) (a.untag .error) (b.untag .error) := by
    have herror := h.untag .error
    refine ⟨herror.document, herror.nextSeq, fun v _ => herror.get v ?_⟩
    cases v <;> simp [VisualClass.layer]
  exact hall.tagAll _

end Renumbered

theorem get_foldl_erase (classes : List VisualClass) (l : Layers) (v : VisualClass) :
    (classes.foldl Layers.erase l).get v
      = if v ∈ classes then IntervalSet.empty else l.get v := by
  induction classes generalizing l with
  | nil => simp
  | cons w rest ih =>
    rw [List.foldl_cons, ih, Layers.get_erase]
    by_cases hrest : v ∈ rest
    · simp [hrest]
    · by_cases hvw : v = w
      · simp [hvw]
      · simp [hrest, hvw, Ne.symm hvw]

theorem renumbered_clearForeground {k : Nat} (hdocument : b.document = a.document)
    (hseq : b.nextSeq = a.nextSeq + k) :
    Renumbered k (fun v => v.layer = .foreground) a.clearForeground b.clearForeground := by
  rw [clearForeground_eq, clearForeground_eq]
  refine ⟨hdocument, hseq, fun v hv => ?_⟩
  have hmem : v ∈ VisualClass.all.filter fun c => c.layer = .foreground :=
    List.mem_filter.2 ⟨v.mem_all, by simpa using hv⟩
  rw [get_foldl_erase, get_foldl_erase, if_pos hmem, if_pos hmem, IntervalSet.renumber_empty]

/-- A batch repaints the foreground of buffers with the same text alike, whatever was tagged. -/
theorem renumbered_repaint {k : Nat} (hdocument : b.document = a.document)
    (hseq : b.nextSeq = a.nextSeq + k) (batch : List DecorationCommand) :
    (a.repaint batch).1 = (b.repaint batch).1 ∧
      Renumbered k (fun v => v.layer = .foreground) (a.repaint batch).2 (b.repaint batch).2 :=
  (renumbered_clearForeground hdocument hseq).tagAll batch

/-! ## What is shown -/

namespace Renumbered

section

variable {k : Nat} {p : VisualClass → Prop} (h : Renumbered k p a b)

include h

theorem taggedSpans_eq_of_mem {v : VisualClass} (hv : p v) :
    b.taggedSpans v = a.taggedSpans v := by
  rw [taggedSpans, h.get v hv, IntervalSet.toList_renumber, List.map_map, h.document]
  rfl

/-- If the classes of a layer agree but for numbers, the same one shows. -/
theorem dominantAt_eq_of_layer {layer : Layer} (hp : ∀ v : VisualClass, v.layer = layer → p v)
    (q : Position) : b.dominantAt layer q = a.dominantAt layer q := by
  have hget (v : VisualClass) (hv : v.layer = layer) :
      b.layers.get v = (a.layers.renumber k).get v := by
    rw [Layers.get_renumber, h.get v (hp v hv)]
  simp only [dominantAt, h.document, Layers.dominantAt_congr hget, Layers.dominantAt_renumber]

end

variable {k : Nat} (h : Renumbered k (fun _ => True) a b)

include h

theorem layers_eq : b.layers = a.layers.renumber k := by
  ext1 v
  rw [Layers.get_renumber]
  exact h.get v trivial

theorem taggedSpans_eq (v : VisualClass) : b.taggedSpans v = a.taggedSpans v :=
  h.taggedSpans_eq_of_mem trivial

theorem tagCount_eq : b.tagCount = a.tagCount := by
  rw [tagCount, h.layers_eq, Layers.count_renumber, tagCount]

theorem classesAt_eq (p : Position) : b.classesAt p = a.classesAt p := by
  simp only [classesAt, h.document, h.layers_eq, Layers.classesAt_renumber]

theorem dominantAt_eq (layer : Layer) (p : Position) :
    b.dominantAt layer p = a.dominantAt layer p :=
  h.dominantAt_eq_of_layer (fun _ _ => trivial) p

end Renumbered

end EditorPane.Buffer
