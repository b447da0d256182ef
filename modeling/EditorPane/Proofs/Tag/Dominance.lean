import EditorPane.Proofs.Tag.Lookup

/-!
# Which class shows

Of the ranges over an offset the strongest shows, and the strongest is one that no other outranks.
So a class shows only where it is tagged, and nowhere below a class of higher priority. Comments
have the highest priority of the foreground, so they show wherever they are tagged.

## Main results

* `Layers.isTagged_of_dominantAt`, `Layers.priority_le_of_dominantAt` — the class that shows.
* `Layers.dominantAt_eq_none_iff`, `Layers.dominantAt_eq_comment_iff`,
  `Layers.dominantAt_eq_some_of_forall`, `Layers.dominantAt_eq_of_latest`.
* `Layers.dominantAt_congr_of_isTagged` — when the order of calls does not matter.
-/

namespace EditorPane

theorem VisualClass.priority_eq_one {v : VisualClass} (hcomment : v ≠ .comment)
    (hmain : v ≠ .mainText) : v.priority = 1 := by
  cases v <;> first | rfl | contradiction

namespace Layers

variable {l : Layers} {layer : Layer} {v w : VisualClass} {offset q : Nat}

/-! ## The strongest candidate -/

namespace Candidate

variable {a b c : Candidate}

theorem outranks_iff : a.outranks b = true ↔
    b.visualClass.priority < a.visualClass.priority ∨
      b.visualClass.priority = a.visualClass.priority ∧
        (b.seq < a.seq ∨ b.seq = a.seq ∧ b.visualClass.index < a.visualClass.index) := by
  simp [outranks]

theorem not_outranks_self (a : Candidate) : ¬ a.outranks a = true := by
  rw [outranks_iff]
  omega

theorem not_outranks_of_outranks (h : a.outranks b = true) : ¬ b.outranks a = true := by
  rw [outranks_iff] at *
  omega

theorem not_outranks_trans (hab : ¬ a.outranks b = true) (hbc : ¬ b.outranks c = true) :
    ¬ a.outranks c = true := by
  rw [outranks_iff] at *
  omega

theorem strongest_eq_none_iff {candidates : List Candidate} :
    strongest candidates = none ↔ candidates = [] := by
  cases candidates with
  | nil => exact ⟨fun _ => rfl, fun _ => rfl⟩
  | cons a rest =>
    rw [strongest]
    split
    · simp
    · split <;> simp

/-- The strongest is one of the candidates, and no candidate outranks it. -/
theorem strongest_spec {candidates : List Candidate} (h : strongest candidates = some a) :
    a ∈ candidates ∧ ∀ b ∈ candidates, ¬ b.outranks a = true := by
  induction candidates generalizing a with
  | nil => cases h
  | cons first rest ih =>
    rw [strongest] at h
    split at h
    · next hnone =>
      cases h
      rw [strongest_eq_none_iff] at hnone
      subst hnone
      simp [not_outranks_self]
    · next best hbest =>
      obtain ⟨hmem, hall⟩ := ih hbest
      split at h
      · next hwins =>
        cases h
        refine ⟨List.mem_cons_of_mem first hmem, fun b hb => ?_⟩
        rcases List.mem_cons.1 hb with rfl | hb
        · exact not_outranks_of_outranks hwins
        · exact hall b hb
      · next hloses =>
        cases h
        refine ⟨List.mem_cons_self, fun b hb => ?_⟩
        rcases List.mem_cons.1 hb with rfl | hb
        · exact not_outranks_self _
        · exact not_outranks_trans (hall b hb) hloses

end Candidate

/-! ## The class that shows -/

theorem mem_candidatesAt (h : l.WellFormedIn layer) {a : Candidate} :
    a ∈ l.candidatesAt layer offset ↔ a.visualClass.layer = layer ∧
      ∃ i ∈ (l.get a.visualClass).toList, i.covers offset = true ∧ i.seq = a.seq := by
  simp only [candidatesAt, List.mem_flatMap, List.mem_filter, decide_eq_true_eq, List.mem_map]
  constructor
  · rintro ⟨c, ⟨-, hc⟩, i, hi, rfl⟩
    rw [(h c hc).mem_covering] at hi
    exact ⟨hc, i, hi.1, hi.2, rfl⟩
  · rintro ⟨hlayer, i, hi, hcovers, hseq⟩
    refine ⟨a.visualClass, ⟨a.visualClass.mem_all, hlayer⟩, i, ?_, by rw [hseq]⟩
    exact (h _ hlayer).mem_covering.2 ⟨hi, hcovers⟩

/-- A class shows only where it is tagged. -/
theorem isTagged_of_dominantAt (h : l.WellFormedIn layer)
    (hv : l.dominantAt layer offset = some v) : v.layer = layer ∧ l.IsTagged v offset := by
  obtain ⟨a, ha, rfl⟩ := Option.map_eq_some_iff.1 hv
  obtain ⟨hlayer, i, hi, hcovers, -⟩ := (mem_candidatesAt h).1 (Candidate.strongest_spec ha).1
  exact ⟨hlayer, i, hi, hcovers⟩

/-- No class of higher priority is tagged where a class shows. -/
theorem priority_le_of_dominantAt (h : l.WellFormedIn layer)
    (hv : l.dominantAt layer offset = some v) (hw : w.layer = layer)
    (htag : l.IsTagged w offset) : w.priority ≤ v.priority := by
  obtain ⟨a, ha, rfl⟩ := Option.map_eq_some_iff.1 hv
  obtain ⟨i, hi, hcovers⟩ := htag
  have hmem : ⟨w, i.seq⟩ ∈ l.candidatesAt layer offset :=
    (mem_candidatesAt h).2 ⟨hw, i, hi, hcovers, rfl⟩
  have hloses := (Candidate.strongest_spec ha).2 _ hmem
  rw [Candidate.outranks_iff] at hloses
  dsimp only at hloses
  omega

theorem dominantAt_eq_none_iff (h : l.WellFormedIn layer) :
    l.dominantAt layer offset = none ↔ ∀ c : VisualClass, c.layer = layer →
      ¬ l.IsTagged c offset := by
  rw [dominantAt, Option.map_eq_none_iff, Candidate.strongest_eq_none_iff,
    List.eq_nil_iff_forall_not_mem]
  simp only [mem_candidatesAt h]
  constructor
  · rintro hnone c hc ⟨i, hi, hcovers⟩
    exact hnone ⟨c, i.seq⟩ ⟨hc, i, hi, hcovers, rfl⟩
  · rintro hnone a ⟨hlayer, i, hi, hcovers, -⟩
    exact hnone _ hlayer ⟨i, hi, hcovers⟩

theorem exists_dominantAt (h : l.WellFormedIn layer) (hv : v.layer = layer)
    (htag : l.IsTagged v offset) : ∃ w, l.dominantAt layer offset = some w := by
  cases hw : l.dominantAt layer offset with
  | none => exact absurd htag ((dominantAt_eq_none_iff h).1 hw v hv)
  | some w => exact ⟨w, rfl⟩

/-- A class that is alone in its layer shows. -/
theorem dominantAt_eq_some_of_forall (h : l.WellFormedIn layer) (hv : v.layer = layer)
    (htag : l.IsTagged v offset)
    (halone : ∀ c : VisualClass, c.layer = layer → l.IsTagged c offset → c = v) :
    l.dominantAt layer offset = some v := by
  obtain ⟨w, hw⟩ := exists_dominantAt h hv htag
  obtain ⟨hlayer, hwtag⟩ := isTagged_of_dominantAt h hw
  rw [hw, halone w hlayer hwtag]

/-- Where no two of the tagged classes have the same priority, it does not matter in which order
they were called. -/
theorem dominantAt_congr_of_isTagged {m : Layers} (hl : l.WellFormedIn layer)
    (hm : m.WellFormedIn layer)
    (htag : ∀ c : VisualClass, c.layer = layer → (l.IsTagged c offset ↔ m.IsTagged c offset))
    (hunique : ∀ c d : VisualClass, c.layer = layer → d.layer = layer → l.IsTagged c offset →
      l.IsTagged d offset → c.priority = d.priority → c = d) :
    l.dominantAt layer offset = m.dominantAt layer offset := by
  cases hv : l.dominantAt layer offset with
  | none =>
    symm
    rw [dominantAt_eq_none_iff hl] at hv
    rw [dominantAt_eq_none_iff hm]
    intro c hc
    rw [← htag c hc]
    exact hv c hc
  | some v =>
    obtain ⟨hvlayer, hvtag⟩ := isTagged_of_dominantAt hl hv
    have hvtag' := (htag v hvlayer).1 hvtag
    obtain ⟨w, hw⟩ := exists_dominantAt hm hvlayer hvtag'
    obtain ⟨hwlayer, hwtag⟩ := isTagged_of_dominantAt hm hw
    have hwtag' := (htag w hwlayer).2 hwtag
    -- Each of the two is tagged where the other shows.
    have hle := priority_le_of_dominantAt hl hv hwlayer hwtag'
    have hge := priority_le_of_dominantAt hm hw hvlayer hvtag'
    rw [hw, hunique v w hvlayer hwlayer hvtag hwtag' (Nat.le_antisymm hge hle)]

/-- A comment shows wherever it is tagged, whatever else is. -/
theorem dominantAt_eq_comment_iff (h : l.WellFormedIn .foreground) :
    l.dominantAt .foreground offset = some .comment ↔ l.IsTagged .comment offset := by
  refine ⟨fun hv => (isTagged_of_dominantAt h hv).2, fun htag => ?_⟩
  obtain ⟨w, hw⟩ := exists_dominantAt h rfl htag
  have hle := priority_le_of_dominantAt h hw rfl htag
  rw [hw]
  cases w <;> first | rfl | simp [VisualClass.priority] at hle

/-- Where there is no comment, the class of the latest call shows, plain text left aside. -/
theorem dominantAt_eq_of_latest (h : l.WellFormedIn .foreground)
    (hcomment : ¬ l.IsTagged .comment offset) (hlayer : v.layer = .foreground)
    (hmain : v ≠ .mainText) (htag : (v, q) ∈ l.tagsAt offset)
    (hlatest : ∀ w r, (w, r) ∈ l.tagsAt offset → w.layer = .foreground → w ≠ .mainText →
      r < q ∨ w = v) :
    l.dominantAt .foreground offset = some v := by
  have hnot {w : VisualClass} {r : Nat} (hw : (w, r) ∈ l.tagsAt offset) : w ≠ .comment := by
    rintro rfl
    exact hcomment (isTagged_iff_exists_mem_tagsAt.2 ⟨r, hw⟩)
  obtain ⟨w, hw⟩ := exists_dominantAt h hlayer (isTagged_iff_exists_mem_tagsAt.2 ⟨q, htag⟩)
  obtain ⟨a, ha, rfl⟩ := Option.map_eq_some_iff.1 hw
  obtain ⟨hmem, hstrongest⟩ := Candidate.strongest_spec ha
  obtain ⟨halayer, hatag⟩ := (mem_candidatesAt h).1 hmem
  rw [← mem_tagsAt] at hatag
  -- The call of `v` does not outrank that of `a`, so `a` is no plain text, and no earlier.
  have hloses := hstrongest ⟨v, q⟩ ((mem_candidatesAt h).2 ⟨hlayer, mem_tagsAt.1 htag⟩)
  rw [Candidate.outranks_iff, VisualClass.priority_eq_one (hnot htag) hmain] at hloses
  have hamain : a.visualClass ≠ .mainText := by
    intro heq
    simp [heq, VisualClass.priority] at hloses
  rw [VisualClass.priority_eq_one (hnot hatag) hamain] at hloses
  dsimp only at hloses
  rcases hlatest _ _ hatag halayer hamain with hlt | heq
  · omega
  · rw [hw, heq]

/-- Errors are the only class of the background. -/
theorem dominantAt_eq_error_iff (h : l.WellFormedIn .background) :
    l.dominantAt .background offset = some .error ↔ l.IsTagged .error offset := by
  refine ⟨fun hv => (isTagged_of_dominantAt h hv).2, fun htag => ?_⟩
  refine dominantAt_eq_some_of_forall h rfl htag fun c hc _ => ?_
  cases c <;> first | rfl | cases hc

end Layers

end EditorPane
