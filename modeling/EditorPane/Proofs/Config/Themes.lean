import EditorPane.Config.Document
import EditorPane.Proofs.Config.Colours

/-!
# Valid configurations

A configuration that is accepted has been checked as a whole: its quiet interval is not zero and
each of the twelve texts of its theme is the spelling of a colour, so looking a colour up later on
cannot fail. A configuration that is refused is refused for the first thing that is wrong with it.
The text that a document has under the name of a key is the text that is checked and looked up for
that key.

## Main definitions

* `Theme.IsFirstInvalid` — the key for which a theme is refused.
* `Config.Gives` — what a document says about a key.

## Main results

* `Config.validate_eq_ok_iff`, `Config.validate_eq_error_iff` — what is accepted, and why something
  is not.
* `Config.text_of_gives` — a theme has the texts of its document.
* `Config.accepted_themes_show` — documents that are accepted.
-/

namespace EditorPane

open Toml (Entries)

/-! ## Themes -/

namespace Theme

variable {t : Theme} {k : ThemeKey}

/-- In the order of the background and then all classes, the key is the first whose text is no
spelling of a colour. -/
def IsFirstInvalid (t : Theme) (k : ThemeKey) : Prop :=
  ∃ before behind, ThemeKey.background :: VisualClass.all.map .ofClass = before ++ k :: behind ∧
    (∀ j ∈ before, Colour.IsSpelling (t.text j)) ∧ ¬ Colour.IsSpelling (t.text k)

theorem isSome_colour?_iff : (t.colour? k).isSome ↔ Colour.IsSpelling (t.text k) :=
  Colour.isSome_ofString?_iff

theorem firstInvalid?_eq_some_iff : t.firstInvalid? = some k ↔ t.IsFirstInvalid k := by
  have hspelled (j : ThemeKey) : (!(t.colour? j).isNone) = true ↔ Colour.IsSpelling (t.text j) := by
    rw [Option.not_isNone, isSome_colour?_iff]
  have hbad : (t.colour? k).isNone = true ↔ ¬ Colour.IsSpelling (t.text k) := by
    rw [← isSome_colour?_iff]
    simp
  simp only [firstInvalid?, List.find?_eq_some_iff_append, hspelled, hbad, IsFirstInvalid,
    ThemeKey.all]
  constructor
  · rintro ⟨hk, before, behind, hall, hbefore⟩
    exact ⟨before, behind, hall, hbefore, hk⟩
  · rintro ⟨before, behind, hall, hbefore, hk⟩
    exact ⟨hk, before, behind, hall, hbefore⟩

/-- A colour is shown as its text in lower case. -/
theorem exists_colour?_of_isSpelling (h : Colour.IsSpelling (t.text k)) :
    ∃ x, t.colour? k = some x ∧ toString x = (t.text k).toLower := by
  obtain ⟨x, hx⟩ := Option.isSome_iff_exists.1 (isSome_colour?_iff.2 h)
  exact ⟨x, hx, Colour.toString_of_ofString? hx⟩

end Theme

namespace Config

/-! ## Validation -/

theorem validate_eq_ok_iff {c : Config} : c.validate = .ok () ↔
    c.quiet ≠ 0 ∧ ∀ k, Colour.IsSpelling (c.theme.text k) := by
  simp only [← Theme.isSome_colour?_iff, ← Theme.firstInvalid?_eq_none_iff]
  rw [validate]
  split
  · next hzero => simp [hzero]
  · next hquiet => cases c.theme.firstInvalid? <;> simp [hquiet]

theorem validate_eq_error_iff {c : Config} {e : ConfigError} : c.validate = .error e ↔
    c.quiet = 0 ∧ e = .zeroQuietInterval ∨
      c.quiet ≠ 0 ∧ ∃ k, c.theme.IsFirstInvalid k ∧ e = .invalidColour k (c.theme.text k) := by
  simp only [← Theme.firstInvalid?_eq_some_iff]
  rw [validate]
  split
  · next hzero => simp [hzero, eq_comm]
  · next hquiet => cases c.theme.firstInvalid? <;> simp [hquiet, eq_comm]

section

variable {t : Text} {c : Config} (h : (Toml.parse? t).bind ofEntries? = some c)

include h

theorem ofText_eq : ofText t = c.validate.map fun _ => c := by
  rw [ofText, h]

theorem ofText_eq_ok_iff {c' : Config} : ofText t = .ok c' ↔ c' = c ∧ c.validate = .ok () := by
  rw [ofText_eq h]
  cases c.validate <;> simp [Except.map, eq_comm]

theorem ofText_eq_error_iff {e : ConfigError} : ofText t = .error e ↔ c.validate = .error e := by
  rw [ofText_eq h]
  cases c.validate <;> simp [Except.map]

end

/-! ## What a document says -/

/-- The theme of the document has the text under the name of the key. -/
def Gives (t : Text) (k : ThemeKey) (s : String) : Prop :=
  ∃ entries origin theme, Toml.parse? t = some entries ∧
    entries.lookup "theme" = some (.table origin theme) ∧ theme.lookup k.name = some (.string s)

/-- Every key has the text that was read for it. -/
theorem text_of_themeOf? {read : ThemeKey → Option String} {t : Theme} (h : themeOf? read = some t)
    (k : ThemeKey) : read k = some (t.text k) := by
  simp only [themeOf?, Option.pure_def, Option.bind_eq_bind, Option.bind_eq_some_iff,
    Option.some.injEq] at h
  obtain ⟨_, hbackground, _, hmainText, _, hkeyword, _, htypeName, _, hdeclaration, _, hoperator,
    _, hstring, _, hint, _, hcomment, _, hfunction, _, hfield, _, herror, rfl⟩ := h
  cases k with
  | background => exact hbackground
  | ofClass c => cases c <;> assumption

theorem text_of_theme? {origin : Toml.Origin} {entries : Entries} {t : Theme}
    (h : theme? (.table origin entries) = some t) (k : ThemeKey) :
    setting? text? ((default : Theme).text k) entries k.name = some (t.text k) := by
  rw [theme?] at h
  split at h
  · exact text_of_themeOf? h k
  · cases h

theorem text_of_gives {t : Text} {c : Config} (h : (Toml.parse? t).bind ofEntries? = some c)
    {k : ThemeKey} {s : String} (hgives : Gives t k s) : c.theme.text k = s := by
  obtain ⟨entries, origin, theme, hparse, htable, htext⟩ := hgives
  rw [hparse, Option.bind_some, ofEntries?] at h
  split at h
  · simp only [Option.pure_def, Option.bind_eq_bind, Option.bind_eq_some_iff, Option.some.injEq,
      setting?, htable] at h
    obtain ⟨_, -, _, -, _, -, theme', htheme, _, -, rfl⟩ := h
    have hsetting := text_of_theme? htheme k
    rw [setting?, htext] at hsetting
    exact (Option.some.inj hsetting).symm
  · cases h

/-! ## Documents -/

/-- Reading a colour by bytes never cuts through a character and finds what reading finds: exactly
the spellings are colours, a colour is written as its spelling in lower case, and what is written is
read back. A configuration is accepted exactly if its quiet interval is not zero and all its texts
are spellings, it is refused for the first of these that fails, and in an accepted one every colour
is found and written as its text in lower case. That text is the one that the document has under the
name of the key. -/
theorem accepted_themes_show :
    (∀ s, Colour.readBytes s = some (Colour.read s) ∧
      ((∃ x, Colour.read s = .ok x) ↔ Colour.IsSpelling s) ∧
      ∀ x, Colour.read s = .ok x → toString x = s.toLower) ∧
    (∀ x : Colour, Colour.read (toString x) = .ok x) ∧
    ∀ (t : Text) (c : Config), (Toml.parse? t).bind ofEntries? = some c →
      (∀ c', ofText t = .ok c' ↔
        c' = c ∧ c.quiet ≠ 0 ∧ ∀ k, Colour.IsSpelling (c.theme.text k)) ∧
      (∀ e, ofText t = .error e ↔ c.quiet = 0 ∧ e = .zeroQuietInterval ∨
        c.quiet ≠ 0 ∧ ∃ k, c.theme.IsFirstInvalid k ∧ e = .invalidColour k (c.theme.text k)) ∧
      (ofText t = .ok c →
        ∀ k, ∃ x, c.theme.colour? k = some x ∧ toString x = (c.theme.text k).toLower) ∧
      ∀ k s, Gives t k s → c.theme.text k = s := by
  refine ⟨fun s => ⟨Colour.readBytes_eq s, Colour.exists_read_eq_ok_iff, ?_⟩,
    Colour.read_toString, fun t c h => ?_⟩
  · intro x hx
    exact (Colour.read_eq_ok_iff.1 hx).2
  have haccepts (c' : Config) : ofText t = .ok c' ↔
      c' = c ∧ c.quiet ≠ 0 ∧ ∀ k, Colour.IsSpelling (c.theme.text k) := by
    rw [ofText_eq_ok_iff h, validate_eq_ok_iff]
  refine ⟨haccepts, fun e => ?_, fun hok k => ?_, fun k s hgives => text_of_gives h hgives⟩
  · rw [ofText_eq_error_iff h, validate_eq_error_iff]
  · obtain ⟨-, -, hspelled⟩ := (haccepts c).1 hok
    exact Theme.exists_colour?_of_isSpelling (hspelled k)

/-- A document whose one colour has digits in both cases, and one with two wrong colours: of these,
the one written second comes first in the order of the classes, and it has the six bytes of a colour
behind its `#`. -/
theorem accepted_themes_show_mixed_case :
    (∃ c, ofText "quiet_interval_ms = 300\n[theme]\ntype = \"#FfA0b1\"\n".toList = .ok c ∧
      c.quiet = 300 ∧ ∃ x, c.theme.colour? (.ofClass .typeName) = some x ∧
        toString x = "#ffa0b1") ∧
    ofText "[theme]\nerror = \"red\"\nkeyword = \"#é1234\"\n".toList =
      .error (.invalidColour (.ofClass .keyword) "#é1234") := by
  have hmixed :
      ∃ c ∈ (Toml.parse? "quiet_interval_ms = 300\n[theme]\ntype = \"#FfA0b1\"\n".toList).bind
        ofEntries?,
      c.quiet = 300 ∧ c.theme.text (.ofClass .typeName) = "#FfA0b1" ∧
      ∀ k ∈ ThemeKey.all, Colour.IsSpelling (c.theme.text k) := by
    decide +kernel
  have hwrong :
      ∃ c ∈ (Toml.parse? "[theme]\nerror = \"red\"\nkeyword = \"#é1234\"\n".toList).bind
        ofEntries?,
      c.quiet ≠ 0 ∧ Colour.IsSpelling (c.theme.text .background) ∧
      c.theme.text (.ofClass .keyword) = "#é1234" := by
    decide +kernel
  obtain ⟨c, hc, hquiet, htext, hspelled⟩ := hmixed
  obtain ⟨d, hd, hdquiet, hbackground, hkeyword⟩ := hwrong
  obtain ⟨-, -, hdocument⟩ := accepted_themes_show
  obtain ⟨haccepts, -, hshows, -⟩ := hdocument _ c hc
  obtain ⟨-, hrefuses, -, -⟩ := hdocument _ d hd
  have hok := (haccepts c).2 ⟨rfl, by omega, fun k => hspelled k (ThemeKey.mem_all k)⟩
  -- the wrong colour of an error comes behind the wrong one of a keyword
  have hfirst : d.theme.IsFirstInvalid (.ofClass .keyword) := by
    refine ⟨[.background], _, rfl, List.forall_mem_singleton.2 hbackground, ?_⟩
    rw [hkeyword]
    decide +kernel
  constructor
  · obtain ⟨x, hx, hshown⟩ := hshows hok (.ofClass .typeName)
    rw [htext] at hshown
    exact ⟨c, hok, hquiet, x, hx, hshown.trans (by decide +kernel)⟩
  · exact (hrefuses _).2 (.inr ⟨hdquiet, .ofClass .keyword, hfirst, by rw [hkeyword]⟩)

end Config

end EditorPane
