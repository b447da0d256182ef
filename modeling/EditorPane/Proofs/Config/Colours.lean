import EditorPane.Config.Colour
import EditorPane.Proofs.Text.Bytes

/-!
# Texts of colours

A text stands for a colour if it is a `#` with six hexadecimal digits behind it, in either case, and
nothing else. A colour is written as what it was read from in lower case, so the texts of one colour
differ in the case of their digits only.

A reader may as well look at the bytes of a text and cut the channels out of it by byte offsets. It
finds the same colours, and since it looks before it cuts, it never cuts through a character.

## Main definitions

* `Colour.IsSpelling` — the form of a colour.
* `Colour.readBytes` — reading by bytes.

## Main results

* `Colour.ofString?_eq_some_iff` — which texts stand for which colours.
* `Colour.readBytes_eq` — reading by bytes always succeeds in saying the same.
-/

namespace EditorPane

/-! ## Digits -/

/-- The digits of base sixteen in either case. -/
def hexDigits : List Char :=
  ['0', '1', '2', '3', '4', '5', '6', '7', '8', '9', 'a', 'b', 'c', 'd', 'e', 'f',
    'A', 'B', 'C', 'D', 'E', 'F']

/-- What holds of the first characters of Unicode one by one holds of each of them. -/
theorem forall_char_of_lt {p : Char → Prop} {n : Nat} (h : ∀ k < n, p (Char.ofNat k)) {c : Char}
    (hc : c.toNat < n) : p c := by
  rw [← Char.ofNat_toNat c]
  exact h _ hc

theorem toNat_lt_of_mem_hexDigits {c : Char} (h : c ∈ hexDigits) : c.toNat < 128 := by
  have hall : hexDigits.all (fun c => c.toNat < 128) = true := by decide
  exact of_decide_eq_true (List.all_eq_true.1 hall c h)

theorem toNat_lt_of_hexValue? {c : Char} {n : Nat} (h : hexValue? c = some n) :
    c.toNat < 128 := by
  grind [hexValue?, Char.le_def, UInt32.le_iff_toNat_le, Char.toNat]

theorem isSome_hexValue?_iff {c : Char} : (hexValue? c).isSome ↔ c ∈ hexDigits := by
  have hall : ∀ n < 128, (hexValue? (Char.ofNat n)).isSome ↔ Char.ofNat n ∈ hexDigits := by
    decide +kernel
  have hagree (hc : c.toNat < 128) : (hexValue? c).isSome ↔ c ∈ hexDigits :=
    forall_char_of_lt (p := fun c => (hexValue? c).isSome ↔ c ∈ hexDigits) hall hc
  constructor
  · intro h
    obtain ⟨n, hn⟩ := Option.isSome_iff_exists.1 h
    exact (hagree (toNat_lt_of_hexValue? hn)).1 h
  · intro h
    exact (hagree (toNat_lt_of_mem_hexDigits h)).2 h

theorem hexDigit_of_hexValue? {c : Char} {n : Nat} (h : hexValue? c = some n) :
    hexDigit n = c.toLower := by
  have hall : ∀ k < 128, ∀ n ∈ hexValue? (Char.ofNat k), hexDigit n = (Char.ofNat k).toLower := by
    decide +kernel
  exact forall_char_of_lt (p := fun c => ∀ n ∈ hexValue? c, hexDigit n = c.toLower) hall
    (toNat_lt_of_hexValue? h) n h

/-! ## Colours -/

namespace Colour

/-- The text is a `#` and six hexadecimal digits. -/
def IsSpelling (s : String) : Prop :=
  ∃ digits : List Char, s.toList = '#' :: digits ∧ digits.length = 6 ∧ ∀ c ∈ digits, c ∈ hexDigits

theorem isSpelling_iff {s : String} : IsSpelling s ↔
    ∃ a b c d e f, s.toList = ['#', a, b, c, d, e, f] ∧ (a ∈ hexDigits ∧ b ∈ hexDigits) ∧
      (c ∈ hexDigits ∧ d ∈ hexDigits) ∧ e ∈ hexDigits ∧ f ∈ hexDigits := by
  constructor
  · rintro ⟨digits, hs, hlength, hdigits⟩
    match digits, hlength with
    | [a, b, c, d, e, f], _ => exact ⟨a, b, c, d, e, f, hs, by simpa [and_assoc] using hdigits⟩
  · rintro ⟨a, b, c, d, e, f, hs, hdigits⟩
    exact ⟨[a, b, c, d, e, f], hs, rfl, by simpa [and_assoc] using hdigits⟩

theorem IsSpelling.toNat_lt {s : String} (h : IsSpelling s) : ∀ c ∈ s.toList, c.toNat < 128 := by
  obtain ⟨digits, hs, -, hdigits⟩ := h
  rw [hs, List.forall_mem_cons]
  exact ⟨by decide, fun c hc => toNat_lt_of_mem_hexDigits (hdigits c hc)⟩

theorem isSome_channel?_iff {a b : Char} :
    (channel? a b).isSome ↔ a ∈ hexDigits ∧ b ∈ hexDigits := by
  rw [← isSome_hexValue?_iff, ← isSome_hexValue?_iff, channel?]
  cases hexValue? a <;> cases hexValue? b <;> simp

theorem channelDigits_of_channel? {a b : Char} {n : UInt8} (h : channel? a b = some n) :
    channelDigits n = [a.toLower, b.toLower] := by
  rw [channel?] at h
  split at h
  · next high low ha hb =>
    have hhigh := hexValue?_lt ha
    have hlow := hexValue?_lt hb
    simp only [Option.some.injEq] at h
    have hn : n.toNat = 16 * high + low := by
      rw [← h, UInt8.toNat_ofNat']
      omega
    rw [channelDigits, show n.toNat / 16 = high by omega, show n.toNat % 16 = low by omega,
      hexDigit_of_hexValue? ha, hexDigit_of_hexValue? hb]
  · cases h

theorem exists_of_ofString? {s : String} {x : Colour} (h : ofString? s = some x) :
    ∃ a b c d e f, s.toList = ['#', a, b, c, d, e, f] ∧ channel? a b = some x.red ∧
      channel? c d = some x.green ∧ channel? e f = some x.blue := by
  rw [ofString?] at h
  split at h
  · next a b c d e f hs =>
    split at h
    · next red green blue hred hgreen hblue =>
      cases h
      exact ⟨a, b, c, d, e, f, hs, hred, hgreen, hblue⟩
    · cases h
  · cases h

/-- Every spelling is read, and nothing else is. -/
theorem isSome_ofString?_iff {s : String} : (ofString? s).isSome ↔ IsSpelling s := by
  rw [isSpelling_iff]
  simp only [← isSome_channel?_iff]
  constructor
  · intro h
    obtain ⟨x, hx⟩ := Option.isSome_iff_exists.1 h
    obtain ⟨a, b, c, d, e, f, hs, hred, hgreen, hblue⟩ := exists_of_ofString? hx
    exact ⟨a, b, c, d, e, f, hs, by simp [hred], by simp [hgreen], by simp [hblue]⟩
  · rintro ⟨a, b, c, d, e, f, hs, hred, hgreen, hblue⟩
    obtain ⟨red, hred⟩ := Option.isSome_iff_exists.1 hred
    obtain ⟨green, hgreen⟩ := Option.isSome_iff_exists.1 hgreen
    obtain ⟨blue, hblue⟩ := Option.isSome_iff_exists.1 hblue
    simp [ofString?, hs, hred, hgreen, hblue]

theorem toString_of_ofString? {s : String} {x : Colour} (h : ofString? s = some x) :
    toString x = s.toLower := by
  obtain ⟨a, b, c, d, e, f, hs, hred, hgreen, hblue⟩ := exists_of_ofString? h
  have hlower : s.toLower.toList = s.toList.map Char.toLower := String.toList_map
  rw [← String.toList_inj, hlower, hs]
  simp [toString, channelDigits_of_channel? hred, channelDigits_of_channel? hgreen,
    channelDigits_of_channel? hblue]

/-- The texts of a colour are the spellings that in lower case are what it is written as. -/
theorem ofString?_eq_some_iff {s : String} {x : Colour} :
    ofString? s = some x ↔ IsSpelling s ∧ toString x = s.toLower := by
  constructor
  · intro h
    exact ⟨isSome_ofString?_iff.1 (Option.isSome_of_eq_some h), toString_of_ofString? h⟩
  · rintro ⟨hs, hx⟩
    obtain ⟨y, hy⟩ := Option.isSome_iff_exists.1 (isSome_ofString?_iff.2 hs)
    have hxy : toString x = toString y := hx.trans (toString_of_ofString? hy).symm
    have hback := ofString?_toString x
    rw [hxy, ofString?_toString] at hback
    exact hy.trans hback

instance (s : String) : Decidable (IsSpelling s) := decidable_of_iff _ isSome_ofString?_iff

theorem read_eq_ok_iff {s : String} {x : Colour} :
    read s = .ok x ↔ IsSpelling s ∧ toString x = s.toLower := by
  rw [← ofString?_eq_some_iff, read]
  cases ofString? s <;> simp

/-- Colours are read from the spellings. -/
theorem exists_read_eq_ok_iff {s : String} : (∃ x, read s = .ok x) ↔ IsSpelling s := by
  rw [← isSome_ofString?_iff, read]
  cases ofString? s <;> simp

/-- What is written is read back. -/
theorem read_toString (x : Colour) : read (toString x) = .ok x := by
  rw [read, ofString?_toString]

theorem read_eq_error_iff {s : String} {e : InvalidColour} :
    read s = .error e ↔ ¬ IsSpelling s ∧ e = ⟨s⟩ := by
  rw [← isSome_ofString?_iff, read]
  cases ofString? s <;> simp [eq_comm]

/-! ## Reading by bytes -/

/-- The byte is that of a hexadecimal digit. -/
def isDigitByte (b : UInt8) : Bool := Char.ofNat b.toNat ∈ hexDigits

/-- The number of a channel, in which a sign may take the place of the first digit. -/
def channelOf? (piece : String) : Option UInt8 :=
  match piece.toList with
  | ['+', low] => (hexValue? low).map UInt8.ofNat
  | [high, low] => channel? high low
  | _ => none

/-- Reading by bytes: behind the byte of a `#` there have to be six bytes of digits. Only then the
channels are cut out of the text by byte offsets. There is no answer if a cut goes through a
character. -/
def readBytes (s : String) : Option (Except InvalidColour Colour) :=
  match bytesOf s with
  | 0x23 :: digits =>
    if digits.length = 6 ∧ digits.all isDigitByte then do
      let red := channelOf? (← pieceOf? s 1 3)
      let green := channelOf? (← pieceOf? s 3 5)
      let blue := channelOf? (← pieceOf? s 5 7)
      match red, green, blue with
      | some red, some green, some blue => pure (.ok ⟨red, green, blue⟩)
      | _, _, _ => pure (.error ⟨s⟩)
    else some (.error ⟨s⟩)
  | _ => some (.error ⟨s⟩)

theorem toNat_lt_of_isDigitByte {b : UInt8} (h : isDigitByte b = true) : b.toNat < 128 := by
  have hvalid : b.toNat.isValidChar := .inl (Nat.lt_trans b.toNat_lt (by decide))
  have hsame : (Char.ofNat b.toNat).toNat = b.toNat := by
    rw [Char.ofNat, dif_pos hvalid]
    rfl
  rw [← hsame]
  exact toNat_lt_of_mem_hexDigits (of_decide_eq_true h)

/-- The bytes that are asked for are those of the spellings. -/
theorem isSpelling_iff_bytesOf {s : String} : IsSpelling s ↔
    ∃ digits, bytesOf s = 0x23 :: digits ∧ digits.length = 6 ∧ digits.all isDigitByte := by
  constructor
  · rintro ⟨digits, hs, hlength, hdigits⟩
    have hsmall := IsSpelling.toNat_lt ⟨digits, hs, hlength, hdigits⟩
    refine ⟨digits.map fun c => UInt8.ofNat c.toNat, ?_, by rwa [List.length_map], ?_⟩
    · rw [bytesOf_of_lt hsmall, hs, List.map_cons]
      rfl
    · rw [List.all_map, List.all_eq_true]
      intro c hc
      have hbyte := ofNat_toNat_byte (toNat_lt_of_mem_hexDigits (hdigits c hc))
      rw [Function.comp_apply, isDigitByte, hbyte]
      exact decide_eq_true (hdigits c hc)
  · rintro ⟨digits, hs, hlength, hdigits⟩
    rw [List.all_eq_true] at hdigits
    have hsmall : ∀ b ∈ bytesOf s, b.toNat < 128 := by
      rw [hs, List.forall_mem_cons]
      exact ⟨by decide, fun b hb => toNat_lt_of_isDigitByte (hdigits b hb)⟩
    refine ⟨digits.map fun b => Char.ofNat b.toNat, ?_, by rwa [List.length_map], ?_⟩
    · rw [toList_of_bytesOf_lt hsmall, hs, List.map_cons]
      rfl
    · intro c hc
      obtain ⟨b, hb, rfl⟩ := List.mem_map.1 hc
      exact of_decide_eq_true (hdigits b hb)

/-- A digit is no sign. -/
theorem channelOf?_ofList {a b : Char} (h : a ∈ hexDigits) :
    channelOf? (String.ofList [a, b]) = channel? a b := by
  have hsign : a ≠ '+' := by
    rintro rfl
    revert h
    decide
  rw [channelOf?, String.toList_ofList]
  split
  · next low hpiece => exact absurd (List.cons.inj hpiece).1 hsign
  · next high low hpiece =>
    cases hpiece
    rfl
  · next hother => exact absurd rfl (hother a b)

/-- The pieces are those of the digits, since every character of a spelling is one byte. -/
theorem readBytes_of_isSpelling {s : String} (h : IsSpelling s) : readBytes s = some (read s) := by
  obtain ⟨bytes, hbytes, hlength, hall⟩ := isSpelling_iff_bytesOf.1 h
  obtain ⟨a, b, c, d, e, f, hs, ⟨ha, -⟩, ⟨hc, -⟩, he, -⟩ := isSpelling_iff.1 h
  have hred : pieceOf? s 1 3 = some (String.ofList [a, b]) :=
    pieceOf?_of_lt (l := ['#']) (m := [a, b]) hs h.toNat_lt
  have hgreen : pieceOf? s 3 5 = some (String.ofList [c, d]) :=
    pieceOf?_of_lt (l := ['#', a, b]) (m := [c, d]) hs h.toNat_lt
  have hblue : pieceOf? s 5 7 = some (String.ofList [e, f]) :=
    pieceOf?_of_lt (l := ['#', a, b, c, d]) (m := [e, f]) hs h.toNat_lt
  rw [readBytes, hbytes]
  simp only [hlength, hall, and_self, if_true, hred, hgreen, hblue, Option.bind_eq_bind,
    Option.bind_some, channelOf?_ofList ha, channelOf?_ofList hc, channelOf?_ofList he, read,
    ofString?, hs]
  cases channel? a b <;> cases channel? c d <;> cases channel? e f <;> rfl

/-- What is cut is cut between characters, and what is found is what reading finds. -/
theorem readBytes_eq (s : String) : readBytes s = some (read s) := by
  by_cases h : IsSpelling s
  · exact readBytes_of_isSpelling h
  · rw [read_eq_error_iff.2 ⟨h, rfl⟩, readBytes]
    split
    · next digits hbytes =>
      rw [if_neg]
      rintro ⟨hlength, hall⟩
      exact h (isSpelling_iff_bytesOf.2 ⟨digits, hbytes, hlength, hall⟩)
    · rfl

end Colour

end EditorPane
