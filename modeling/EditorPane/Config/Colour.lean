import EditorPane.Text.Hex
import EditorPane.Text.Quoted

/-!
# Colours

A colour of 24 bits is written as a `#` and six hexadecimal digits, two for each channel. Either
case is read, lower case is written.

## Main definitions

* `Colour`, `Colour.ofString?`, `Colour.read`.
-/

namespace EditorPane

/-- A colour by its channels. -/
structure Colour where
  red : UInt8
  green : UInt8
  blue : UInt8
  deriving DecidableEq, Repr

/-- A text that is no colour. -/
structure InvalidColour where
  text : String
  deriving DecidableEq, Repr

/-- The wording of the refusal. -/
def InvalidColour.message (e : InvalidColour) : String :=
  s!"expected `#rrggbb`, got {quoted e.text}"

namespace Colour

/-- The channel written as two digits. -/
def channel? (high low : Char) : Option UInt8 :=
  match hexValue? high, hexValue? low with
  | some h, some l => some (UInt8.ofNat (16 * h + l))
  | _, _ => none

/-- The two digits of a channel. -/
def channelDigits (n : UInt8) : List Char := [hexDigit (n.toNat / 16), hexDigit (n.toNat % 16)]

/-- The colour that a text stands for. -/
def ofString? (s : String) : Option Colour :=
  match s.toList with
  | ['#', a, b, c, d, e, f] =>
    match channel? a b, channel? c d, channel? e f with
    | some red, some green, some blue => some ⟨red, green, blue⟩
    | _, _, _ => none
  | _ => none

/-- The colour that a text stands for, or the refusal. -/
def read (s : String) : Except InvalidColour Colour :=
  match ofString? s with
  | some c => .ok c
  | none => .error ⟨s⟩

/-- Written with lower-case digits. -/
instance : ToString Colour where
  toString c :=
    String.ofList ('#' :: channelDigits c.red ++ channelDigits c.green ++ channelDigits c.blue)

@[simp] theorem channel?_channelDigits (n : UInt8) :
    channel? (hexDigit (n.toNat / 16)) (hexDigit (n.toNat % 16)) = some n := by
  have hn := n.toNat_lt
  simp only [channel?, hexValue?_hexDigit (show n.toNat / 16 < 16 by omega),
    hexValue?_hexDigit (show n.toNat % 16 < 16 by omega), Nat.div_add_mod, UInt8.ofNat_toNat]

/-- What is written reads back. -/
@[simp] theorem ofString?_toString (c : Colour) : ofString? (toString c) = some c := by
  simp [ofString?, toString, channelDigits]

end Colour

end EditorPane
