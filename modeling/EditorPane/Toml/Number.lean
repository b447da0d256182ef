import EditorPane.Text.Hex
import EditorPane.Text.Line

/-!
# Numbers of a TOML document

A number is told by its outline: an integer is decimal, without leading zeros and perhaps with a
sign, or has a base of its own and no sign; one with a fraction, an exponent or both has digits on
both sides of its point; infinity and not-a-number are words. Underscores may group the digits.

What an integer is worth is asked only when it is used, and until then it is enough that it starts
like one. Grouped decimal digits may be followed by anything, and a base by nothing at all.

## Main definitions

* `Toml.Numeral`, `Toml.Numeral.toInt?` — integers as written, and what they are worth.
* `Toml.Decimal` — numbers with a fraction or an exponent.
* `Toml.numeral?`, `Toml.float?` — a whole text as a number.
-/

namespace EditorPane.Toml

/-! ## Digits -/

/-- The characters that are digits in some base. -/
def isHexDigit (c : Char) : Bool := (hexValue? c).isSome

/-- The value of a digit in a base. -/
def digitIn? (base : Nat) (c : Char) : Option Nat := (hexValue? c).filter (· < base)

/-- The number that digits stand for when they follow those of `value`. -/
def digitsFrom? (base value : Nat) : Text → Option Nat
  | [] => some value
  | c :: rest => (digitIn? base c).bind fun d => digitsFrom? base (base * value + d) rest

/-- The number that one or more digits stand for. -/
def natural? (base : Nat) (t : Text) : Option Nat :=
  if t.isEmpty then none else digitsFrom? base 0 t

/-- Decimal digits and underscores. -/
def isGrouped (c : Char) : Bool := c.isDigit || c == '_'

/-- The text without its underscores. -/
def ungrouped (t : Text) : Text := t.filter (· != '_')

/-- Every underscore stands between two digits; `before` says that there is one before the text. -/
def joinsDigits (isDigit : Char → Bool) : Bool → Text → Bool
  | _, [] => true
  | before, c :: rest =>
    if c = '_' then before && rest.head?.any isDigit && joinsDigits isDigit false rest
    else joinsDigits isDigit (isDigit c) rest

/-! ## Signs -/

/-- A sign. -/
inductive Sign where
  | plus
  | minus
  deriving DecidableEq, Repr

/-- The number with the sign; without one it is positive. -/
def Sign.apply : Option Sign → Nat → Int
  | some .minus, n => -n
  | _, n => n

/-- A sign, if there is one, and the text behind it. -/
def splitSign : Text → Option Sign × Text
  | '-' :: rest => (some .minus, rest)
  | '+' :: rest => (some .plus, rest)
  | t => (none, t)

/-! ## Integers -/

/-- An integer as written, without underscores. -/
structure Numeral where
  base : Nat
  sign : Option Sign
  digits : Text
  deriving DecidableEq, Repr

/-- The integer that is meant, if the digits are digits of the base. -/
def Numeral.toInt? (n : Numeral) : Option Int := (natural? n.base n.digits).map (Sign.apply n.sign)

/-- The integer in a base of its own with the given digits, of which there may be none. -/
def basedNumeral? (base : Nat) (t : Text) : Option Numeral :=
  if t.all (fun c => c == '_' || (digitIn? base c).isSome) && joinsDigits isHexDigit false t then
    some ⟨base, none, ungrouped t⟩
  else none

/-- The characters that tell other things from decimal integers. -/
def isForeign (c : Char) : Bool := c == '.' || c == 'e' || c == 'E' || c == ' '

/-- The decimal integer of a text: digits alone, or digits up to an underscore with more behind
it. -/
def decimalNumeral? (t : Text) : Option Numeral :=
  let (sign, body) := splitSign t
  let behind := body.dropWhile Char.isDigit
  if body = [] ∨ (body.head? = some '0' ∧ body ≠ ['0']) then none
  else if behind = [] ∨
      (behind.head? = some '_' ∧ !body.any isForeign ∧ joinsDigits isHexDigit false body) then
    some ⟨10, sign, ungrouped body⟩
  else none

/-- The integer of a text. -/
def numeral? (t : Text) : Option Numeral :=
  match t with
  | '0' :: 'x' :: digits => basedNumeral? 16 digits
  | '0' :: 'o' :: digits => basedNumeral? 8 digits
  | '0' :: 'b' :: digits => basedNumeral? 2 digits
  | _ => decimalNumeral? t

/-! ## Fractions and exponents -/

/-- A decimal number, the integer `mantissa` moved by `exponent` places. -/
structure Decimal where
  mantissa : Nat
  exponent : Int
  deriving DecidableEq, Repr

/-- The number rounds to a finite double. -/
def Decimal.isFinite (d : Decimal) : Bool :=
  let limit := Nat.pow 2 1024 - Nat.pow 2 970
  let digits := (Nat.toDigits 10 d.mantissa).length
  if d.mantissa = 0 then true
  else if d.exponent + digits < 300 then true
  else if 400 < d.exponent + digits then false
  else if 0 ≤ d.exponent then d.mantissa * Nat.pow 10 d.exponent.toNat < limit
  else d.mantissa < limit * Nat.pow 10 (-d.exponent).toNat

/-- The number that grouped digits stand for. -/
def groupedNatural? (t : Text) : Option Nat := natural? 10 (ungrouped t)

/-- The exponent that ends a number; none at all is zero. -/
def exponent? (t : Text) : Option Int :=
  match t with
  | [] => some 0
  | c :: rest =>
    if c = 'e' ∨ c = 'E' then
      let (sign, digits) := splitSign rest
      if digits.all isGrouped then (groupedNatural? digits).map (Sign.apply sign) else none
    else none

/-- The number with a fraction or an exponent that a text without a sign stands for. -/
def unsignedDecimal? (t : Text) : Option Decimal := do
  let whole := t.takeWhile isGrouped
  let n ← groupedNatural? whole
  if whole.head? = some '0' ∧ 1 < (ungrouped whole).length then none
  else match t.dropWhile isGrouped with
    | [] => none
    | '.' :: behind =>
      let fraction := behind.takeWhile isGrouped
      discard (groupedNatural? fraction)
      let mantissa ← groupedNatural? (whole ++ fraction)
      let e ← exponent? (behind.dropWhile isGrouped)
      pure ⟨mantissa, e - (ungrouped fraction).length⟩
    | behind => (exponent? behind).map fun e => ⟨n, e⟩

/-- The number with a fraction or an exponent that a text stands for. Infinity and not-a-number
have no digits. -/
def float? (t : Text) : Option (Option Decimal) :=
  let body := (splitSign t).2
  if body = ['i', 'n', 'f'] ∨ body = ['n', 'a', 'n'] then some none
  else if joinsDigits Char.isDigit false body then (unsignedDecimal? body).map some
  else none

end EditorPane.Toml
