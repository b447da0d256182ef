import EditorPane.Text.Line

/-!
# Dates and times of a TOML document

A date, a time of day, or both with perhaps an offset from universal time. The seconds may be left
out. Nothing reads the value of a date, so here it is only told what is one.

## Main definitions

* `Toml.isDate`, `Toml.isTimeOfDay`, `Toml.isDateTime`.
-/

namespace EditorPane.Toml

/-- The number that the first `n` characters stand for if they are digits, and what follows. -/
def fixedDigits? (n : Nat) (t : Text) : Option (Nat × Text) :=
  let digits := t.take n
  if digits.length = n ∧ digits.all Char.isDigit then
    some (digits.foldl (fun value c => 10 * value + (c.toNat - 48)) 0, t.drop n)
  else none

/-- Years divisible by four, except for centuries not divisible by 400. -/
def isLeapYear (year : Nat) : Bool := year % 4 = 0 && (year % 100 != 0 || year % 400 = 0)

/-- The number of days of a month. -/
def daysInMonth (year month : Nat) : Nat :=
  if month = 2 then if isLeapYear year then 29 else 28
  else if month = 4 ∨ month = 6 ∨ month = 9 ∨ month = 11 then 30
  else 31

/-- What follows a date at the front of a text. -/
def afterDate? (t : Text) : Option Text := do
  let (year, t) ← fixedDigits? 4 t
  let '-' :: t := t | none
  let (month, t) ← fixedDigits? 2 t
  let '-' :: t := t | none
  let (day, t) ← fixedDigits? 2 t
  if 1 ≤ month ∧ month ≤ 12 ∧ 1 ≤ day ∧ day ≤ daysInMonth year month then some t else none

/-- What follows the seconds, with or without a fraction, or their absence. -/
def afterSeconds? (t : Text) : Option Text :=
  match t with
  | ':' :: t => do
    let (second, t) ← fixedDigits? 2 t
    if 60 < second then none
    else match t with
      | '.' :: c :: t => if c.isDigit then some (t.dropWhile Char.isDigit) else none
      | '.' :: [] => none
      | t => some t
  | t => some t

/-- What follows a time of day at the front of a text. -/
def afterTime? (t : Text) : Option Text := do
  let (hour, t) ← fixedDigits? 2 t
  let ':' :: t := t | none
  let (minute, t) ← fixedDigits? 2 t
  if hour ≤ 23 ∧ minute ≤ 59 then afterSeconds? t else none

/-- The text is an offset from universal time, or nothing. -/
def isOffset (t : Text) : Bool :=
  match t with
  | [] => true
  | [c] => c == 'Z' || c == 'z'
  | c :: t =>
    if c = '+' ∨ c = '-' then
      match fixedDigits? 2 t with
      | some (hours, ':' :: t) =>
        match fixedDigits? 2 t with
        | some (minutes, []) => hours ≤ 23 && minutes ≤ 59
        | _ => false
      | _ => false
    else false

/-- The text is a date. -/
def isDate (t : Text) : Bool := afterDate? t = some []

/-- The text is a time of day. -/
def isTimeOfDay (t : Text) : Bool := afterTime? t = some []

/-- The text is a date, a time of day, or a date with a time. -/
def isDateTime (t : Text) : Bool :=
  isDate t || isTimeOfDay t ||
    match afterDate? t with
    | some (c :: t) => (c == 'T' || c == 't' || c == ' ') && (afterTime? t).any isOffset
    | _ => false

end EditorPane.Toml
