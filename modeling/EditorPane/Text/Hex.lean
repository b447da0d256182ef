/-!
# Hexadecimal digits

Digits in either case are read; lower case is written.

## Main definitions

* `hexValue?`, `hexDigit` — a digit as a number and back.
-/

namespace EditorPane

/-- The value of a hexadecimal digit. -/
def hexValue? (c : Char) : Option Nat :=
  if '0' ≤ c ∧ c ≤ '9' then some (c.toNat - 48)
  else if 'a' ≤ c ∧ c ≤ 'f' then some (c.toNat - 87)
  else if 'A' ≤ c ∧ c ≤ 'F' then some (c.toNat - 55)
  else none

/-- The digit of a value below sixteen. -/
def hexDigit (n : Nat) : Char :=
  if n < 10 then Char.ofNat (48 + n) else Char.ofNat (87 + n)

theorem hexValue?_hexDigit {n : Nat} (h : n < 16) : hexValue? (hexDigit n) = some n := by
  have : ∀ m : Fin 16, hexValue? (hexDigit m) = some m.val := by decide
  exact this ⟨n, h⟩

theorem hexValue?_lt {c : Char} {n : Nat} (h : hexValue? c = some n) : n < 16 := by
  simp only [hexValue?, Char.le_def, UInt32.le_iff_toNat_le] at h
  split at h
  · next hc =>
    simp only [Option.some.injEq] at h
    have h₂ : c.toNat ≤ 57 := hc.2
    omega
  · split at h
    · next hc =>
      simp only [Option.some.injEq] at h
      have h₂ : c.toNat ≤ 102 := hc.2
      omega
    · split at h
      · next hc =>
        simp only [Option.some.injEq] at h
        have h₂ : c.toNat ≤ 70 := hc.2
        omega
      · simp at h

end EditorPane
