/-!
# Machine words

Offsets, columns and counts are kept in words of 64 bits. The sum or the difference of two words is
the ordinary one if it fits a word, and wraps around if it does not.

## Main definitions

* `wordAdd`, `wordSub` — sums and differences of words.
-/

namespace EditorPane

/-- The sum of two words, which wraps around past the largest one. -/
def wordAdd (a b : Nat) : Nat := (a + b) % UInt64.size

/-- The difference of two words, which wraps around below zero. -/
def wordSub (a b : Nat) : Nat := if b ≤ a then a - b else a + UInt64.size - b

theorem wordAdd_of_lt {a b : Nat} (h : a + b < UInt64.size) : wordAdd a b = a + b :=
  Nat.mod_eq_of_lt h

theorem wordSub_of_le {a b : Nat} (h : b ≤ a) : wordSub a b = a - b := if_pos h

theorem wordAdd_toNat (a b : UInt64) : wordAdd a.toNat b.toNat = (a + b).toNat :=
  (UInt64.toNat_add a b).symm

theorem wordSub_toNat (a b : UInt64) : wordSub a.toNat b.toNat = (a - b).toNat := by
  have ha := a.toNat_lt
  have hb := b.toNat_lt
  rw [UInt64.toNat_sub, wordSub, UInt64.size]
  split <;> omega

end EditorPane
