/-!
# Generations

A generation counts mutations: a 64-bit count that starts over when it is full, and a 32-bit epoch
that counts how often it did. Together they count to `2 ^ 96` before one comes up again.

## Main definitions

* `Generation`, `Generation.next`, `Generation.toNat`.
-/

namespace EditorPane

/-- A number of mutations. -/
structure Generation where
  epoch : UInt32
  count : UInt64
  deriving DecidableEq, Repr, Inhabited

namespace Generation

/-- The generation after one more mutation. -/
def next (g : Generation) : Generation :=
  if g.count.toNat + 1 < UInt64.size then { g with count := g.count + 1 } else ⟨g.epoch + 1, 0⟩

/-- The generation as one number. -/
def toNat (g : Generation) : Nat := g.epoch.toNat * UInt64.size + g.count.toNat

theorem toNat_lt (g : Generation) : g.toNat < UInt32.size * UInt64.size := by
  have he := g.epoch.toNat_lt
  have hc := g.count.toNat_lt
  simp only [toNat, UInt32.size, UInt64.size]
  omega

/-- Both words together count as one of 96 bits. -/
theorem toNat_next (g : Generation) :
    g.next.toNat = (g.toNat + 1) % (UInt32.size * UInt64.size) := by
  have he := g.epoch.toNat_lt
  have hc := g.count.toNat_lt
  unfold next UInt64.size UInt32.size
  split
  · simp only [toNat, UInt64.size, UInt64.toNat_add, UInt64.toNat_ofNat]
    omega
  · simp only [toNat, UInt64.size, UInt32.toNat_add, UInt32.toNat_ofNat, UInt64.toNat_ofNat]
    omega

/-- Written `epoch:count`. -/
instance : ToString Generation where
  toString g := s!"{g.epoch.toNat}:{g.count.toNat}"

end Generation

end EditorPane
