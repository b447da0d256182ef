import EditorPane.Schedule.Generation
import Mathlib.Algebra.Group.Nat.Defs
import Mathlib.Data.List.Iterate
import Mathlib.Data.List.Nodup

/-!
# Counting generations

The generation after `n` mutations is the `n`-th iterate of `Generation.next`. As one number it
counts modulo `2 ^ 96`, so fewer mutations than that never lead back to a generation that was
passed on the way.

## Main results

* `Generation.iterate_next_injective` — different numbers of mutations, different generations.
* `Generation.nodup_iterate_next` — the generations that follow each other are told apart.
-/

namespace EditorPane.Generation

theorem toNat_iterate_next (g : Generation) (n : Nat) :
    (next^[n] g).toNat = (g.toNat + n) % 2 ^ 96 := by
  induction n with
  | zero =>
    have hlt : g.toNat < 2 ^ 96 := g.toNat_lt
    rw [Function.iterate_zero_apply]
    omega
  | succ n ih =>
    have hsize : UInt32.size * UInt64.size = 2 ^ 96 := rfl
    rw [Function.iterate_succ_apply', toNat_next, ih, hsize]
    omega

theorem iterate_next_injective {g : Generation} {m n : Nat} (hm : m < 2 ^ 96) (hn : n < 2 ^ 96)
    (h : next^[m] g = next^[n] g) : m = n := by
  have hg := g.toNat_lt
  have e := congrArg toNat h
  rw [toNat_iterate_next, toNat_iterate_next] at e
  omega

/-- Some mutations, but not as many as there are generations, lead to another generation. -/
theorem iterate_next_ne_self {g : Generation} {n : Nat} (hpos : 0 < n) (hn : n < 2 ^ 96) :
    next^[n] g ≠ g := by
  intro h
  have := iterate_next_injective hn (Nat.two_pow_pos 96) h
  omega

theorem nodup_iterate_next (g : Generation) {n : Nat} (hn : n ≤ 2 ^ 96) :
    (List.iterate next g n).Nodup := by
  rw [← List.range_map_iterate]
  refine List.Nodup.map_on (fun i hi j hj hij => ?_) List.nodup_range
  rw [List.mem_range] at hi hj
  exact iterate_next_injective (hi.trans_le hn) (hj.trans_le hn) hij

end EditorPane.Generation
