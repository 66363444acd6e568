import Mathlib.Algebra.Order.Ring.Int

namespace Foundation.Rounding

def roundQuotient (n unit : Nat) : Nat :=
  if 2 * (n % unit) < unit ∨ (2 * (n % unit) = unit ∧ n / unit % 2 = 0) then n / unit
  else n / unit + 1

/-- The nearest number that has at most so many significant bits. -/
def roundNearest (precision n : Nat) : Nat :=
  roundQuotient n (2 ^ (n.log2 + 1 - precision)) * 2 ^ (n.log2 + 1 - precision)

theorem roundQuotient_mul_le {n unit : Nat} (hunit : 0 < unit) :
    2 * (roundQuotient n unit * unit) ≤ 2 * n + unit := by
  have hdiv := Nat.div_add_mod n unit
  have hmod := Nat.mod_lt n hunit
  have hcomm : n / unit * unit = unit * (n / unit) := Nat.mul_comm _ _
  rw [roundQuotient]
  split
  · omega
  · rw [Nat.add_mul, Nat.one_mul]
    omega

theorem roundNearest_mul_le (precision n : Nat) :
    roundNearest precision n * 2 ^ precision ≤ n * 2 ^ precision + n := by
  rcases Nat.eq_zero_or_pos n with rfl | hpos
  · have hunit : 2 * (0 % 2 ^ (Nat.log2 0 + 1 - precision)) <
        2 ^ (Nat.log2 0 + 1 - precision) := by
      rw [Nat.zero_mod]
      exact Nat.two_pow_pos _
    rw [roundNearest, roundQuotient, if_pos (Or.inl hunit)]
    simp
  · have hlog : 2 ^ n.log2 ≤ n := Nat.log2_self_le (Nat.ne_of_gt hpos)
    have hround := roundQuotient_mul_le (n := n) (Nat.two_pow_pos (n.log2 + 1 - precision))
    rw [← roundNearest] at hround
    rcases Nat.lt_or_ge n.log2 precision with hfits | hlong
    · have hzero : n.log2 + 1 - precision = 0 := by omega
      rw [hzero, Nat.pow_zero] at hround
      exact Nat.le_trans (Nat.mul_le_mul_right _ (by omega)) (Nat.le_add_right _ _)
    · have hunit : 2 ^ (n.log2 + 1 - precision) * 2 ^ precision = 2 * 2 ^ n.log2 := by
        rw [← Nat.pow_add, ← Nat.pow_succ']
        congr 1
        omega
      have hscaled := Nat.mul_le_mul_right (2 ^ precision) hround
      rw [Nat.add_mul, hunit] at hscaled
      have hleft : 2 * roundNearest precision n * 2 ^ precision =
          2 * (roundNearest precision n * 2 ^ precision) := Nat.mul_assoc _ _ _
      have hright : 2 * n * 2 ^ precision = 2 * (n * 2 ^ precision) := Nat.mul_assoc _ _ _
      omega

end Foundation.Rounding
