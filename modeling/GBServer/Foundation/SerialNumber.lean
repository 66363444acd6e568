import Mathlib.Algebra.Order.Ring.Int
import Mathlib.Data.List.Basic

/-!
Serial numbers: unbounded indices transmitted in a `w`-bit field.  Two indices
less than `2 ^ w` apart are told apart by their fields, and the signed distance
of the fields is the distance of the indices as long as it fits in `w` bits.
-/

namespace Foundation.SerialNumber

variable {w : Nat}

/-- The field that carries the index `i`. -/
abbrev serial (w : Nat) (i : Int) : BitVec w := BitVec.ofInt w i

theorem serial_eq_iff {i j : Int} :
    serial w i = serial w j ↔ i % (2 ^ w : Nat) = j % (2 ^ w : Nat) := by
  have hpos : (0 : Int) < (2 ^ w : Nat) := by
    exact_mod_cast Nat.two_pow_pos w
  constructor
  · intro h
    have hnat := congrArg BitVec.toNat h
    rw [BitVec.toNat_ofInt, BitVec.toNat_ofInt] at hnat
    have hi := Int.emod_nonneg i hpos.ne'
    have hj := Int.emod_nonneg j hpos.ne'
    omega
  · intro h
    apply BitVec.eq_of_toNat_eq
    rw [BitVec.toNat_ofInt, BitVec.toNat_ofInt, h]

theorem serial_inj_of_lt {i j : Int} (hlow : -(2 ^ w : Nat) < i - j)
    (hhigh : i - j < (2 ^ w : Nat)) (h : serial w i = serial w j) : i = j := by
  have hdvd : ((2 ^ w : Nat) : Int) ∣ i - j :=
    Int.dvd_of_emod_eq_zero (Int.emod_eq_emod_iff_emod_sub_eq_zero.mp (serial_eq_iff.mp h))
  have hzero : i - j = 0 :=
    Int.eq_zero_of_abs_lt_dvd hdvd (abs_lt.mpr ⟨hlow, hhigh⟩)
  omega

theorem serial_add_pow (i : Int) : serial w (i + (2 ^ w : Nat)) = serial w i := by
  rw [serial_eq_iff, Int.add_emod_right]

theorem serial_toNat (s : BitVec w) : serial w s.toNat = s := by
  rw [serial, BitVec.ofInt_natCast, BitVec.ofNat_toNat, BitVec.setWidth_eq]

/-- Counting from the transmitted value of an index instead of the index itself
shifts every index by a multiple of the period. -/
theorem serial_shift (opening i : Int) :
    serial w (i + ((serial w opening).toNat - opening)) = serial w i := by
  have hpos : (0 : Int) < (2 ^ w : Nat) := by
    exact_mod_cast Nat.two_pow_pos w
  have hvalue : ((serial w opening).toNat : Int) = opening % (2 ^ w : Nat) := by
    rw [BitVec.toNat_ofInt]
    exact Int.toNat_of_nonneg (Int.emod_nonneg opening hpos.ne')
  have hperiod := Int.emod_add_mul_ediv opening (2 ^ w : Nat)
  have hshift : i + (opening % (2 ^ w : Nat) - opening) =
      i + (2 ^ w : Nat) * -(opening / (2 ^ w : Nat)) := by
    rw [mul_neg]
    omega
  rw [serial_eq_iff, hvalue, hshift, Int.add_mul_emod_self_left]

theorem toInt_serial_sub (i j : Int) :
    (serial w i - serial w j).toInt = (i - j).bmod (2 ^ w) := by
  rw [BitVec.toInt_sub, BitVec.toInt_ofInt, BitVec.toInt_ofInt,
    Int.bmod_sub_bmod, Int.sub_bmod_bmod]

theorem toInt_serial_sub_of_lt {i j : Int} (hlow : -(2 ^ w : Nat) ≤ 2 * (i - j))
    (hhigh : 2 * (i - j) < (2 ^ w : Nat)) : (serial w i - serial w j).toInt = i - j := by
  rw [toInt_serial_sub]
  apply Int.bmod_eq_of_le
  · omega
  · omega

theorem serial_add_toInt_sub (i : Int) (s : BitVec w) :
    serial w (i + (s - serial w i).toInt) = s := by
  rw [serial, BitVec.ofInt_add, BitVec.ofInt_toInt, BitVec.add_comm,
    BitVec.sub_add_cancel]

end Foundation.SerialNumber
