import CloudTemplate.Number.Binary64
import Mathlib

/-!
# Small integers as doubles

An integer of at most 53 bits is a double.  `Binary64.ofInt` does not round it
(`Binary64.ofInt_eq_finite`), and comparing the double is comparing the integer.

The powers of two in which doubles are counted are too large to be computed.  The proofs know them
by `exists_units` alone.
-/

namespace CloudTemplate

lemma exists_units : ∃ k l, unitsPerOne = 2 ^ k ∧ overflowUnits = 2 ^ (k + l) ∧ 53 ≤ l := by
  -- With the exponents behind variables, no power is computed.
  obtain ⟨k, hk⟩ : ∃ k, 1074 = k := ⟨1074, rfl⟩
  obtain ⟨m, hm⟩ : ∃ m, 2098 = m := ⟨2098, rfl⟩
  refine ⟨k, m - k, ?_, ?_, by omega⟩
  · delta unitsPerOne
    rewrite [hk]
    exact Nat.pow_eq
  · delta overflowUnits
    rewrite [hm, show k + (m - k) = m by omega]
    exact Nat.pow_eq

lemma unitsPerOne_pos : 0 < unitsPerOne := by
  obtain ⟨k, -, hunits, -⟩ := exists_units
  rw [hunits]
  exact Nat.two_pow_pos k

lemma roundHalfEven_of_dvd {n d : Nat} (hd : 0 < d) (h : d ∣ n) : roundHalfEven n d = n / d := by
  unfold roundHalfEven
  rw [Nat.mod_eq_zero_of_dvd h, if_pos (by omega)]

/-- The last of 53 bits of a number below `2 ^ (53 + k)` is worth at most `2 ^ k`. -/
lemma log2_sub_le {u k : Nat} (h : u < 2 ^ (53 + k)) : u.log2 - 52 ≤ k := by
  rcases Nat.eq_zero_or_pos u with rfl | hpos
  · simp
  · have hlog := (Nat.log2_lt (Nat.pos_iff_ne_zero.mp hpos)).mpr h
    omega

namespace Magnitude

variable {n : Nat}

lemma lastUnit_dvd (h : n < 2 ^ 53) : 2 ^ ((n * unitsPerOne).log2 - 52) ∣ n * unitsPerOne := by
  obtain ⟨k, -, hunits, -⟩ := exists_units
  have hlt : n * 2 ^ k < 2 ^ (53 + k) := by
    rw [Nat.pow_add]
    exact Nat.mul_lt_mul_of_pos_right h (Nat.two_pow_pos k)
  rw [hunits]
  exact Nat.dvd_mul_left_of_dvd (Nat.pow_dvd_pow 2 (log2_sub_le hlt)) n

lemma representable_mul_unitsPerOne (h : n < 2 ^ 53) : Representable (n * unitsPerOne) := by
  refine ⟨?_, lastUnit_dvd h⟩
  obtain ⟨k, l, hunits, hoverflow, hl⟩ := exists_units
  rw [hunits, hoverflow, Nat.pow_add, Nat.mul_comm]
  have hsmall : n < 2 ^ l := Nat.lt_of_lt_of_le h (Nat.pow_le_pow_right Nat.two_pos hl)
  exact Nat.mul_lt_mul_of_pos_left hsmall (Nat.two_pow_pos k)

/-- A natural number below `2 ^ 53` is not rounded. -/
lemma ofRatio?_one (h : n < 2 ^ 53) :
    ofRatio? n 1 = some ⟨n * unitsPerOne, representable_mul_unitsPerOne h⟩ := by
  have hround : roundHalfEven (n * unitsPerOne) (2 ^ ((n * unitsPerOne).log2 - 52)) *
      2 ^ ((n * unitsPerOne).log2 - 52) = n * unitsPerOne := by
    rw [roundHalfEven_of_dvd (Nat.two_pow_pos _) (lastUnit_dvd h)]
    exact Nat.div_mul_cancel (lastUnit_dvd h)
  simp only [ofRatio?, Nat.div_one, Nat.one_mul, Nat.pow_eq, hround]
  exact dif_pos (representable_mul_unitsPerOne h)

end Magnitude

namespace Binary64

variable {n : Int}

/-- The double of an integer of at most 53 bits. -/
def ofSmall (n : Int) (h : n.natAbs < 2 ^ 53) : Double where
  negative := n < 0
  magnitude := ⟨n.natAbs * unitsPerOne, Magnitude.representable_mul_unitsPerOne h⟩

lemma ofInt_eq_finite (h : n.natAbs < 2 ^ 53) : ofInt n = .finite (ofSmall n h) := by
  rw [ofInt, Magnitude.ofRatio?_one h]
  rfl

lemma units_ofSmall (h : n.natAbs < 2 ^ 53) : (ofSmall n h).units = n * unitsPerOne := by
  simp only [Double.units, ofSmall, decide_eq_true_eq, Int.natCast_mul]
  split
  · next hnegative =>
    rw [← Int.neg_mul]
    congr 1
    omega
  · next hnonnegative =>
    congr 1
    omega

lemma isWhole_ofInt (h : n.natAbs < 2 ^ 53) : (ofInt n).isWhole = true := by
  rw [ofInt_eq_finite h]
  simp [isWhole, Double.isWhole, ofSmall]

lemma isBelow_ofInt (h : n.natAbs < 2 ^ 53) (m : Int) : (ofInt n).isBelow m = decide (n < m) := by
  have hpos : (0 : Int) < unitsPerOne := Int.natCast_pos.mpr unitsPerOne_pos
  rw [ofInt_eq_finite h]
  simp only [isBelow, units_ofSmall, Int.mul_lt_mul_right hpos]

lemma isAbove_ofInt (h : n.natAbs < 2 ^ 53) (m : Int) : (ofInt n).isAbove m = decide (m < n) := by
  have hpos : (0 : Int) < unitsPerOne := Int.natCast_pos.mpr unitsPerOne_pos
  rw [ofInt_eq_finite h]
  simp only [isAbove, units_ofSmall, Int.mul_lt_mul_right hpos]

end Binary64

end CloudTemplate
