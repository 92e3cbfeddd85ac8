import CloudTemplate.Proofs.Number.Whole

/-!
# Rounding quotients

The double nearest to a quotient depends on the value of the quotient and not on how it is written
(`Magnitude.ofRatio?_congr`).  A quotient that is a double is not rounded
(`Magnitude.ofRatio?_units`); one below half a unit is rounded to zero, and one from the overflow
bound on has no double.  No power of two is rounded away (`Magnitude.two_pow_le_rounded`).
-/

namespace CloudTemplate

lemma roundHalfEven_mul_right (n d : Nat) {k : Nat} (hk : 0 < k) :
    roundHalfEven (n * k) (d * k) = roundHalfEven n d := by
  have hbelow : 2 * (n % d * k) < d * k ↔ 2 * (n % d) < d := by
    rw [← Nat.mul_assoc, Nat.mul_lt_mul_right hk]
  have habove : d * k < 2 * (n % d * k) ↔ d < 2 * (n % d) := by
    rw [← Nat.mul_assoc, Nat.mul_lt_mul_right hk]
  unfold roundHalfEven
  simp only [Nat.mul_div_mul_right _ _ hk, Nat.mul_mod_mul_right, hbelow, habove]

lemma div_le_roundHalfEven (n d : Nat) : n / d ≤ roundHalfEven n d := by
  unfold roundHalfEven
  dsimp only
  split
  · exact Nat.le_refl _
  · split <;> omega

lemma roundHalfEven_eq_zero {n d : Nat} (h : 2 * n < d) : roundHalfEven n d = 0 := by
  have hquotient : n / d = 0 := Nat.div_eq_of_lt (by omega)
  have hremainder : n % d = n := Nat.mod_eq_of_lt (by omega)
  unfold roundHalfEven
  simp [hquotient, hremainder, h]

namespace Magnitude

variable {n d n' d' : Nat}

lemma ofRatio?_mul_right (n d : Nat) {k : Nat} (hk : 0 < k) :
    ofRatio? (n * k) (d * k) = ofRatio? n d := by
  have hquotient : n * k * unitsPerOne / (d * k) = n * unitsPerOne / d := by
    rw [Nat.mul_right_comm, Nat.mul_div_mul_right _ _ hk]
  have hround : ∀ last, roundHalfEven (n * k * unitsPerOne) (d * k * last) =
      roundHalfEven (n * unitsPerOne) (d * last) := by
    intro last
    rw [Nat.mul_right_comm n, Nat.mul_right_comm d, roundHalfEven_mul_right _ _ hk]
  simp only [ofRatio?, hquotient, hround]

/-- Equal quotients are rounded alike. -/
lemma ofRatio?_congr (hd : 0 < d) (hd' : 0 < d') (h : n * d' = n' * d) :
    ofRatio? n d = ofRatio? n' d' := by
  calc ofRatio? n d = ofRatio? (n * d') (d * d') := (ofRatio?_mul_right n d hd').symm
    _ = ofRatio? (n' * d) (d' * d) := by rw [h, Nat.mul_comm d]
    _ = ofRatio? n' d' := ofRatio?_mul_right n' d' hd

/-- A double is not rounded. -/
lemma ofRatio?_units (m : Magnitude) : ofRatio? m.units unitsPerOne = some m := by
  obtain ⟨units, hrepresentable⟩ := m
  have hpos : 0 < unitsPerOne := unitsPerOne_pos
  have hlast : 0 < 2 ^ (units.log2 - 52) := Nat.two_pow_pos _
  have hdvd : 2 ^ (units.log2 - 52) ∣ units := hrepresentable.2
  have hround : roundHalfEven (units * unitsPerOne) (unitsPerOne * 2 ^ (units.log2 - 52)) *
      2 ^ (units.log2 - 52) = units := by
    rw [Nat.mul_comm unitsPerOne, roundHalfEven_mul_right _ _ hpos,
      roundHalfEven_of_dvd hlast hdvd]
    exact Nat.div_mul_cancel hdvd
  simp only [ofRatio?, Nat.mul_div_cancel _ hpos, Nat.pow_eq, hround]
  exact dif_pos hrepresentable

/-- What lies below half a unit is rounded to zero. -/
lemma ofRatio?_eq_zero (h : 2 * (n * unitsPerOne) < d) : ofRatio? n d = some .zero := by
  have hquotient : n * unitsPerOne / d = 0 := Nat.div_eq_of_lt (by omega)
  have hround : roundHalfEven (n * unitsPerOne) d = 0 := roundHalfEven_eq_zero h
  simp only [ofRatio?, hquotient, Nat.log2_zero, Nat.zero_sub, Nat.pow_eq, Nat.pow_zero,
    Nat.mul_one, hround]
  exact dif_pos zero.representable

/-- Cutting off what lies below the leading 53 bits leaves the leading bit. -/
lemma two_pow_log2_le_cut (q : Nat) (hq : q ≠ 0) :
    2 ^ q.log2 ≤ q / 2 ^ (q.log2 - 52) * 2 ^ (q.log2 - 52) := by
  have hdvd : 2 ^ (q.log2 - 52) ∣ 2 ^ q.log2 := Nat.pow_dvd_pow 2 (Nat.sub_le _ _)
  have hle : 2 ^ q.log2 ≤ q := Nat.log2_self_le hq
  calc 2 ^ q.log2 = 2 ^ q.log2 / 2 ^ (q.log2 - 52) * 2 ^ (q.log2 - 52) :=
        (Nat.div_mul_cancel hdvd).symm
    _ ≤ q / 2 ^ (q.log2 - 52) * 2 ^ (q.log2 - 52) :=
        Nat.mul_le_mul_right _ (Nat.div_le_div_right hle)

/-- So does rounding to 53 bits: no power of two up to the quotient is rounded away. -/
lemma two_pow_le_rounded {e q : Nat} (hq : n / d = q) (h : 2 ^ e ≤ q) :
    2 ^ e ≤ roundHalfEven n (d * 2 ^ (q.log2 - 52)) * 2 ^ (q.log2 - 52) := by
  have hne : q ≠ 0 := Nat.ne_of_gt (Nat.lt_of_lt_of_le (Nat.two_pow_pos _) h)
  have hlog : e ≤ q.log2 := (Nat.le_log2 hne).mpr h
  calc 2 ^ e ≤ 2 ^ q.log2 := Nat.pow_le_pow_right Nat.two_pos hlog
    _ ≤ q / 2 ^ (q.log2 - 52) * 2 ^ (q.log2 - 52) := two_pow_log2_le_cut q hne
    _ = n / (d * 2 ^ (q.log2 - 52)) * 2 ^ (q.log2 - 52) := by
      rw [← hq, Nat.div_div_eq_div_mul]
    _ ≤ _ := Nat.mul_le_mul_right _ (div_le_roundHalfEven _ _)

/-- From the overflow bound on there are no doubles. -/
lemma ofRatio?_eq_none (hd : 0 < d) (h : overflowUnits * d ≤ n * unitsPerOne) :
    ofRatio? n d = none := by
  obtain ⟨k, l, -, hoverflow, -⟩ := exists_units
  generalize hq : n * unitsPerOne / d = q
  have hle : 2 ^ (k + l) ≤ q := by
    rw [← hq, ← hoverflow]
    exact (Nat.le_div_iff_mul_le hd).mpr h
  have hround := two_pow_le_rounded hq hle
  rw [← hoverflow] at hround
  simp only [ofRatio?, hq, Nat.pow_eq]
  refine dif_neg fun hrepresentable => ?_
  exact absurd hrepresentable.1 (Nat.not_lt.mpr hround)

/-- A natural number of more than 53 bits is not rounded to one of fewer. -/
lemma two_pow_mul_unitsPerOne_le {m : Magnitude} (hn : 2 ^ 53 ≤ n) (h : ofRatio? n 1 = some m) :
    2 ^ 53 * unitsPerOne ≤ m.units := by
  obtain ⟨k, -, hunits, -⟩ := exists_units
  generalize hq : n * unitsPerOne / 1 = q
  have hle : 2 ^ (53 + k) ≤ q := by
    rw [← hq, Nat.div_one, hunits, Nat.pow_add]
    exact Nat.mul_le_mul_right _ hn
  have hround := two_pow_le_rounded hq hle
  rw [pow_add, ← hunits] at hround
  simp only [ofRatio?, hq, Nat.pow_eq] at h
  obtain ⟨_, hm⟩ := Option.dite_none_right_eq_some.mp h
  exact hround.trans_eq (congrArg units (Option.some.inj hm))

end Magnitude

end CloudTemplate
