import CloudTemplate.Number.Shortest
import CloudTemplate.Proofs.Number.Ratio

/-!
# Decimals and the doubles nearest to them

The double nearest to a decimal is that nearest to the quotient which the decimal stands for; the
cases that are decided before any power is computed are no exceptions (`toMagnitude?_eq_ofRatio?`).
So it does not matter whether a zero stands at the end of the digits or in the exponent
(`toMagnitude?_shift`).

The shortest decimal of a double is read back as that double (`toMagnitude?_shortest`): each
candidate was tried before it was taken, dropping zeros does not change the value, and the exact
expansion, which is left if there was no candidate, is not rounded.
-/

namespace CloudTemplate

lemma exists_overflowing_power : ∃ a, a ≤ 310 ∧ overflowUnits ≤ 10 ^ a * unitsPerOne :=
  ⟨310, Nat.le_refl _, by decide +kernel⟩

lemma exists_underflowing_power : ∃ a, a ≤ 400 ∧ 2 * unitsPerOne ≤ 10 ^ a :=
  ⟨400, Nat.le_refl _, by decide +kernel⟩

lemma ten_pow_pos (n : Nat) : 0 < 10 ^ n := Nat.pow_pos (by omega)

lemma ten_pow_le {m n : Nat} (h : m ≤ n) : 10 ^ m ≤ 10 ^ n := Nat.pow_le_pow_right (by omega) h

namespace Decimal

/-- A decimal with a large exponent is beyond the doubles. -/
lemma ofRatio?_of_large {digits exponent : Nat} (hne : digits ≠ 0) (h : 310 ≤ exponent) :
    Magnitude.ofRatio? (digits * 10 ^ exponent) 1 = none := by
  obtain ⟨a, ha, hoverflow⟩ := exists_overflowing_power
  apply Magnitude.ofRatio?_eq_none Nat.one_pos
  calc overflowUnits * 1 = overflowUnits := Nat.mul_one _
    _ ≤ 10 ^ a * unitsPerOne := hoverflow
    _ ≤ 10 ^ exponent * unitsPerOne := Nat.mul_le_mul_right _ (ten_pow_le (ha.trans h))
    _ ≤ digits * 10 ^ exponent * unitsPerOne :=
      Nat.mul_le_mul_right _ (Nat.le_mul_of_pos_left _ (Nat.pos_of_ne_zero hne))

/-- A decimal whose exponent outweighs its digits lies below half a unit. -/
lemma ofRatio?_of_small {digits exponent : Nat} (h : digits.log2 + 1 + 400 ≤ exponent) :
    Magnitude.ofRatio? digits (10 ^ exponent) = some .zero := by
  obtain ⟨a, ha, hunderflow⟩ := exists_underflowing_power
  have hdigits : digits < 10 ^ (digits.log2 + 1) :=
    Nat.lt_log2_self.trans_le (Nat.pow_le_pow_left (by omega) _)
  apply Magnitude.ofRatio?_eq_zero
  calc 2 * (digits * unitsPerOne) = digits * (2 * unitsPerOne) := Nat.mul_left_comm _ _ _
    _ < 10 ^ (digits.log2 + 1) * (2 * unitsPerOne) :=
      Nat.mul_lt_mul_of_pos_right hdigits (Nat.mul_pos Nat.two_pos unitsPerOne_pos)
    _ ≤ 10 ^ (digits.log2 + 1) * 10 ^ a := Nat.mul_le_mul_left _ hunderflow
    _ = 10 ^ (digits.log2 + 1 + a) := (Nat.pow_add _ _ _).symm
    _ ≤ 10 ^ exponent := ten_pow_le (by omega)

/-- A decimal is rounded as the quotient that it stands for. -/
lemma toMagnitude?_eq_ofRatio? (digits : Nat) (exponent : Int) :
    toMagnitude? ⟨digits, exponent⟩ =
      Magnitude.ofRatio? (digits * 10 ^ exponent.toNat) (10 ^ (-exponent).toNat) := by
  unfold toMagnitude?
  dsimp only
  split
  · next hzero =>
    rw [hzero, Nat.zero_mul, Magnitude.ofRatio?_eq_zero (by simp)]
  · next hne =>
    split
    · next hlarge =>
      have hwhole : (-exponent).toNat = 0 := by omega
      rw [hwhole, Nat.pow_zero, ofRatio?_of_large hne (by omega)]
    · split
      · next hsmall =>
        have hfraction : exponent.toNat = 0 := by omega
        rw [hfraction, Nat.pow_zero, Nat.mul_one, ofRatio?_of_small (by omega)]
      · rw [Nat.pow_eq, Nat.pow_eq]

/-- Zeros at the end of the digits may stand in the exponent instead. -/
lemma toMagnitude?_shift (digits k : Nat) (exponent : Int) :
    toMagnitude? ⟨digits * 10 ^ k, exponent⟩ = toMagnitude? ⟨digits, exponent + k⟩ := by
  rw [toMagnitude?_eq_ofRatio?, toMagnitude?_eq_ofRatio?]
  apply Magnitude.ofRatio?_congr (ten_pow_pos _) (ten_pow_pos _)
  have hexponents : k + exponent.toNat + (-(exponent + k)).toNat =
      (exponent + k).toNat + (-exponent).toNat := by omega
  calc digits * 10 ^ k * 10 ^ exponent.toNat * 10 ^ (-(exponent + k)).toNat
      = digits * 10 ^ (k + exponent.toNat + (-(exponent + k)).toNat) := by
        rw [Nat.pow_add, Nat.pow_add, Nat.mul_assoc, Nat.mul_assoc, Nat.mul_assoc]
    _ = digits * 10 ^ (exponent + k).toNat * 10 ^ (-exponent).toNat := by
        rw [hexponents, Nat.pow_add, Nat.mul_assoc]

lemma toMagnitude?_normalize (d : Decimal) : d.normalize.toMagnitude? = d.toMagnitude? := by
  fun_induction normalize d with
  | case1 d h ih =>
    obtain ⟨digits, exponent⟩ := d
    have hdigits : digits / 10 * 10 ^ 1 = digits := by
      have hzero : digits % 10 = 0 := h.2
      omega
    rw [ih, ← Nat.cast_one, ← toMagnitude?_shift, hdigits]
  | case2 d h => rfl

end Decimal

namespace Magnitude

lemma exists_expansion : ∃ p : Nat, unitsPerOne = 2 ^ p ∧
    ∀ m : Magnitude, m.expansion = ⟨m.units * 5 ^ p, -p⟩ := by
  -- With the exponent behind a variable, no power is computed.
  obtain ⟨p, hp⟩ : ∃ p, 1074 = p := ⟨1074, rfl⟩
  refine ⟨p, ?_, fun m => ?_⟩
  · delta unitsPerOne
    rewrite [hp]
    exact Nat.pow_eq
  · have hexponent : (-1074 : Int) = -p := by omega
    delta expansion
    rewrite [hp, hexponent]
    rw [Nat.pow_eq]

/-- The exact expansion is not rounded. -/
lemma toMagnitude?_expansion (m : Magnitude) : m.expansion.toMagnitude? = some m := by
  obtain ⟨p, hunits, hexpansion⟩ := exists_expansion
  have hwhole : (-(p : Int)).toNat = 0 := by omega
  have hfraction : (- -(p : Int)).toNat = p := by omega
  rw [hexpansion, Decimal.toMagnitude?_eq_ofRatio?, hwhole, hfraction, Nat.pow_zero, Nat.mul_one,
    ← ofRatio?_units m]
  apply ofRatio?_congr (ten_pow_pos p) unitsPerOne_pos
  rw [hunits, Nat.mul_assoc, ← Nat.mul_pow]

/-- What was found on a grid was read back before. -/
lemma toMagnitude?_of_onGrid? {tie : Tie} {m : Magnitude} {place : Int} {d : Decimal}
    (h : m.onGrid? tie place = some d) : d.toMagnitude? = some m := by
  unfold onGrid? at h
  dsimp only at h
  generalize m.units * Nat.pow 10 (-place).toNat / (unitsPerOne * Nat.pow 10 place.toNat) = low at h
  split at h
  · next hlow hhigh =>
    rw [beq_iff_eq] at hlow hhigh
    obtain rfl := Option.some.inj h
    have hchoice : ∀ digits, digits = low ∨ digits = low + 1 →
        Decimal.toMagnitude? ⟨digits, place⟩ = some m := by
      rintro _ (rfl | rfl)
      · exact hlow
      · exact hhigh
    apply hchoice
    split
    · exact .inl rfl
    · split
      · exact .inr rfl
      · cases tie with
        | even =>
          have hparity : low % 2 = 0 ∨ low % 2 = 1 := Nat.mod_two_eq_zero_or_one low
          simp only [Tie.choose]
          omega
        | away => exact .inr rfl
  · next hlow _ =>
    rw [beq_iff_eq] at hlow
    obtain rfl := Option.some.inj h
    exact hlow
  · next _ hhigh =>
    rw [beq_iff_eq] at hhigh
    obtain rfl := Option.some.inj h
    exact hhigh
  · exact absurd h nofun

/-- The shortest decimal of a double is read back as that double. -/
lemma toMagnitude?_shortest (tie : Tie) (m : Magnitude) :
    (m.shortest tie).toMagnitude? = some m := by
  unfold shortest
  split
  · next hzero =>
    obtain ⟨units, hrepresentable⟩ := m
    obtain rfl : units = 0 := hzero
    rfl
  · dsimp only
    rw [Decimal.toMagnitude?_normalize]
    cases hfound : (List.range 17).findSome? fun further : Nat =>
        m.onGrid? tie (m.leadingExponent - further) with
    | none => exact toMagnitude?_expansion m
    | some d =>
      obtain ⟨further, -, hgrid⟩ := List.exists_of_findSome?_eq_some hfound
      exact toMagnitude?_of_onGrid? hgrid

end Magnitude

end CloudTemplate
