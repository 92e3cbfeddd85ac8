import CloudTemplate.Catalog.Bounds
import CloudTemplate.Proofs.Number.Numeral

/-!
# What lies within bounds is accepted

The generator moves a number into bounds (`Bounds.clamp`) and writes it as a number or as a text;
the validator reads it back as a double (`Bounds.fault?`).  For bounds of at most 53 bits the two
agree: what was moved into the bounds is not refused, however it was written.
-/

namespace CloudTemplate

namespace Bounds

variable {b : Bounds} {n : Int}

/-- There is a number within the bounds, and all of them have at most 53 bits. -/
def Exact (b : Bounds) : Prop := b.least ≤ b.greatest ∧ -2 ^ 53 < b.least ∧ b.greatest < 2 ^ 53

instance (b : Bounds) : Decidable b.Exact := inferInstanceAs (Decidable (_ ∧ _))

/-- A number lies within the bounds. -/
def Admits (b : Bounds) (n : Int) : Prop := b.least ≤ n ∧ n ≤ b.greatest

lemma Exact.admits_clamp (hb : b.Exact) (n : Int) : b.Admits (b.clamp n) := by
  have hle := hb.1
  unfold Admits clamp
  omega

lemma Exact.natAbs_lt (hb : b.Exact) (h : b.Admits n) : n.natAbs < 2 ^ 53 := by
  obtain ⟨-, hleast, hgreatest⟩ := hb
  obtain ⟨hlower, hupper⟩ := h
  omega

/-- A value that is read as a number within bounds is not refused. -/
lemma Exact.fault?_eq_none (hb : b.Exact) (h : b.Admits n) {value : PropertyValue}
    (hread : value.asDouble? = some (Binary64.ofInt n)) : b.fault? value = none := by
  have hsmall := hb.natAbs_lt h
  obtain ⟨hlower, hupper⟩ := h
  simp [fault?, hread, Binary64.isWhole_ofInt hsmall, Binary64.isBelow_ofInt hsmall,
    Binary64.isAbove_ofInt hsmall, hlower, hupper]

lemma asDouble?_ofInt (h : n.natAbs < 2 ^ 53) :
    (PropertyValue.ofInt n).asDouble? = some (Binary64.ofInt n) := by
  have hfits : clampInt64 n = n := by
    unfold clampInt64 leastInt64 greatestInt64
    omega
  rw [PropertyValue.ofInt, Number.ofInt, PropertyValue.asDouble?, Number.toBinary64, hfits]

lemma Exact.fault?_ofInt (hb : b.Exact) (h : b.Admits n) : b.fault? (.ofInt n) = none :=
  hb.fault?_eq_none h (asDouble?_ofInt (hb.natAbs_lt h))

lemma Exact.fault?_string_toString (hb : b.Exact) (hleast : 0 ≤ b.least) (h : b.Admits n) :
    b.fault? (.string (toString n)) = none := by
  obtain ⟨m, rfl⟩ := Int.eq_ofNat_of_zero_le (Int.le_trans hleast h.1)
  exact hb.fault?_eq_none h (asDouble?_string_toString m)

end Bounds

end CloudTemplate
