import CloudTemplate.Proofs.Catalog.Bounds
import CloudTemplate.Proofs.Number.Ratio

/-!
# Whole numbers read in two ways

Validation reads a number as a double, and the generator reads it as a signed 64-bit integer.  The
double is rounded, and the integer of a JSON number is moved into the range of the type.  So the two
may differ, but only where both have more than 53 bits, and they have one sign.  Bounds of at most
53 bits therefore move both to the same number (`Bounds.Exact.clamp_eq_of_readings`).

Not everything that is read as a whole number one way is read the other way at all.  A text with a
point or an exponent, or with too many digits, is no 64-bit integer.
-/

namespace CloudTemplate

/-- The whole number that a double is, if it is one. -/
def Binary64.whole? : Binary64 → Option Int
  | .finite x => if x.isWhole then some x.truncate else none
  | _ => none

/-- The whole number as which validation reads a value, if it reads one. -/
def PropertyValue.asWhole? (v : PropertyValue) : Option Int := v.asDouble?.bind Binary64.whole?

/-- The integer with a sign and an absolute value. -/
def signedNat (negative : Bool) (n : Nat) : Int := if negative then -n else n

lemma signedNat_natAbs (n : Int) : signedNat (n < 0) n.natAbs = n := by
  simp only [signedNat, decide_eq_true_eq]
  split <;> omega

lemma truncate_eq_signedNat (x : Double) :
    x.truncate = signedNat x.negative (x.magnitude.units / unitsPerOne) := by
  unfold Double.truncate Double.units signedNat
  split
  · rw [Int.neg_tdiv, Int.ofNat_tdiv]
  · rw [Int.ofNat_tdiv]

/-! ## Texts -/

/-- A text is a sign or none, and digits.  Together they write a signed 64-bit integer. -/
structure WritesInt64 (text : List Char) (n : Int) : Prop where
  spelled : ∃ negative ds, takeSign text = (negative, ds) ∧ ds ≠ [] ∧
    (∀ c ∈ ds, isDigit c = true) ∧ n = signedNat negative (digitsValue ds)
  least : leastInt64 ≤ n
  greatest : n ≤ greatestInt64

lemma int64OfText?_eq_some_iff {text : List Char} {n : Int} :
    int64OfText? text = some n ↔ WritesInt64 text n := by
  obtain ⟨negative, ds, hsign⟩ : ∃ negative ds, takeSign text = (negative, ds) := ⟨_, _, rfl⟩
  have hread : int64OfText? text = if ds.isEmpty || !ds.all isDigit then none
      else if leastInt64 ≤ signedNat negative (digitsValue ds) ∧
        signedNat negative (digitsValue ds) ≤ greatestInt64 then
          some (signedNat negative (digitsValue ds))
      else none := by
    rw [int64OfText?, hsign]
    rfl
  rw [hread, Option.ite_none_left_eq_some, Option.ite_none_right_eq_some, Bool.or_eq_true, not_or,
    List.isEmpty_iff, Bool.not_eq_true, Bool.not_eq_false', List.all_eq_true, Option.some.injEq]
  constructor
  · rintro ⟨⟨hne, hdigits⟩, ⟨hleast, hgreatest⟩, rfl⟩
    exact ⟨⟨negative, ds, hsign, hne, hdigits, rfl⟩, hleast, hgreatest⟩
  · rintro ⟨⟨_, _, hsame, hne, hdigits, rfl⟩, hleast, hgreatest⟩
    obtain ⟨rfl, rfl⟩ := Prod.mk.inj (hsign.symm.trans hsame)
    exact ⟨⟨hne, hdigits⟩, ⟨hleast, hgreatest⟩, rfl⟩

/-- A text that writes a 64-bit integer is read as the double nearest to that. -/
lemma WritesInt64.exists_ofText? {text : List Char} {n : Int} (h : WritesInt64 text n) :
    ∃ negative k, n = signedNat negative k ∧
      Binary64.ofText? text = some (.signed negative (Magnitude.ofRatio? k 1)) := by
  obtain ⟨negative, ds, hsign, hne, hdigits, rfl⟩ := h.spelled
  refine ⟨negative, digitsValue ds, rfl, ?_⟩
  simp only [Binary64.ofText?, hsign, Decimal.ofText?_of_isDigit hne hdigits,
    Decimal.toMagnitude?_natural]

/-- The generator reads JSON numbers, and texts that write 64-bit integers between blanks. -/
lemma isSome_asInt64?_iff {v : PropertyValue} : v.asInt64?.isSome = true ↔
    (∃ number, v = .number number) ∨
      ∃ text n, v = .string text ∧ WritesInt64 (trimBlanks text.toList) n := by
  cases v with
  | number value => exact ⟨fun _ => .inl ⟨value, rfl⟩, fun _ => rfl⟩
  | string text =>
    simp [PropertyValue.asInt64?, Option.isSome_iff_exists, int64OfText?_eq_some_iff]
  | null | bool _ | list _ | map _ | ref _ | getAtt _ _ => simp [PropertyValue.asInt64?]

/-! ## The two readings -/

lemma exists_of_whole?_signed {negative : Bool} {m? : Option Magnitude} {x : Int}
    (h : (Binary64.signed negative m?).whole? = some x) :
    ∃ m, m? = some m ∧ x = signedNat negative (m.units / unitsPerOne) := by
  cases m? with
  | none => exact absurd h (by simp [Binary64.signed, Binary64.whole?])
  | some m =>
    obtain ⟨-, hx⟩ := Option.ite_none_right_eq_some.mp h
    exact ⟨m, rfl, (Option.some.inj hx).symm.trans (truncate_eq_signedNat _)⟩

namespace Bounds

variable {b : Bounds} {x y : Int}

/-- Bounds of 53 bits do not tell a natural number from the whole number to which it is rounded. -/
lemma Exact.clamp_eq_of_signed (hb : b.Exact) {negative : Bool} {n : Nat}
    (h : (Binary64.signed negative (Magnitude.ofRatio? n 1)).whole? = some x) :
    b.clamp (signedNat negative n) = b.clamp x := by
  obtain ⟨m, hm, rfl⟩ := exists_of_whole?_signed h
  rcases Nat.lt_or_ge n (2 ^ 53) with hsmall | hlarge
  · rw [Magnitude.ofRatio?_one hsmall, Option.some.injEq] at hm
    rw [← hm, Nat.mul_div_cancel _ unitsPerOne_pos]
  · -- Both numbers lie beyond the bounds, on the side of the sign.
    have hrounded : 2 ^ 53 ≤ m.units / unitsPerOne :=
      (Nat.le_div_iff_mul_le unitsPerOne_pos).mpr
        (Magnitude.two_pow_mul_unitsPerOne_le hlarge hm)
    generalize m.units / unitsPerOne = rounded at hrounded
    obtain ⟨-, hleast, hgreatest⟩ := hb
    unfold clamp signedNat
    split <;> omega

lemma Exact.clamp_clampInt64 (hb : b.Exact) (n : Int) : b.clamp (clampInt64 n) = b.clamp n := by
  obtain ⟨-, hleast, hgreatest⟩ := hb
  unfold clamp clampInt64 leastInt64 greatestInt64
  omega

/-- A value that is read in both ways is moved to the same number within bounds. -/
lemma Exact.clamp_eq_of_readings (hb : b.Exact) {v : PropertyValue} (hx : v.asWhole? = some x)
    (hy : v.asInt64? = some y) : b.clamp y = b.clamp x := by
  cases v with
  | number value =>
    obtain rfl := Option.some.inj hy
    cases value with
    | whole n fits =>
      rw [PropertyValue.asWhole?, PropertyValue.asDouble?, Option.bind_some, Number.toBinary64,
        Binary64.ofInt] at hx
      have hsame := hb.clamp_eq_of_signed hx
      rw [Number.toInt64, hb.clamp_clampInt64, ← hsame, signedNat_natAbs]
    | real d =>
      have hd : d.truncate = x := by
        simp only [PropertyValue.asWhole?, PropertyValue.asDouble?, Number.toBinary64,
          Option.bind_some, Binary64.whole?, Option.ite_none_right_eq_some,
          Option.some.injEq] at hx
        exact hx.2
      rw [Number.toInt64, hb.clamp_clampInt64, hd]
  | string text =>
    obtain ⟨negative, n, rfl, hdouble⟩ := (int64OfText?_eq_some_iff.mp hy).exists_ofText?
    rw [PropertyValue.asWhole?, PropertyValue.asDouble?, hdouble, Option.bind_some] at hx
    exact hb.clamp_eq_of_signed hx
  | null | bool _ | list _ | map _ | ref _ | getAtt _ _ => simp [PropertyValue.asInt64?] at hy

end Bounds

end CloudTemplate
