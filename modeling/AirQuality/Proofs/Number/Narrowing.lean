import AirQuality.Proofs.Number.Value

/-!
# Narrowing a mantissa

The result of an operation on doubles is a mantissa with more bits than a double has room for, and a
note on what is behind its last bit. It is shifted until it fits, and rounded. What was below the
midpoint above a double before is not above this double afterwards.

## Key results

- `Describes.shiftRight`: the two bits behind a mantissa keep track of what is shifted out
- `Describes.roundedMantissa_le`: rounding does not pass a midpoint
- `isUpTo_roundWithAccuracy`: a result is rounded to a double in canonical form, which is bounded by
  every double whose upper midpoint was above the result
-/

namespace AirQuality.Number

open Float.Model (Format UnpackedFloat totalExponent)
open Float.Model.UnpackedFloat

/-! ## The bits behind a mantissa -/

/-- What a mantissa and the two bits behind it say of a number, counted in units of the last bit of
the mantissa. -/
def Describes (em : ExtendedMantissa) (v : ℚ) : Prop :=
  match em.roundBit, em.stickyBit with
  | false, false => v = em.mantissa
  | false, true => em.mantissa < v ∧ v < em.mantissa + 1 / 2
  | true, false => v = em.mantissa + 1 / 2
  | true, true => em.mantissa + 1 / 2 < v ∧ v < em.mantissa + 1

namespace Describes

variable {em : ExtendedMantissa} {v : ℚ}

/-- An exact mantissa has nothing behind it. -/
theorem exact (m : Nat) : Describes (.ofMantissaAndAccuracy m .exact) m := rfl

/-- The rest of a division is behind the quotient. -/
theorem fraction (num : Nat) {den : Nat} (pos : 0 < den) :
    Describes (.ofMantissaAndAccuracy (num / den) (accuracyOfFraction (num % den) den))
      ((num : ℚ) / den) := by
  have den_pos : (0 : ℚ) < den := by exact_mod_cast pos
  have below : ((num % den : Nat) : ℚ) < den := by exact_mod_cast Nat.mod_lt num pos
  -- The number is the quotient and a fraction, that of the rest.
  have parts : (num : ℚ) / den = (num / den : Nat) + (num % den : Nat) / den := by
    have whole : (num : ℚ) = den * (num / den : Nat) + (num % den : Nat) := by
      exact_mod_cast (Nat.div_add_mod num den).symm
    field_simp
    linarith
  rw [parts]
  -- Only the quotient and the rest matter from here on.
  generalize num / den = q
  generalize num % den = r at *
  have size : (r : ℚ) / den < 1 := (div_lt_one den_pos).mpr below
  unfold accuracyOfFraction
  split
  -- Without a rest the quotient is exact.
  · rename_i none
    simp [ExtendedMantissa.ofMantissaAndAccuracy, Describes, none]
  · rename_i some
    have positive : (0 : ℚ) < r / den := div_pos (by exact_mod_cast Nat.pos_of_ne_zero some) den_pos
    -- Twice the rest lies to the divisor as the fraction lies to a half.
    rcases lt_trichotomy (2 * r) den with less | same | more
    · have scaled : 2 * (r : ℚ) < den := by exact_mod_cast less
      have below_half : (r : ℚ) / den < 1 / 2 := by
        rw [div_lt_iff₀ den_pos]
        linarith
      rw [compare_lt_iff_lt.mpr less]
      exact ⟨lt_add_of_pos_right _ positive, add_lt_add_right below_half _⟩
    · have scaled : 2 * (r : ℚ) = den := by exact_mod_cast same
      have half : (r : ℚ) / den = 1 / 2 := by
        rw [div_eq_iff den_pos.ne']
        linarith
      rw [compare_eq_iff_eq.mpr same, half]
      rfl
    · have scaled : (den : ℚ) < 2 * r := by exact_mod_cast more
      have above_half : 1 / 2 < (r : ℚ) / den := by
        rw [lt_div_iff₀ den_pos]
        linarith
      rw [compare_gt_iff_gt.mpr more]
      exact ⟨add_lt_add_right above_half _, add_lt_add_right size _⟩

/-- Whatever is behind it, a mantissa is the whole part of the number. -/
theorem le (h : Describes em v) : (em.mantissa : ℚ) ≤ v ∧ v < em.mantissa + 1 := by
  -- Four kinds of what may be behind the mantissa
  rcases em with ⟨m, round, sticky⟩
  cases round <;> cases sticky <;> simp only [Describes] at h ⊢
  · constructor <;> linarith
  · constructor <;> linarith
  · constructor <;> linarith
  · constructor <;> linarith

/-- The last bit goes to where the round bit was, which is not forgotten. -/
private theorem shiftRightOne (h : Describes em v) : Describes em.shiftRightOne (v / 2) := by
  rcases em with ⟨m, round, sticky⟩
  have parts : (m : ℚ) = 2 * (m / 2 : Nat) + (m % 2 : Nat) := by
    exact_mod_cast (Nat.div_add_mod m 2).symm
  -- The last bit becomes the new round bit, so there are two cases for each kind.
  rcases Nat.mod_two_eq_zero_or_one m with even | odd
  · rw [even] at parts
    cases round <;> cases sticky <;>
      simp [Describes, ExtendedMantissa.shiftRightOne, even] at h ⊢ parts
    · linarith
    · constructor <;> linarith
    · constructor <;> linarith
    · constructor <;> linarith
  · rw [odd] at parts
    cases round <;> cases sticky <;>
      simp [Describes, ExtendedMantissa.shiftRightOne, odd] at h ⊢ parts
    · linarith
    · constructor <;> linarith
    · constructor <;> linarith
    · constructor <;> linarith

/-- The two bits behind a mantissa keep track of what is shifted out. -/
theorem shiftRight (h : Describes em v) (n : Nat) : Describes (em >>> n) (v / 2 ^ n) := by
  show Describes (n.repeat ExtendedMantissa.shiftRightOne em) _
  -- Induction on the number of places
  induction n with
  | zero =>
    rw [pow_zero, div_one]
    exact h
  | succ n ih =>
    rw [pow_succ, ← div_div]
    exact ih.shiftRightOne

/-- A number below a midpoint is not rounded to more than what is below it. -/
theorem roundedMantissa_le (h : Describes em v) {k : Nat} (below : v < k + 1 / 2) :
    em.roundedMantissa ≤ k := by
  -- Rounding moves a number by at most a half, a midpoint in particular.
  have nearest : (em.roundedMantissa : ℚ) ≤ v + 1 / 2 := by
    rcases em with ⟨m, round, sticky⟩
    cases round <;> cases sticky <;>
      simp [Describes, ExtendedMantissa.roundedMantissa, ExtendedMantissa.accuracy,
        Accuracy.roundToNearestEven] at h ⊢
    · linarith
    · linarith
    · have : ((m % 2 : Nat) : ℚ) ≤ 1 := by exact_mod_cast Nat.lt_succ_iff.mp (Nat.mod_lt m two_pos)
      linarith
    · linarith
  -- Within a half of something below `k + 1 / 2` there is no integer above `k`.
  have : (em.roundedMantissa : ℚ) < (k + 1 : Nat) := by
    push_cast
    linarith
  exact Nat.lt_succ_iff.mp (by exact_mod_cast this)

end Describes

/-- Rounding takes a mantissa or the next one. -/
private theorem le_roundedMantissa (em : ExtendedMantissa) :
    em.mantissa ≤ em.roundedMantissa ∧ em.roundedMantissa ≤ em.mantissa + 1 := by
  -- Only from a midpoint it depends on the last bit which of the two is taken.
  rcases em with ⟨m, round, sticky⟩
  cases round <;> cases sticky <;>
    simp [ExtendedMantissa.roundedMantissa, ExtendedMantissa.accuracy,
      Accuracy.roundToNearestEven]
  omega

/-! ## Shifting to the room of a double -/

/-- The exponent that a double is rounded to is that of its last bit. -/
theorem targetExponent_eq (m : Nat) (e : Int) :
    Format.binary64.targetExponent (totalExponent m e) = lastBit (m.log2 + e) := by
  have room : (Format.binary64.mantissaBits : Int) = 53 := rfl
  have least : Format.binary64.minExponent = -1074 := rfl
  rw [Format.targetExponent, totalExponent, room, least, lastBit]
  congr 1
  omega

/-- A mantissa is shifted to the place of its last bit. -/
private theorem shiftToTargetExponent_eq (m : Nat) (e : Int) (a : Accuracy) :
    shiftToTargetExponent .binary64 m e a =
      (ExtendedMantissa.ofMantissaAndAccuracy m a >>> (lastBit (m.log2 + e) - e).toNat,
        e + (lastBit (m.log2 + e) - e).toNat) := by
  rw [shiftToTargetExponent, targetExponent_eq, shiftToExponent]

/-- A mantissa that a double has room for stays where it is. -/
private theorem shiftToTargetExponent_of_lt {m : Nat} {e : Int} (small : m < 2 ^ 53)
    (low : -1074 ≤ e) :
    shiftToTargetExponent .binary64 m e .exact = (⟨m, false, false⟩, e) := by
  -- With at most 53 bits there is nothing to shift out.
  have places : m.log2 ≤ 52 := by
    by_cases none : m = 0
    · simp [none]
    · have := (Nat.log2_lt none).mpr small
      omega
  -- The place of the last bit is that of the exponent, or below it.
  have stays : (lastBit (m.log2 + e) - e).toNat = 0 := by
    unfold lastBit
    omega
  rw [shiftToTargetExponent_eq, stays, Int.natCast_zero, Int.add_zero]
  rfl

/-- A mantissa that rounding has made one place longer is a power of two. -/
private theorem shiftToTargetExponent_of_carry {e : Int} (low : -1074 ≤ e) :
    shiftToTargetExponent .binary64 (2 ^ 53) e .exact = (⟨2 ^ 52, false, false⟩, e + 1) := by
  -- A power of two that is one bit too long is shifted by one place, and nothing is lost.
  have one : (lastBit ((2 ^ 53 : Nat).log2 + e) - e).toNat = 1 := by
    rw [Nat.log2_two_pow]
    unfold lastBit
    omega
  rw [shiftToTargetExponent_eq, one]
  rfl

/-- A rounded mantissa with its exponent: it may be one too long, and it is as long as it can be
unless the exponent is the least one. -/
structure IsRounded (m : Nat) (e : Int) : Prop where
  small : m ≤ 2 ^ 53
  low : -1074 ≤ e
  full : 2 ^ 52 ≤ m ∨ e = -1074

/-- A finite unpacked double in canonical form, up to a magnitude. -/
inductive IsUpTo (n : Nat) : UnpackedFloat → Prop where
  | zero (s : Sign) : IsUpTo n (.zero s)
  | finite (s : Sign) {m : Nat} {e : Int} (pos : 0 < m) (canonical : IsCanonicalPair m e)
      (le : units m e ≤ n) : IsUpTo n (.finite s m e pos)

/-- A mantissa is shifted as a natural number is, whatever is behind it. -/
private theorem mantissa_shiftRight (em : ExtendedMantissa) (n : Nat) :
    (em >>> n).mantissa = em.mantissa / 2 ^ n := by
  show (n.repeat ExtendedMantissa.shiftRightOne em).mantissa = _
  induction n with
  | zero => simp [Nat.repeat]
  | succ n ih =>
    show (n.repeat ExtendedMantissa.shiftRightOne em).mantissa / 2 = _
    rw [ih, Nat.div_div_eq_div_mul, Nat.pow_succ]

/-- The accuracy is noted behind a mantissa and does not change it. -/
private theorem mantissa_ofMantissaAndAccuracy (m : Nat) (a : Accuracy) :
    (ExtendedMantissa.ofMantissaAndAccuracy m a).mantissa = m := by
  cases a with
  | exact => rfl
  | inexact o => cases o <;> rfl

section Shifted

variable {m : Nat} {e : Int} (a : Accuracy)

/-- A mantissa, shifted to the room of a double. -/
def shifted (m : Nat) (e : Int) (a : Accuracy) : ExtendedMantissa :=
  ExtendedMantissa.ofMantissaAndAccuracy m a >>> (lastBit (m.log2 + e) - e).toNat

/-- After the shift a double has room for the mantissa. -/
private theorem mantissa_shifted_lt : (shifted m e a).mantissa < 2 ^ 53 := by
  -- The shift leaves at most 53 bits.
  have room : m.log2 ≤ 52 + (lastBit (m.log2 + e) - e).toNat := by
    unfold lastBit
    omega
  rw [shifted, mantissa_shiftRight, mantissa_ofMantissaAndAccuracy,
    Nat.div_lt_iff_lt_mul (Nat.two_pow_pos _), ← Nat.pow_add]
  exact Nat.lt_log2_self.trans_le (Nat.pow_le_pow_right two_pos (by omega))

/-- With bits to spare there is a shift, to the place of the last bit. -/
private theorem shiftToTargetExponent_of_spare (spare : e ≤ lastBit (m.log2 + e)) :
    shiftToTargetExponent .binary64 m e a = (shifted m e a, lastBit (m.log2 + e)) := by
  have exponent : e + (lastBit (m.log2 + e) - e).toNat = lastBit (m.log2 + e) := by omega
  rw [shiftToTargetExponent_eq, exponent]
  rfl

/-- If there were bits to spare, the first bit is at its place now, unless the exponent is the least
one. -/
private theorem le_mantissa_shifted (spare : e ≤ lastBit (m.log2 + e)) :
    2 ^ 52 ≤ (shifted m e a).mantissa ∨ lastBit (m.log2 + e) = -1074 := by
  by_cases least : lastBit (m.log2 + e) = -1074
  · exact .inr least
  -- Above the least exponent the shift leaves 53 bits and no fewer.
  · have long : m.log2 = 52 + (lastBit (m.log2 + e) - e).toNat := by
      unfold lastBit at *
      omega
    have positive : m ≠ 0 := by
      rintro rfl
      rw [Nat.log2_zero] at long
      omega
    left
    rw [shifted, mantissa_shiftRight, mantissa_ofMantissaAndAccuracy,
      Nat.le_div_iff_mul_le (Nat.two_pow_pos _), ← Nat.pow_add, ← long]
    exact Nat.log2_self_le positive

/-- So it is a rounded mantissa after rounding. -/
private theorem isRounded_shifted (spare : e ≤ lastBit (m.log2 + e)) :
    IsRounded (shifted m e a).roundedMantissa (lastBit (m.log2 + e)) := by
  have rounded := le_roundedMantissa (shifted m e a)
  have short := mantissa_shifted_lt (m := m) (e := e) a
  -- Rounding adds at most one, which may carry the mantissa to 2 ^ 53.
  constructor
  · omega
  · exact le_max_right _ _
  · exact (le_mantissa_shifted a spare).imp_left fun full => full.trans rounded.1

end Shifted

/-- The greater of two mantissas is the greater magnitude. -/
theorem units_le_of_mantissa_le {m m' : Nat} (le : m ≤ m') (e : Int) : units m e ≤ units m' e :=
  Nat.mul_le_mul_right _ le

/-- The greater of two exponents is the greater magnitude. -/
theorem units_le_of_exponent_le (m : Nat) {e e' : Int} (le : e ≤ e') : units m e ≤ units m e' :=
  Nat.mul_le_mul_left _ (Nat.pow_le_pow_right two_pos (by omega))

/-- A carry to the next exponent leaves a magnitude as it is. -/
private theorem units_carry {e : Int} (low : -1074 ≤ e) :
    units (2 ^ 52) (e + 1) = units (2 ^ 53) e := by
  have carried : (e + 1 + 1074).toNat = (e + 1074).toNat + 1 := by omega
  rw [units, units, carried, Nat.pow_succ 2 (e + 1074).toNat]
  omega

/-- Once it is rounded, a mantissa is canonical, or it is carried to the next exponent. -/
private theorem exists_of_isRounded {m : Nat} {e : Int} (rounded : IsRounded m e) (s : Sign)
    {n : Nat} (le : units m e ≤ n) :
    ∃ m' e', shiftToTargetExponent .binary64 m e .exact = (⟨m', false, false⟩, e') ∧
      ∀ pos, IsUpTo n (.finite s m' e' pos) := by
  have low := rounded.low
  -- Only 2 ^ 53 itself is one place too long.
  rcases Nat.lt_or_eq_of_le rounded.small with less | rfl
  · exact ⟨m, e, shiftToTargetExponent_of_lt less low, fun pos =>
      .finite s pos ⟨less, low, rounded.full⟩ le⟩
  · rw [← units_carry low] at le
    exact ⟨2 ^ 52, e + 1, shiftToTargetExponent_of_carry low, fun pos =>
      .finite s pos ⟨by decide, by omega, .inl le_rfl⟩ le⟩

section Bounded

variable {m : Nat} {e : Int} {a : Accuracy} {v : ℚ}
  (h : Describes (.ofMantissaAndAccuracy m a) v) (spare : e ≤ lastBit (m.log2 + e)) {M : Nat}
  {E : Int} (canonical : IsCanonicalPair M E) (below : v * 2 ^ e < (M + 1 / 2) * 2 ^ E)

include h spare canonical below

/-- What is below the upper midpoint of a canonical magnitude is rounded to at most this
magnitude. -/
private theorem units_rounded_le :
    units (shifted m e a).roundedMantissa (lastBit (m.log2 + e)) ≤ units M E := by
  -- What is known of the shifted mantissa is taken over to variables.
  have rounded := isRounded_shifted a spare
  have full := le_mantissa_shifted a spare
  have described := h.shiftRight (lastBit (m.log2 + e) - e).toNat
  -- The number is divided by as much as the exponent grows.
  have scaled :
      v / 2 ^ (lastBit (m.log2 + e) - e).toNat * 2 ^ lastBit (m.log2 + e) = v * 2 ^ e := by
    rw [div_mul_eq_mul_div, div_eq_iff (by positivity), mul_assoc, ← zpow_natCast,
      ← zpow_add₀ two_ne_zero]
    congr 2
    omega
  rw [← scaled] at below
  change Describes (shifted m e a) _ at described
  generalize shifted m e a = em at *
  generalize lastBit (m.log2 + e) = t at *
  generalize v / 2 ^ (t - e).toNat = w at *
  have low := canonical.low
  rcases lt_trichotomy t E with less | rfl | more
  · -- Below the exponent of the bound the longest mantissa is less than the bound.
    have long : 2 ^ 52 ≤ M := canonical.full.resolve_right (by have := rounded.low; omega)
    calc units em.roundedMantissa t ≤ units (2 ^ 53) t := units_le_of_mantissa_le rounded.small t
      _ = units (2 ^ 52) (t + 1) := (units_carry rounded.low).symm
      _ ≤ units (2 ^ 52) E := units_le_of_exponent_le _ less
      _ ≤ units M E := units_le_of_mantissa_le long E
  -- With the same exponent the mantissas are compared.
  · have unit : (0 : ℚ) < 2 ^ t := by positivity
    have at_most : em.roundedMantissa ≤ M :=
      described.roundedMantissa_le (lt_of_mul_lt_mul_right below unit.le)
    exact units_le_of_mantissa_le at_most t
  · -- Above it the shortest mantissa is more than the bound.
    exfalso
    have long : 2 ^ 52 ≤ em.mantissa := full.resolve_right (by omega)
    have at_least : (2 : ℚ) ^ 52 ≤ w := le_trans (by exact_mod_cast long) described.le.1
    have short : (M : ℚ) + 1 ≤ 2 ^ 53 := by exact_mod_cast canonical.small
    have unit : (0 : ℚ) < 2 ^ E := by positivity
    have next : (2 : ℚ) * 2 ^ E ≤ 2 ^ t := by
      rw [← zpow_one_add₀ two_ne_zero]
      exact zpow_le_zpow_right₀ one_le_two (by omega)
    nlinarith

/-- A result below the upper midpoint of a canonical magnitude is rounded to a finite double of at
most this magnitude. -/
theorem isUpTo_roundWithAccuracy (s : Sign) :
    IsUpTo (units M E) (roundWithAccuracy .binary64 s m e a) := by
  obtain ⟨m', e', carried, upTo⟩ := exists_of_isRounded (isRounded_shifted a spare) s
    (units_rounded_le h spare canonical below)
  -- What is shifted once more after rounding is zero, or what the lemma says of it.
  simp only [roundWithAccuracy, shiftToTargetExponent_of_spare a spare, carried]
  split
  · exact .zero s
  · exact upTo _

end Bounded

end AirQuality.Number
