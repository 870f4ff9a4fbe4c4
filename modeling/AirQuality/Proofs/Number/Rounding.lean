import AirQuality.Number.Shortest
import AirQuality.Proofs.Number.Bits

/-!
# Rounding to doubles

A quotient that lies between the midpoints to the neighbours of a double is rounded to that double.
The midpoints themselves are, if the mantissa of the double is even. Below the first double of an
exponent the neighbours are closer to each other, so that the midpoint is closer as well.

## Key results

- `roundHalfEven_eq`: when a quotient is rounded to a natural number
- `binaryExponent_spec`: the powers of two around a quotient
- `Dyadic.ofFloat?_eq`: a finite double taken apart
- `roundingInterval_contains_iff`, `nearest_of_contains`: what is rounded to a double
-/

namespace AirQuality.Number

/-! ## Rounding to natural numbers -/

/-- A quotient is rounded to a natural number if it is no more than a half away, and less than a
half if the number is odd. -/
theorem roundHalfEven_eq {num den k : Nat} (pos : 0 < den) (low : 2 * k * den ≤ 2 * num + den)
    (high : 2 * num ≤ 2 * k * den + den)
    (lowTie : 2 * k * den = 2 * num + den → k % 2 = 0)
    (highTie : 2 * num = 2 * k * den + den → k % 2 = 0) : roundHalfEven num den = k := by
  -- The quotient is the whole part and the rest, and the rest is compared with a half.
  have parts := Nat.div_add_mod num den
  have rest := Nat.mod_lt num pos
  unfold roundHalfEven
  generalize num / den = q at *
  generalize num % den = r at *
  -- Whether rounded up or down, the result is the whole part or the next number.
  have below : q ≤ k := by
    by_contra above
    have : (k + 1) * den ≤ q * den := Nat.mul_le_mul_right den (by omega)
    nlinarith
  have above : k ≤ q + 1 := by
    by_contra below
    have : (q + 2) * den ≤ k * den := Nat.mul_le_mul_right den (by omega)
    nlinarith
  -- Rounded up: the rest is at least a half, and a tie goes to the even number.
  rcases Nat.lt_or_ge q k with less | _
  · obtain rfl : k = q + 1 := by omega
    have : den ≤ 2 * r := by nlinarith
    simp only
    split
    · omega
    · split
      · rfl
      · have even := lowTie (by nlinarith)
        omega
  -- Rounded down: the rest is at most a half.
  · obtain rfl : k = q := by omega
    have : 2 * r ≤ den := by nlinarith
    simp only
    split
    · rfl
    · split
      · omega
      · have even := highTie (by nlinarith)
        omega

/-! ## Powers of two -/

/-- The quotient of the powers that an exponent is split into. -/
private theorem shift_div_shift (n : Nat) (d : Nat) (e : Int) :
    ((n <<< (-e).toNat : Nat) : ℚ) / (d <<< e.toNat : Nat) = (n : ℚ) / d / 2 ^ e := by
  simp only [Nat.shiftLeft_eq, Nat.cast_mul, Nat.cast_pow, Nat.cast_ofNat]
  -- Only one of the two shifts is by any places.
  rcases Int.le_total 0 e with up | down
  · obtain ⟨k, rfl⟩ := Int.eq_ofNat_of_zero_le up
    simp [div_div]
  · obtain ⟨k, hk⟩ := Int.eq_ofNat_of_zero_le (Int.neg_nonneg.mpr down)
    obtain rfl : e = -(k : Int) := by omega
    simp
    ring

/-- Whether a power of two is not above a quotient can be told from natural numbers. -/
theorem two_zpow_le_div_iff {num den : Nat} (hd : 0 < den) (e : Int) :
    (2 : ℚ) ^ e ≤ (num : ℚ) / den ↔ den <<< e.toNat ≤ num <<< (-e).toNat := by
  have pos : (0 : ℚ) < (den <<< e.toNat : Nat) := by
    rw [Nat.shiftLeft_eq]
    positivity
  have unit : (0 : ℚ) < 2 ^ e := by positivity
  -- The sign of a difference does not change with the unit.
  rw [← one_le_div₀ unit, ← shift_div_shift, one_le_div₀ pos, Nat.cast_le]

/-- The bit lengths of numerator and denominator bound a quotient on both sides. -/
private theorem log2_bounds {num den : Nat} (hn : 0 < num) (hd : 0 < den) :
    (2 : ℚ) ^ ((num.log2 : Int) - den.log2 - 1) ≤ (num : ℚ) / den ∧
      (num : ℚ) / den < 2 ^ ((num.log2 : Int) - den.log2 + 1) := by
  have num_low : ((2 : ℚ) ^ (num.log2 : Int)) ≤ num := by
    exact_mod_cast Nat.log2_self_le hn.ne'
  have num_high : (num : ℚ) < 2 ^ ((num.log2 : Int) + 1) := by
    exact_mod_cast Nat.lt_log2_self (n := num)
  have den_low : ((2 : ℚ) ^ (den.log2 : Int)) ≤ den := by
    exact_mod_cast Nat.log2_self_le hd.ne'
  have den_high : (den : ℚ) < 2 ^ ((den.log2 : Int) + 1) := by
    exact_mod_cast Nat.lt_log2_self (n := den)
  have den_pos : (0 : ℚ) < den := by exact_mod_cast hd
  constructor
  -- The numerator has at least its length, and the denominator less than one place more.
  · rw [le_div_iff₀ den_pos]
    calc (2 : ℚ) ^ ((num.log2 : Int) - den.log2 - 1) * den
        ≤ 2 ^ ((num.log2 : Int) - den.log2 - 1) * 2 ^ ((den.log2 : Int) + 1) := by gcongr
      _ = 2 ^ (num.log2 : Int) := by
        rw [← zpow_add₀ two_ne_zero]
        congr 1
        ring
      _ ≤ num := num_low
  -- The other way round
  · rw [div_lt_iff₀ den_pos]
    calc (num : ℚ) < 2 ^ ((num.log2 : Int) + 1) := num_high
      _ = 2 ^ ((num.log2 : Int) - den.log2 + 1) * 2 ^ (den.log2 : Int) := by
        rw [← zpow_add₀ two_ne_zero]
        congr 1
        ring
      _ ≤ _ := by gcongr

/-- A positive quotient lies between two powers of two that follow each other. -/
theorem binaryExponent_spec {num den : Nat} (hn : 0 < num) (hd : 0 < den) :
    (2 : ℚ) ^ binaryExponent num den ≤ (num : ℚ) / den ∧
      (num : ℚ) / den < 2 ^ (binaryExponent num den + 1) := by
  -- Either form of the test says the same of the power of two.
  have fits_iff (e : Int) :
      (if 0 ≤ e then decide (den <<< e.toNat ≤ num) else decide (den ≤ num <<< (-e).toNat)) =
        decide ((2 : ℚ) ^ e ≤ (num : ℚ) / den) := by
    split
    · apply decide_eq_decide.mpr
      rw [two_zpow_le_div_iff hd, show (-e).toNat = 0 by omega, Nat.shiftLeft_zero]
    · apply decide_eq_decide.mpr
      rw [two_zpow_le_div_iff hd, show e.toNat = 0 by omega, Nat.shiftLeft_zero]
  -- The two lengths leave two exponents, and the test decides between them.
  obtain ⟨low, high⟩ := log2_bounds hn hd
  unfold binaryExponent
  simp only [fits_iff]
  split
  · rename_i fits
    exact ⟨of_decide_eq_true fits, high⟩
  · rename_i fits
    refine ⟨low, ?_⟩
    rw [sub_add_cancel]
    exact not_le.mp (of_decide_eq_false (Bool.eq_false_iff.mpr fits))

/-! ## Doubles taken apart -/

/-- What is true of a double that has been taken apart: the hidden bit is there unless the exponent
is the least one. -/
structure Dyadic.IsDouble (d : Dyadic) : Prop where
  least : -1074 ≤ d.exponent
  greatest : d.exponent ≤ 971
  mantissa_lt : d.mantissa < 2 ^ 53
  hidden : -1074 < d.exponent → 2 ^ 52 ≤ d.mantissa
  binade : d.onBinade = true ↔ d.mantissa = 2 ^ 52 ∧ -1074 < d.exponent

/-- The bits of the magnitude of a double. -/
def Dyadic.bits (d : Dyadic) : Nat := (d.exponent + 1074).toNat * 2 ^ 52 + d.mantissa

/-- Whether a rational number is in an interval. -/
def Interval.Contains (i : Interval) (v : ℚ) : Prop :=
  if i.closed then (i.low : ℚ) / i.den ≤ v ∧ v ≤ (i.high : ℚ) / i.den
  else (i.low : ℚ) / i.den < v ∧ v < (i.high : ℚ) / i.den

/-- A quotient is rounded to the bits of an exponent and of a number of units, if it lies between
the neighbouring midpoints. -/
private theorem units_eq {num den k : Nat} (hd : 0 < den) {last : Int}
    (low : ((k : ℚ) - 1 / 2) * 2 ^ last ≤ (num : ℚ) / den)
    (high : (num : ℚ) / den ≤ ((k : ℚ) + 1 / 2) * 2 ^ last)
    (ties : k % 2 = 1 → ((k : ℚ) - 1 / 2) * 2 ^ last ≠ (num : ℚ) / den ∧
      (num : ℚ) / den ≠ ((k : ℚ) + 1 / 2) * 2 ^ last) :
    roundHalfEven (num <<< (-last).toNat) (den <<< last.toNat) = k := by
  -- Both shifts are set aside as one fraction, in units of the last bit.
  have unit : (0 : ℚ) < 2 ^ last := by positivity
  generalize scaledNum : num <<< (-last).toNat = n
  generalize scaledDen : den <<< last.toNat = m
  have positive : 0 < m := by
    rw [← scaledDen, Nat.shiftLeft_eq]
    positivity
  have pos : (0 : ℚ) < m := by exact_mod_cast positive
  have scaled : (n : ℚ) / m * 2 ^ last = (num : ℚ) / den := by
    rw [← scaledNum, ← scaledDen, shift_div_shift]
    field_simp
  rw [← scaled] at low high ties
  rw [mul_le_mul_iff_left₀ unit, le_div_iff₀ pos] at low
  rw [mul_le_mul_iff_left₀ unit, div_le_iff₀ pos] at high
  -- The bounds are doubled to get rid of the halves, and taken back to natural numbers.
  have lowNat : ((2 * k * m : Nat) : ℚ) ≤ (2 * n + m : Nat) := by
    push_cast
    linarith
  have highNat : ((2 * n : Nat) : ℚ) ≤ (2 * k * m + m : Nat) := by
    push_cast
    linarith
  -- A tie is a midpoint, which an odd number may not be.
  refine roundHalfEven_eq positive (by exact_mod_cast lowNat) (by exact_mod_cast highNat) ?_ ?_
  · intro tie
    by_contra odd
    apply (ties (by omega)).1
    have tie : (2 * k * m : ℚ) = 2 * n + m := by exact_mod_cast tie
    congr 1
    rw [eq_div_iff pos.ne']
    linarith
  · intro tie
    by_contra odd
    apply (ties (by omega)).2
    have tie : (2 * n : ℚ) = 2 * k * m + m := by exact_mod_cast tie
    congr 1
    rw [div_eq_iff pos.ne']
    linarith

/-- The lower end of what is rounded to the magnitude of a double. -/
def Dyadic.lowEnd (d : Dyadic) : ℚ :=
  ((d.mantissa : ℚ) - if d.onBinade then 1 / 4 else 1 / 2) * 2 ^ d.exponent

/-- The upper end of what is rounded to the magnitude of a double. -/
def Dyadic.highEnd (d : Dyadic) : ℚ := ((d.mantissa : ℚ) + 1 / 2) * 2 ^ d.exponent

/-- The ends of an interval are counted in quarters of the last bit. -/
theorem quarters_div (n : Nat) (e : Int) :
    ((n * 1 <<< (e - 2).toNat : Nat) : ℚ) / (1 <<< (-(e - 2)).toNat : Nat) = n / 4 * 2 ^ e := by
  have parts := shift_div_shift 1 1 (-(e - 2))
  rw [neg_neg] at parts
  rw [Nat.cast_mul, mul_div_assoc, parts, zpow_neg, zpow_sub₀ two_ne_zero]
  norm_num
  ring

/-- The rounding interval is that between the two ends, and the ends belong to it if the mantissa is
even. -/
theorem roundingInterval_contains_iff {d : Dyadic} (pos : 0 < d.mantissa) {v : ℚ} :
    (roundingInterval d).1.Contains v ↔
      if d.mantissa % 2 = 0 then d.lowEnd ≤ v ∧ v ≤ d.highEnd else d.lowEnd < v ∧ v < d.highEnd := by
  -- The ends are counted in quarters, and only the lower one depends on the binade.
  have low : ((roundingInterval d).1.low : ℚ) / (roundingInterval d).1.den = d.lowEnd := by
    simp only [roundingInterval, Dyadic.lowEnd]
    rw [quarters_div]
    congr 1
    split
    · rw [Nat.cast_sub (by omega)]
      push_cast
      ring
    · rw [Nat.cast_sub (by omega)]
      push_cast
      ring
  have high : ((roundingInterval d).1.high : ℚ) / (roundingInterval d).1.den = d.highEnd := by
    simp only [roundingInterval, Dyadic.highEnd]
    rw [quarters_div]
    push_cast
    ring
  have closed : (roundingInterval d).1.closed = (d.mantissa % 2 == 0) := rfl
  simp only [Interval.Contains, low, high, closed, beq_iff_eq]

/-- The bits of a quotient are those of its exponent and of its rounded mantissa. -/
private theorem nearestBits_eq (num den : Nat) :
    nearestBits num den =
      (lastBit (binaryExponent num den) + 1074).toNat * 2 ^ 52 +
        roundHalfEven (num <<< (-lastBit (binaryExponent num den)).toNat)
          (den <<< (lastBit (binaryExponent num den)).toNat) := by
  unfold nearestBits
  generalize lastBit (binaryExponent num den) = last
  have power : twoTo 52 = 2 ^ 52 := rfl
  simp only [power]
  congr 1
  -- Only one of the two shifts is by any places, and that one is left.
  split
  · rw [show (-last).toNat = 0 by omega, Nat.shiftLeft_zero]
  · rw [show last.toNat = 0 by omega, Nat.shiftLeft_zero]

/-! ## Inside a rounding interval -/

/-- The midpoint to the neighbour below, if all doubles had the distance of those above, is not above
the lower end. -/
private theorem Dyadic.lowHalf_le_lowEnd (d : Dyadic) :
    ((d.mantissa : ℚ) - 1 / 2) * 2 ^ d.exponent ≤ d.lowEnd := by
  have unit : (0 : ℚ) < 2 ^ d.exponent := by positivity
  -- At the start of a binade the lower end is closer, and otherwise it is this midpoint.
  apply mul_le_mul_of_nonneg_right _ unit.le
  split <;> linarith

/-- What lies in a rounding interval lies between its ends. -/
theorem between_of_contains {d : Dyadic} (pos : 0 < d.mantissa) {v : ℚ}
    (inside : (roundingInterval d).1.Contains v) : d.lowEnd ≤ v ∧ v ≤ d.highEnd := by
  rw [roundingInterval_contains_iff pos] at inside
  split at inside
  · exact inside
  · exact ⟨inside.1.le, inside.2.le⟩

/-- A rounding interval ends below the power of two behind all mantissas of its exponent. -/
private theorem Dyadic.IsDouble.highEnd_lt {d : Dyadic} (double : d.IsDouble) :
    d.highEnd < 2 ^ (d.exponent + 53) := by
  have unit : (0 : ℚ) < 2 ^ d.exponent := by positivity
  have fits : (d.mantissa : ℚ) + 1 ≤ 2 ^ (53 : Int) := by exact_mod_cast double.mantissa_lt
  rw [zpow_add₀ two_ne_zero, Dyadic.highEnd, mul_comm]
  apply mul_lt_mul_of_pos_left _ unit
  linarith

/-- What lies in a rounding interval and below the powers of two of its mantissas lies below a double
whose lower neighbour has the next smaller exponent. -/
private theorem Dyadic.IsDouble.onBinade_of_lt {d : Dyadic} (double : d.IsDouble)
    (normal : -1074 < d.exponent) {v : ℚ} (low : d.lowEnd ≤ v)
    (under : v < 2 ^ (52 : Int) * 2 ^ d.exponent) : d.onBinade = true := by
  have unit : (0 : ℚ) < 2 ^ d.exponent := by positivity
  -- Otherwise the mantissa is greater than the least one, and the lower end at least that.
  refine double.binade.mpr ⟨le_antisymm ?_ (double.hidden normal), normal⟩
  by_contra more
  have more : (2 : ℚ) ^ (52 : Int) + 1 ≤ d.mantissa := by exact_mod_cast not_le.mp more
  have above : 2 ^ (52 : Int) * 2 ^ d.exponent ≤ d.lowEnd := by
    apply mul_le_mul_of_nonneg_right _ unit.le
    split <;> linarith
  linarith

/-- The lower end, where the neighbour below has the next smaller exponent. -/
private theorem Dyadic.IsDouble.lowEnd_eq {d : Dyadic} (double : d.IsDouble)
    (binade : d.onBinade = true) :
    d.lowEnd = ((2 : ℚ) ^ (52 : Int) - 1 / 4) * 2 ^ d.exponent := by
  rw [Dyadic.lowEnd, if_pos binade, (double.binade.mp binade).1]
  norm_cast

/-- In units of the last bit of a double, what lies in its rounding interval is rounded to its
mantissa. -/
private theorem units_of_contains {d : Dyadic} (pos : 0 < d.mantissa) {num den : Nat} (hd : 0 < den)
    (inside : (roundingInterval d).1.Contains ((num : ℚ) / den)) :
    roundHalfEven (num <<< (-d.exponent).toNat) (den <<< d.exponent.toNat) = d.mantissa := by
  obtain ⟨low, high⟩ := between_of_contains pos inside
  rw [roundingInterval_contains_iff pos] at inside
  refine units_eq hd (d.lowHalf_le_lowEnd.trans low) high fun odd => ?_
  -- The midpoints of an odd mantissa do not belong to the interval.
  rw [if_neg (by omega)] at inside
  exact ⟨(d.lowHalf_le_lowEnd.trans_lt inside.1).ne, inside.2.ne⟩

/-- In half units of the last bit of the first double of an exponent, what lies below it in its
rounding interval is rounded to twice its mantissa. -/
private theorem units_of_onBinade {d : Dyadic} (double : d.IsDouble) (binade : d.onBinade = true)
    {num den : Nat} (hd : 0 < den) (low : d.lowEnd ≤ (num : ℚ) / den)
    (under : (num : ℚ) / den < 2 ^ (52 : Int) * 2 ^ d.exponent) :
    roundHalfEven (num <<< (-(d.exponent - 1)).toNat) (den <<< (d.exponent - 1).toNat) = 2 ^ 53 := by
  have unit : (0 : ℚ) < 2 ^ d.exponent := by positivity
  have half : (2 : ℚ) ^ (d.exponent - 1) = 2 ^ d.exponent / 2 := by
    rw [zpow_sub₀ two_ne_zero, zpow_one]
  -- Twice the mantissa is even, so there are no ties to be excluded.
  refine units_eq hd ?_ ?_ (fun odd => absurd odd (by decide))
  · rw [half]
    refine le_trans (le_of_eq ?_) (double.lowEnd_eq binade ▸ low)
    push_cast
    ring
  · rw [half]
    apply under.le.trans
    push_cast
    nlinarith

/-- What lies in the rounding interval of a double has the bits of the double when it is rounded. -/
private theorem nearestBits_of_contains {d : Dyadic} (double : d.IsDouble) (pos : 0 < d.mantissa)
    {num den : Nat} (hn : 0 < num) (hd : 0 < den)
    (inside : (roundingInterval d).1.Contains ((num : ℚ) / den)) : nearestBits num den = d.bits := by
  obtain ⟨low, high⟩ := between_of_contains pos inside
  obtain ⟨atLeast, below⟩ := binaryExponent_spec hn hd
  rw [nearestBits_eq]
  generalize binaryExponent num den = E at *
  have one_lt : (1 : ℚ) < 2 := one_lt_two
  -- The exponent of the quotient is at most that of the double.
  have top : E < d.exponent + 53 := by
    rw [← zpow_lt_zpow_iff_right₀ one_lt]
    exact atLeast.trans_lt (high.trans_lt double.highEnd_lt)
  have least := double.least
  by_cases within : lastBit E = d.exponent
  · rw [within, units_of_contains pos hd inside, Dyadic.bits]
  · -- Below the first double with its exponent the quotient has one place more.
    obtain ⟨normal, small⟩ : -1074 < d.exponent ∧ E < d.exponent + 52 := by
      unfold lastBit at within
      omega
    have under : (num : ℚ) / den < 2 ^ (52 : Int) * 2 ^ d.exponent := by
      rw [← zpow_add₀ two_ne_zero]
      apply below.trans_le
      apply zpow_le_zpow_right₀ one_lt.le
      omega
    have binade := double.onBinade_of_lt normal low under
    -- It is lower by one at most, as half of the double is below the lower end.
    have large : d.exponent + 51 < E + 1 := by
      rw [← zpow_lt_zpow_iff_right₀ one_lt]
      calc (2 : ℚ) ^ (d.exponent + 51)
          = 2 ^ (51 : Int) * 2 ^ d.exponent := by rw [zpow_add₀ two_ne_zero, mul_comm]
        _ ≤ (2 ^ (52 : Int) - 1 / 4) * 2 ^ d.exponent := by gcongr; norm_num
        _ = d.lowEnd := (double.lowEnd_eq binade).symm
        _ ≤ (num : ℚ) / den := low
        _ < 2 ^ (E + 1) := below
    have last : lastBit E = d.exponent - 1 := by
      unfold lastBit
      omega
    rw [last, units_of_onBinade double binade hd low under, Dyadic.bits,
      (double.binade.mp binade).1]
    omega

/-- A finite double has bits below those of the infinity. -/
private theorem Dyadic.IsDouble.bits_lt {d : Dyadic} (double : d.IsDouble) :
    d.bits < infinityBits := by
  -- The last exponent field is that of the infinity.
  have mantissa := double.mantissa_lt
  have greatest := double.greatest
  change (d.exponent + 1074).toNat * 2 ^ 52 + d.mantissa < 2047 * 2 ^ 52
  omega

/-- A double without mantissa is zero. -/
theorem Dyadic.IsDouble.ofBits_of_zero {d : Dyadic} (double : d.IsDouble) (zero : d.mantissa = 0) :
    Float.ofBits d.bits.toUInt64 = 0.0 := by
  have least := double.least
  have hidden := double.hidden
  -- Without a hidden bit the exponent is the least one.
  have bits : d.bits = 0 := by
    unfold Dyadic.bits
    omega
  rw [bits]
  rfl

/-- What lies in the rounding interval of a double is rounded to the double. -/
theorem nearest_of_contains {d : Dyadic} (double : d.IsDouble) (pos : 0 < d.mantissa)
    {num den : Nat} (hn : 0 < num) (hd : 0 < den)
    (inside : (roundingInterval d).1.Contains ((num : ℚ) / den)) :
    nearest num den = Float.ofBits d.bits.toUInt64 := by
  rw [nearest, if_neg hn.ne', nearestBits_of_contains double pos hn hd inside,
    Nat.min_eq_left double.bits_lt.le]

/-- A finite double can be taken apart, and is given by its sign and the bits of its magnitude. -/
theorem Dyadic.ofFloat?_eq {x : Float} (finite : x.isFinite = true) :
    ∃ d, Dyadic.ofFloat? x = some d ∧ d.IsDouble ∧
      withSign d.negative (Float.ofBits d.bits.toUInt64) = x := by
  -- The fields are taken of the bits, and the bits are rebuilt of the fields.
  have field := (isFinite_iff x).mp finite
  have rebuilt := withSign_ofBits finite
  have high : twoTo 63 = 2 ^ 63 := rfl
  have unit : twoTo 52 = 2 ^ 52 := rfl
  have fields : twoTo 11 = 2 ^ 11 := rfl
  unfold Dyadic.ofFloat?
  simp only [high, unit, fields, if_neg field]
  generalize x.toBits.toNat = bits at *
  -- Subnormal doubles have the exponent of the least normal ones, and no hidden bit.
  by_cases subnormal : bits / 2 ^ 52 % 2 ^ 11 = 0
  · rw [if_pos subnormal]
    refine ⟨_, rfl, ⟨?_, ?_, ?_, ?_, ?_⟩, ?_⟩
    · simp
    · simp
    · simp only
      omega
    · simp
    · simp
    · have magnitude : ((-1074 : Int) + 1074).toNat * 2 ^ 52 + bits % 2 ^ 52 = bits % 2 ^ 63 := by
        omega
      rw [Dyadic.bits, magnitude, rebuilt]
  -- All others have the hidden bit.
  · rw [if_neg subnormal]
    refine ⟨_, rfl, ⟨?_, ?_, ?_, ?_, ?_⟩, ?_⟩
    · simp only
      omega
    · simp only
      omega
    · simp only
      omega
    · simp only
      omega
    · simp only [Bool.and_eq_true, beq_iff_eq, bne_iff_ne]
      omega
    · have magnitude :
          (((bits / 2 ^ 52 % 2 ^ 11 : Nat) : Int) - 1075 + 1074).toNat * 2 ^ 52 +
            (bits % 2 ^ 52 + 2 ^ 52) = bits % 2 ^ 63 := by
        omega
      rw [Dyadic.bits, magnitude, rebuilt]

end AirQuality.Number
