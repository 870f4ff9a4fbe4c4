import AirQuality.Proofs.Number.Numeral
import AirQuality.Proofs.Number.Rounding

/-!
# Shortest decimals round to their double

The decimal that is chosen for a double lies in the interval of what is rounded to the double. There
is one to choose: the interval is wider than the last of seventeen places, so that some multiple of
that place lies in it, and then one of the two multiples next to the double does.

## Key results

- `containsDecimal_iff`: the integer test of an interval
- `exists_contains`: seventeen digits suffice
- `shortest_contains`: the chosen decimal is rounded to its double
- `ofScientific_of_contains`: digits and an exponent that are read as a double
-/

namespace AirQuality.Number

/-! ## Powers of ten -/

/-- The quotient of the powers that an exponent is split into. -/
private theorem tenTo_div_tenTo (e : Int) :
    ((tenTo e.toNat : Nat) : ℚ) / (tenTo (-e).toNat : Nat) = 10 ^ e := by
  simp only [tenTo, Nat.pow_eq, Nat.cast_pow, Nat.cast_ofNat]
  -- Only one of the two exponents is positive.
  rcases Int.le_total 0 e with up | down
  · obtain ⟨k, rfl⟩ := Int.eq_ofNat_of_zero_le up
    simp
  · obtain ⟨k, hk⟩ := Int.eq_ofNat_of_zero_le (Int.neg_nonneg.mpr down)
    obtain rfl : e = -(k : Int) := by omega
    simp

/-- The exponent of the first decimal digit. -/
private theorem ten_zpow_decimalExponent_le {num den : Nat} (hn : 0 < num) (hd : 0 < den) :
    (10 : ℚ) ^ decimalExponent num den ≤ (num : ℚ) / den := by
  have den_pos : (0 : ℚ) < den := by exact_mod_cast hd
  unfold decimalExponent decimalLength
  split
  -- From one on the exponent is one less than the number of digits in front of the point.
  · rename_i atLeast
    have quotient : 0 < num / den := Nat.div_pos atLeast hd
    obtain ⟨k, length⟩ : ∃ k, (Nat.toDigits 10 (num / den)).length = k + 1 :=
      ⟨_, (Nat.succ_pred_eq_of_pos Nat.length_toDigits_pos).symm⟩
    have first : 10 ^ k ≤ num / den := by
      by_contra less
      rcases Nat.eq_zero_or_pos k with rfl | pos
      · omega
      · have := (Nat.length_toDigits_le_iff (by decide) pos).mpr (not_le.mp less)
        omega
    rw [length, Nat.cast_add, Nat.cast_one, add_sub_cancel_right, zpow_natCast]
    calc (10 : ℚ) ^ k ≤ (num / den : Nat) := by exact_mod_cast first
      _ ≤ (num : ℚ) / den := Nat.cast_div_le
  -- Below one it is the number of zeros behind the point.
  · have last : (den - 1) / num < 10 ^ (Nat.toDigits 10 ((den - 1) / num)).length :=
      (Nat.length_toDigits_le_iff (by decide) Nat.length_toDigits_pos).mp le_rfl
    generalize (Nat.toDigits 10 ((den - 1) / num)).length = k at last
    have bound : den ≤ 10 ^ k * num := by
      have := (Nat.div_lt_iff_lt_mul hn).mp last
      omega
    rw [zpow_neg, zpow_natCast, le_div_iff₀ den_pos, inv_mul_le_iff₀ (by positivity)]
    exact_mod_cast bound

/-! ## Decimals in an interval -/

section Interval

variable {i : Interval}

/-- The integer test of an interval. -/
theorem containsDecimal_iff (hd : 0 < i.den) (c : Nat) (p : Int) :
    i.containsDecimal c p = true ↔ i.Contains (c * 10 ^ p) := by
  have den_pos : (0 : ℚ) < i.den := by exact_mod_cast hd
  have scale_pos : (0 : ℚ) < (tenTo (-p).toNat : Nat) := by exact_mod_cast tenTo_pos _
  -- The power of ten is a fraction, too, and is multiplied across.
  rw [← tenTo_div_tenTo, ← mul_div_assoc]
  simp only [Interval.containsDecimal, Interval.Contains, div_le_div_iff₀ den_pos scale_pos,
    div_le_div_iff₀ scale_pos den_pos, div_lt_div_iff₀ den_pos scale_pos,
    div_lt_div_iff₀ scale_pos den_pos]
  split
  · rw [Bool.and_eq_true, decide_eq_true_eq, decide_eq_true_eq]
    norm_cast
  · rw [Bool.and_eq_true, decide_eq_true_eq, decide_eq_true_eq]
    norm_cast

/-- What lies between two numbers of an interval is in the interval. -/
theorem Interval.Contains.between {u v w : ℚ} (first : i.Contains u) (last : i.Contains w)
    -- Closed intervals and open ones differ in whether the ends belong to them.
    (above : u ≤ v) (below : v ≤ w) : i.Contains v := by
  unfold Interval.Contains at *
  split at first
  · rename_i closed
    rw [if_pos closed] at last ⊢
    exact ⟨first.1.trans above, below.trans last.2⟩
  · rename_i opened
    rw [if_neg opened] at last ⊢
    exact ⟨first.1.trans_le above, below.trans_lt last.2⟩

/-- What is picked lies in the interval. -/
private theorem pick?_contains (hd : 0 < i.den) {num : Nat} {p : Int} {d : Decimal}
    (h : pick? i num p = some d) : i.Contains (d.digits * 10 ^ d.exponent) := by
  unfold pick? at h
  simp only at h
  rw [← containsDecimal_iff hd]
  -- One case for each pair of answers about the two neighbours
  split at h
  · rename_i below above
    obtain rfl := Option.some.inj h
    dsimp only
    split
    · exact above
    · exact below
  · rename_i below _
    exact Option.some.inj h ▸ below
  · rename_i _ above
    exact Option.some.inj h ▸ above
  · cases h

/-- A decimal is picked if the interval has one with the last digit at the place. -/
private theorem pick?_isSome (hd : 0 < i.den) {num : Nat} (middle : i.Contains ((num : ℚ) / i.den))
    {c : Nat} {p : Int} (inside : i.Contains (c * 10 ^ p)) : (pick? i num p).isSome := by
  have unit : (0 : ℚ) < 10 ^ p := by positivity
  -- The quotient is the number of whole places in the middle.
  have quotient : (num * tenTo (-p).toNat) / (i.den * tenTo p.toNat) =
      ⌊(num : ℚ) / i.den / 10 ^ p⌋₊ := by
    rw [← Nat.floor_div_eq_div (K := ℚ), ← tenTo_div_tenTo, div_div_div_eq]
    push_cast
    rfl
  -- The two multiples around the middle are the neighbours that are looked at.
  have below : (⌊(num : ℚ) / i.den / 10 ^ p⌋₊ : ℚ) * 10 ^ p ≤ (num : ℚ) / i.den :=
    (le_div_iff₀ unit).mp (Nat.floor_le (by positivity))
  have above : (num : ℚ) / i.den ≤ ((⌊(num : ℚ) / i.den / 10 ^ p⌋₊ + 1 : Nat) : ℚ) * 10 ^ p := by
    rw [← div_le_iff₀ unit, Nat.cast_add, Nat.cast_one]
    exact (Nat.lt_floor_add_one _).le
  unfold pick?
  simp only [quotient]
  generalize ⌊(num : ℚ) / i.den / 10 ^ p⌋₊ = k at below above
  -- The multiple next to the middle on the side of the given one is in the interval.
  have next : i.containsDecimal k p = true ∨ i.containsDecimal (k + 1) p = true := by
    simp only [containsDecimal_iff hd]
    rcases Nat.lt_or_ge k c with more | less
    · refine .inr (middle.between inside above ?_)
      gcongr
      exact more
    · refine .inl (inside.between middle ?_ below)
      gcongr
  -- If one of the two is in the interval, something is picked.
  rcases next with low | high
  · rw [low]
    cases i.containsDecimal (k + 1) p <;> rfl
  · rw [high]
    cases i.containsDecimal k p <;> rfl

/-- An interval that is wider than a place has a multiple of the place inside. -/
private theorem exists_mul_between {low high unit : ℚ} (hu : 0 < unit) (hh : 0 < high)
    (wide : unit < high - low) : ∃ c : Nat, low < c * unit ∧ c * unit < high := by
  -- The greatest multiple below the upper end is one place before the next one.
  have ceil_pos : 0 < ⌈high / unit⌉₊ := Nat.ceil_pos.mpr (by positivity)
  obtain ⟨c, count⟩ : ∃ c, ⌈high / unit⌉₊ = c + 1 := ⟨_, (Nat.succ_pred_eq_of_pos ceil_pos).symm⟩
  refine ⟨c, ?_, ?_⟩
  · have reaches := (div_le_iff₀ hu).mp (Nat.le_ceil (high / unit))
    rw [count, Nat.cast_add, Nat.cast_one] at reaches
    linarith
  · have before := Nat.ceil_lt_add_one (show 0 ≤ high / unit by positivity)
    rw [count, Nat.cast_add, Nat.cast_one] at before
    exact (lt_div_iff₀ hu).mp (by linarith)

end Interval

/-! ## The chosen decimal -/

/-- The number that a decimal stands for. -/
def Decimal.value (d : Decimal) : ℚ := d.digits * 10 ^ d.exponent

/-- Zeros at the end are taken into the exponent. -/
private theorem Decimal.trimmed_value (d : Decimal) : d.trimmed.value = d.value := by
  -- Induction on how the zeros are taken away
  fun_induction Decimal.trimmed d with
  | case1 d zero ih =>
    have digits : (d.digits : ℚ) = (d.digits / 10 : Nat) * 10 := by
      exact_mod_cast (Nat.div_mul_cancel (Nat.dvd_of_mod_eq_zero zero.2)).symm
    rw [ih, Decimal.value, Decimal.value, digits, zpow_add₀ (by norm_num), zpow_one]
    ring
  | case2 d last => rfl

namespace Dyadic

variable {d : Dyadic}

/-- The ends of an interval are proper fractions. -/
private theorem roundingInterval_den_pos (d : Dyadic) : 0 < (roundingInterval d).1.den := by
  simp only [roundingInterval, Nat.shiftLeft_eq]
  positivity

/-- The magnitude of a double over the denominator of its interval. -/
private theorem roundingInterval_value (d : Dyadic) :
    ((roundingInterval d).2 : ℚ) / (roundingInterval d).1.den = d.mantissa * 2 ^ d.exponent := by
  simp only [roundingInterval]
  rw [quarters_div]
  push_cast
  ring

/-- A positive double is not rounded to from zero. -/
private theorem lowEnd_pos (pos : 0 < d.mantissa) : 0 < d.lowEnd := by
  have : (1 : ℚ) ≤ d.mantissa := by exact_mod_cast pos
  unfold lowEnd
  -- A mantissa is at least one, and at most a half of the unit is taken off.
  refine mul_pos ?_ (by positivity)
  split <;> linarith

/-- What lies strictly between the ends lies in the interval. -/
private theorem contains_of_lt (pos : 0 < d.mantissa) {v : ℚ} (low : d.lowEnd < v)
    (high : v < d.highEnd) :
    (roundingInterval d).1.Contains v := by
  rw [roundingInterval_contains_iff pos]
  split
  · exact ⟨low.le, high.le⟩
  · exact ⟨low, high⟩

/-- The magnitude of a double is rounded to the double. -/
private theorem contains_magnitude (pos : 0 < d.mantissa) :
    (roundingInterval d).1.Contains (d.mantissa * 2 ^ d.exponent) := by
  have unit : (0 : ℚ) < 2 ^ d.exponent := by positivity
  refine contains_of_lt pos ?_ ?_
  · refine mul_lt_mul_of_pos_right ?_ unit
    split <;> linarith
  · refine mul_lt_mul_of_pos_right ?_ unit
    linarith

/-- Seventeen digits suffice: some multiple of the last place is rounded to the double. -/
theorem exists_contains (double : d.IsDouble) (pos : 0 < d.mantissa) {top : Int}
    (first : (10 : ℚ) ^ top ≤ d.mantissa * 2 ^ d.exponent) :
    ∃ c : Nat, (roundingInterval d).1.Contains (c * 10 ^ (top - 16)) := by
  have unit : (0 : ℚ) < 2 ^ d.exponent := by positivity
  have below : (d.mantissa : ℚ) + 1 ≤ 2 ^ 53 := by exact_mod_cast double.mantissa_lt
  -- The double has seventeen digits, so the last place is small beside it.
  have place : (10 : ℚ) ^ (top - 16) * 10 ^ 16 ≤ d.mantissa * 2 ^ d.exponent := by
    rw [zpow_sub₀ (by norm_num)]
    norm_num
    linarith
  have wide : (10 : ℚ) ^ (top - 16) < d.highEnd - d.lowEnd := by
    rw [highEnd, lowEnd, ← sub_mul]
    -- At the start of a binade the interval has three quarters of the width, with the least
    -- mantissa.
    split
    · rename_i binade
      rw [(double.binade.mp binade).1] at place ⊢
      push_cast at place ⊢
      nlinarith
    · nlinarith
  have high : 0 < d.highEnd := by
    unfold highEnd
    positivity
  -- An interval wider than the place has one of its multiples inside.
  obtain ⟨c, above, under⟩ := exists_mul_between (by positivity) high wide
  exact ⟨c, contains_of_lt pos above under⟩

/-- The chosen decimal is rounded to its double. -/
theorem shortest_contains (double : d.IsDouble) (pos : 0 < d.mantissa) :
    (roundingInterval d).1.Contains (shortest d).value := by
  have denPos := d.roundingInterval_den_pos
  have value := d.roundingInterval_value
  have magnitude := contains_magnitude pos
  have numPos : 0 < (roundingInterval d).2 := by
    simp only [roundingInterval, Nat.shiftLeft_eq]
    positivity
  have first := ten_zpow_decimalExponent_le numPos denPos
  rw [value] at first
  -- At the last of the seventeen places there is something to pick.
  obtain ⟨c, last⟩ := exists_contains double pos first
  unfold shortest
  rw [if_neg pos.ne']
  simp only [Decimal.trimmed_value]
  generalize decimalExponent (roundingInterval d).2 (roundingInterval d).1.den = top at last
  cases found : (List.range 17).findSome? fun n : Nat =>
      pick? (roundingInterval d).1 (roundingInterval d).2 (top - (n : Int)) with
  -- What is found first is in the interval, at whatever place it is.
  | some shown =>
    obtain ⟨n, -, picked⟩ := List.exists_of_findSome?_eq_some found
    exact pick?_contains denPos picked
  -- The search cannot fail, as it comes to the last place.
  | none =>
    have missing := List.findSome?_eq_none_iff.mp found 16 (by decide)
    have picked := pick?_isSome denPos (value ▸ magnitude) last
    rw [show (top - ((16 : Nat) : Int)) = top - 16 from rfl] at missing
    rw [missing] at picked
    cases picked

/-- The chosen decimal of a double other than zero is not zero. -/
theorem shortest_digits_pos (double : d.IsDouble) (pos : 0 < d.mantissa) :
    0 < (shortest d).digits := by
  have above := (lowEnd_pos pos).trans_le (between_of_contains pos (shortest_contains double pos)).1
  refine Nat.pos_of_ne_zero fun zero => above.ne' ?_
  rw [Decimal.value, zero, Nat.cast_zero, zero_mul]

/-- The least double is far above what is read as zero for its exponent. -/
private theorem ten_zpow_lt_least : (10 : ℚ) ^ (-330 : Int) < 1 / 2 * 2 ^ (-1074 : Int) := by
  -- The powers are compared by fifths of their exponents, which are small enough to be computed.
  have bound : (2 : ℚ) ^ (215 * 5) < 10 ^ (66 * 5) := by
    rw [pow_mul, pow_mul]
    exact pow_lt_pow_left₀ (by norm_num) (by norm_num) (by norm_num)
  have half : (1 : ℚ) / 2 * 2 ^ (-1074 : Int) = (2 ^ (215 * 5))⁻¹ := by
    rw [one_div, ← zpow_neg_one, ← zpow_add₀ two_ne_zero, ← zpow_natCast, ← zpow_neg]
    rfl
  rw [half, zpow_neg]
  exact inv_strictAnti₀ (by positivity) bound

/-- The greatest double is far below what is read as infinite for its exponent. -/
private theorem greatest_lt_ten_zpow : (2 : ℚ) ^ 53 * 2 ^ (971 : Int) < 10 ^ (310 : Int) := by
  have bound : (2 : ℚ) ^ (205 * 5) < 10 ^ (62 * 5) := by
    rw [pow_mul, pow_mul]
    exact pow_lt_pow_left₀ (by norm_num) (by norm_num) (by norm_num)
  refine lt_of_le_of_lt ?_ bound
  rw [← zpow_natCast, ← zpow_natCast, ← zpow_add₀ two_ne_zero]
  exact zpow_le_zpow_right₀ one_le_two (by decide)

/-- Doubles lie far inside the exponents that are looked at when a numeral is read. -/
private theorem IsDouble.bounds_of_contains (double : d.IsDouble) (pos : 0 < d.mantissa) {v : ℚ}
    (inside : (roundingInterval d).1.Contains v) :
    (10 : ℚ) ^ (-330 : Int) < v ∧ v < 10 ^ (310 : Int) := by
  obtain ⟨low, high⟩ := between_of_contains pos inside
  have one_le : (1 : ℚ) ≤ d.mantissa := by exact_mod_cast pos
  have below : (d.mantissa : ℚ) + 1 ≤ 2 ^ 53 := by exact_mod_cast double.mantissa_lt
  constructor
  -- Half of the least double is below every lower end.
  · calc (10 : ℚ) ^ (-330 : Int) < 1 / 2 * 2 ^ (-1074 : Int) := ten_zpow_lt_least
      _ ≤ 1 / 2 * 2 ^ d.exponent := by
        refine mul_le_mul_of_nonneg_left ?_ (by norm_num)
        exact zpow_le_zpow_right₀ one_le_two double.least
      _ ≤ d.lowEnd := by
        refine mul_le_mul_of_nonneg_right ?_ (by positivity)
        split <;> linarith
      _ ≤ v := low
  -- The greatest exponent and all bits of the mantissa are above every upper end.
  · calc v ≤ d.highEnd := high
      _ ≤ 2 ^ 53 * 2 ^ d.exponent := by
        refine mul_le_mul_of_nonneg_right ?_ (by positivity)
        linarith
      _ ≤ 2 ^ 53 * 2 ^ (971 : Int) := by
        refine mul_le_mul_of_nonneg_left ?_ (by norm_num)
        exact zpow_le_zpow_right₀ one_le_two double.greatest
      _ < 10 ^ (310 : Int) := greatest_lt_ten_zpow

end Dyadic

/-! ## Reading digits and an exponent -/

/-- Zeros in front of a number do not count. -/
private theorem ofDigits_dropWhile (ds : List Nat) :
    ofDigits (ds.dropWhile (· == 0)) = ofDigits ds := by
  -- Induction on the digits; a zero in front counts for nothing.
  induction ds with
  | nil => rfl
  | cons d ds ih =>
    rw [List.dropWhile_cons]
    split
    · rename_i zero
      rw [ih, ofDigits_cons, beq_iff_eq.mp zero, Nat.zero_mul, Nat.zero_add]
    · rfl

/-- A number of so many digits without zeros in front. -/
private theorem le_ofDigits_dropWhile {ds : List Nat} (some : ds.dropWhile (· == 0) ≠ []) :
    10 ^ ((ds.dropWhile (· == 0)).length - 1) ≤ ofDigits ds := by
  rw [← ofDigits_dropWhile]
  have first := List.head_dropWhile_not (· == 0) some
  generalize ds.dropWhile (· == 0) = rest at *
  cases rest with
  | nil => exact absurd rfl some
  -- The first digit that is left is at least one.
  | cons d rest =>
    have nonzero : d ≠ 0 := by simpa using first
    rw [ofDigits_cons, List.length_cons, Nat.add_sub_cancel]
    have := Nat.mul_le_mul_right (10 ^ rest.length) (Nat.one_le_iff_ne_zero.mpr nonzero)
    omega

/-- Digits that write nothing are read as zero. -/
theorem ofScientific_of_zero {ds : List Nat} (zero : ofDigits ds = 0) (e : Int) :
    ofScientific ds e = 0.0 := by
  have none : ds.dropWhile (· == 0) = [] := by
    by_contra some
    have := le_ofDigits_dropWhile some
    have := Nat.pow_pos (n := (ds.dropWhile (· == 0)).length - 1) (show 0 < 10 by decide)
    omega
  simp [ofScientific, none]

/-- Digits and an exponent are read as a double if the number that they write is rounded to it. -/
theorem ofScientific_of_contains {d : Dyadic} (double : d.IsDouble) (pos : 0 < d.mantissa)
    {ds : List Nat} {e : Int} (digits : ∀ d ∈ ds, d < 10)
    (inside : (roundingInterval d).1.Contains (ofDigits ds * 10 ^ e)) :
    ofScientific ds e = Float.ofBits d.bits.toUInt64 := by
  obtain ⟨low, high⟩ := double.bounds_of_contains pos inside
  have unit : (0 : ℚ) < 10 ^ e := by positivity
  -- What is rounded to a positive double is positive itself, so some digit is not zero.
  have number_pos : 0 < ofDigits ds := by
    refine Nat.pos_of_ne_zero fun zero => ?_
    have : (0 : ℚ) < 10 ^ (-330 : Int) := by positivity
    rw [zero, Nat.cast_zero, zero_mul] at low
    exact absurd low this.le.not_gt
  have some : ds.dropWhile (· == 0) ≠ [] := fun none => by
    have same := ofDigits_dropWhile ds
    rw [none] at same
    exact number_pos.ne same
  have length : 0 < (ds.dropWhile (· == 0)).length := List.length_pos_iff.mpr some
  have atLeast := le_ofDigits_dropWhile some
  have below : ofDigits ds < 10 ^ (ds.dropWhile (· == 0)).length := by
    rw [← ofDigits_dropWhile]
    exact ofDigits_lt fun d mem => digits d ((List.dropWhile_sublist _).subset mem)
  -- The number lies between the powers of ten around its first digit.
  have notSmall : -330 < ((ds.dropWhile (· == 0)).length : Int) + e := by
    rw [← zpow_lt_zpow_iff_right₀ (show (1 : ℚ) < 10 by norm_num)]
    apply low.trans
    rw [zpow_add₀ (by norm_num), zpow_natCast]
    exact mul_lt_mul_of_pos_right (by exact_mod_cast below) unit
  have notLarge : ((ds.dropWhile (· == 0)).length : Int) + e - 1 < 310 := by
    rw [← zpow_lt_zpow_iff_right₀ (show (1 : ℚ) < 10 by norm_num)]
    refine lt_of_le_of_lt ?_ high
    rw [show ((ds.dropWhile (· == 0)).length : Int) + e - 1 =
      (((ds.dropWhile (· == 0)).length - 1 : Nat) : Int) + e by omega, zpow_add₀ (by norm_num),
      zpow_natCast]
    exact mul_le_mul_of_nonneg_right (by exact_mod_cast atLeast) unit.le
  -- Neither of the shortcuts is taken, and the quotient is rounded as any other.
  unfold ofScientific
  simp only [ofDigits_dropWhile]
  rw [if_neg, if_neg (by omega)]
  · apply nearest_of_contains double pos (Nat.mul_pos number_pos (tenTo_pos _)) (tenTo_pos _)
    rw [Nat.cast_mul, mul_div_assoc, tenTo_div_tenTo]
    exact inside
  · simp only [List.isEmpty_iff, Bool.or_eq_true, decide_eq_true_eq, not_or]
    exact ⟨some, by omega⟩

end AirQuality.Number
