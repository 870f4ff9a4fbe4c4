import AirQuality.Number.Basic
import AirQuality.Proofs.Number.Rounding
import AirQuality.Proofs.Number.Value

/-!
# Exact values of numbers

An integer has a value as a double has one, and numbers of either kind are compared by their values.
So a number that is brought between two bounds has the value that is brought between those of the
bounds.

## Key results

- `value_of_ofFloat?`: the value of a double that is taken apart
- `exists_compares_exact`: integers and doubles are compared by their values
- `le_iff_exact`, `lt_iff_exact`: the order of numbers
- `exact_clamp`: a number brought between two bounds
-/

namespace AirQuality.Number

open Float.Model (Format UnpackedFloat)
open Float.Model.UnpackedFloat

/-- Whether a number is none. -/
def isNaN : Number → Bool
  | .int _ => false
  | .float x => x.isNaN

/-- One, counted in least positive doubles. -/
def scale : Nat := units 1 0

/-- One is at least one least double. -/
theorem scale_pos : 0 < scale := units_pos Nat.one_pos 0

/-- The value of a number, counted in least positive doubles; that of NaN says nothing. -/
def exact : Number → Extended
  | .int n => .ofInt (n * scale)
  | .float x => value x

/-! ## Doubles taken apart -/

/-- The hidden bit of a mantissa stands in front of its 52 bits. -/
theorem toNat_one_append (m : BitVec 52) : (1#1 ++ m).toNat = 2 ^ 52 + m.toNat := by
  rw [BitVec.toNat_append, ← Nat.shiftLeft_add_eq_or_of_lt m.isLt]
  simp [Nat.shiftLeft_eq]

/-- The first of 64 bits decides about the sign. -/
private theorem apply_ofBitVec (b : BitVec Format.binary64.numBits) (n : Nat) :
    (Sign.ofBitVec (unpackSign b)).apply n =
      if 2 ^ 63 ≤ b.toNat then -(n : Int) else n := by
  have sign := toNat_unpackSign b
  have size : b.toNat < 2 ^ 64 := b.isLt
  -- The first bit is set in the numbers from 2 ^ 63 on, and only in these.
  by_cases negative : 2 ^ 63 ≤ b.toNat
  · have one : unpackSign b ≠ 0#1 := by
      intro zero
      rw [zero] at sign
      have : (0#1).toNat = 0 := rfl
      omega
    rw [if_pos negative, Sign.ofBitVec, if_neg one]
    rfl
  · have zero : unpackSign b = 0#1 := by
      apply BitVec.eq_of_toNat_eq
      rw [sign]
      simp
      omega
    rw [if_neg negative, Sign.ofBitVec, if_pos zero]
    rfl

/-- The fields of a double are those of what is unpacked. -/
theorem value_of_ofFloat? {x : Float} {d : Dyadic} (apart : Dyadic.ofFloat? x = some d) :
    value x =
      .ofInt (if d.negative then -(units d.mantissa d.exponent : Int)
        else units d.mantissa d.exponent) := by
  -- The bits get a name of their own, so that fields are taken of a variable.
  obtain ⟨b, bits⟩ : ∃ b : BitVec Format.binary64.numBits, x.toBits.toBitVec = b := ⟨_, rfl⟩
  have size : x.toBits.toNat = b.toNat := by rw [← bits]; rfl
  have unpacked : value x = unpackedValue (UnpackedFloat.unpack Format.binary64 b) := by
    rw [← bits]; rfl
  have high : twoTo 63 = 2 ^ 63 := rfl
  have unit : twoTo 52 = 2 ^ 52 := rfl
  have fields : twoTo 11 = 2 ^ 11 := rfl
  have bias : ((Format.binary64.exponentBias : Nat) : Int) = 1023 := rfl
  have width : ((Format.binary64.mantissaBitsWithoutImplicit : Nat) : Int) = 52 := rfl
  have mantissa := toNat_unpackMantissa b
  have exponent := toNat_unpackExponent b
  have signed := apply_ofBitVec b
  unfold Dyadic.ofFloat? at apart
  simp only [high, unit, fields, size] at apart
  rw [unpacked]
  unfold UnpackedFloat.unpack
  simp only [bias, width]
  -- The same exponent field decides here about taking apart and about unpacking.
  split at apart
  · cases apart
  · rename_i notLast
    have field : unpackExponent b ≠ -1#11 := by
      intro last
      rw [last] at exponent
      exact notLast exponent.symm
    rw [if_neg field]
    split at apart
    · -- Below the normal range the fraction is the mantissa, which may be zero.
      rename_i low
      obtain rfl := Option.some.inj apart
      have zero : unpackExponent b = 0#11 := BitVec.eq_of_toNat_eq (by rw [exponent, low]; rfl)
      rw [if_pos zero]
      split
      -- Without a mantissa it is a zero, and its sign makes no difference to its value.
      · rename_i none
        have empty : b.toNat % 2 ^ 52 = 0 := by
          rw [← mantissa, none]
          rfl
        have nothing : units (b.toNat % 2 ^ 52) (-1074) = 0 := by rw [empty, units, Nat.zero_mul]
        simp only [unpackedValue, nothing, Nat.cast_zero, neg_zero, ite_self]
      · simp only [unpackedValue, signed, mantissa, zero, decide_eq_true_eq]
        rfl
    -- In the normal range the mantissa has its hidden bit.
    · rename_i normal
      obtain rfl := Option.some.inj apart
      have nonzero : unpackExponent b ≠ 0#11 := by
        intro zero
        rw [zero] at exponent
        exact normal exponent.symm
      have hidden : (1#1 ++ unpackMantissa b).toNat = b.toNat % 2 ^ 52 + 2 ^ 52 := by
        rw [toNat_one_append, mantissa, Nat.add_comm]
      rw [if_neg nonzero]
      simp only [unpackedValue, signed, hidden, exponent, decide_eq_true_eq]
      rfl

private theorem isFinite_of_ofFloat? {x : Float} {d : Dyadic} (apart : Dyadic.ofFloat? x = some d) :
    x.isFinite = true := by
  rw [isFinite_iff]
  intro last
  unfold Dyadic.ofFloat? at apart
  have notLast : x.toBits.toNat / twoTo 52 % twoTo 11 = 2047 := last
  rw [if_pos notLast] at apart
  cases apart

private theorem isDouble_of_ofFloat? {x : Float} {d : Dyadic} (apart : Dyadic.ofFloat? x = some d) :
    d.IsDouble := by
  obtain ⟨d', found, double, _⟩ := Dyadic.ofFloat?_eq (isFinite_of_ofFloat? apart)
  rw [apart] at found
  exact Option.some.inj found ▸ double

/-- What cannot be taken apart is infinite or NaN. -/
private theorem ofFloat?_eq_none {x : Float} (apart : Dyadic.ofFloat? x = none)
    (number : x.isNaN = false) :
    value x = ⊥ ∨ value x = ⊤ := by
  have infinite : ¬x.isFinite = true := by
    intro finite
    obtain ⟨d, found, _⟩ := Dyadic.ofFloat?_eq finite
    rw [found] at apart
    cases apart
  change unpackedValue x.toModel.unpack = ⊥ ∨ unpackedValue x.toModel.unpack = ⊤
  change ¬x.toModel.unpack.isFinite = true at infinite
  change x.toModel.unpack.isNaN = false at number
  -- Of what is not finite, NaN is excluded.
  cases unpacked : x.toModel.unpack with
  | notANumber => simp [unpacked, UnpackedFloat.isNaN] at number
  | infinity s =>
    cases s with
    | negative => exact .inl rfl
    | positive => exact .inr rfl
  | zero s => simp [unpacked, UnpackedFloat.isFinite] at infinite
  | finite s m e pos => simp [unpacked, UnpackedFloat.isFinite] at infinite

/-! ## Comparing numbers -/

/-- A magnitude as a quotient, with its value. -/
private theorem num_mul_eq (d : Dyadic) (low : -1074 ≤ d.exponent) :
    d.num * scale = units d.mantissa d.exponent * d.den := by
  -- Both sides are the mantissa times a power of two, and the exponents add up to the same.
  simp only [Dyadic.num, Dyadic.den, units, scale, Nat.shiftLeft_eq, Nat.one_mul, Nat.mul_assoc,
    ← Nat.pow_add]
  congr 2
  omega

/-- Integers in one scale are compared as they are in another one. -/
private theorem compares_of_scaled {a b a' b' : ℤ} {p q : ℕ} (hp : 0 < p) (hq : 0 < q)
    (ha : a * p = a' * q) (hb : b * p = b' * q) :
    (compare a b).Compares (Extended.ofInt a') (Extended.ofInt b') := by
  have hp' : (0 : ℤ) < p := by exact_mod_cast hp
  have hq' : (0 : ℤ) < q := by exact_mod_cast hq
  -- Scaling by positive factors keeps the order, so one argument does for both directions.
  have less {c d c' d' : ℤ} (hc : c * p = c' * q) (hd : d * p = d' * q) (h : c < d) :
      Extended.ofInt c' < Extended.ofInt d' := by
    have scaled : c' * q < d' * q := by
      rw [← hc, ← hd]
      exact mul_lt_mul_of_pos_right h hp'
    exact Extended.ofInt_lt_ofInt.mpr (lt_of_mul_lt_mul_right scaled hq'.le)
  -- The three ways in which two integers compare
  rcases lt_trichotomy a b with below | same | above
  · rw [compare_lt_iff_lt.mpr below]
    exact less ha hb below
  · rw [compare_eq_iff_eq.mpr same]
    have scaled : a' * q = b' * q := by rw [← ha, ← hb, same]
    exact Extended.ofInt_inj.mpr (mul_right_cancel₀ hq'.ne' scaled)
  · rw [compare_gt_iff_gt.mpr above]
    exact less hb ha above

/-- An integer and a double are compared by their values. -/
theorem exists_compares_int (n : Int) {x : Float} (number : x.isNaN = false) :
    ∃ o, compareInt n x = some o ∧ o.Compares (exact (.int n)) (value x) := by
  unfold compareInt
  cases apart : Dyadic.ofFloat? x with
  -- A finite double is a quotient of integers, and the denominator is multiplied across.
  | some d =>
    refine ⟨_, rfl, ?_⟩
    have magnitude : (d.num : ℤ) * scale = (units d.mantissa d.exponent : ℤ) * d.den := by
      exact_mod_cast num_mul_eq d (isDouble_of_ofFloat? apart).least
    have positive : 0 < d.den := by
      rw [Dyadic.den, Nat.one_shiftLeft]
      exact Nat.two_pow_pos _
    rw [value_of_ofFloat? apart]
    apply compares_of_scaled scale_pos positive
    -- The integer, in the scale of the quotient
    · exact mul_right_comm _ _ _
    -- The double, whose sign is that of its numerator
    · split
      · rw [neg_mul, magnitude, neg_mul]
      · exact magnitude
  -- What has no quotient is infinite, and the sign decides.
  | none =>
    simp only [number]
    have zero : value 0 = .ofInt 0 := by rfl
    have less : x < 0 ↔ value x < value 0 := lt_iff_value number (by rfl)
    rcases ofFloat?_eq_none apart number with low | high
    · refine ⟨.gt, ?_, ?_⟩
      · simp [less, low, zero]
      · rw [low]
        exact Extended.bot_lt_ofInt _
    · refine ⟨.lt, ?_, ?_⟩
      · simp [less, high, zero]
      · rw [high]
        exact Extended.ofInt_lt_top _

/-- Numbers are compared by their values. -/
theorem exists_compares_exact {a b : Number} (ha : a.isNaN = false) (hb : b.isNaN = false) :
    ∃ o : Ordering, o.Compares a.exact b.exact ∧ (a.le b = true ↔ o ≠ .gt) ∧
      (a.lt b = true ↔ o = .lt) := by
  -- One case for each pair of kinds: two integers, one of them on either side, and two doubles
  cases a with
  | int m =>
    cases b with
    | int n =>
      refine ⟨compare m n, ?_, ?_, ?_⟩
      · show (compare m n).Compares (Extended.ofInt (m * scale)) (Extended.ofInt (n * scale))
        apply compares_of_scaled scale_pos Nat.one_pos
        · rw [Nat.cast_one, mul_one]
        · rw [Nat.cast_one, mul_one]
      · simp [le, compare_gt_iff_gt]
      · simp [lt, compare_lt_iff_lt]
    | float y =>
      obtain ⟨o, found, compares⟩ := exists_compares_int m hb
      refine ⟨o, compares, ?_, ?_⟩
      · cases o <;> simp [le, found]
      · simp [lt, found]
  | float x =>
    cases b with
    | int n =>
      obtain ⟨o, found, compares⟩ := exists_compares_int n ha
      -- Compared the other way round
      refine ⟨o.swap, compares.swap, ?_, ?_⟩
      · cases o <;> simp [le, found]
      · cases o <;> simp [lt, found]
    | float y =>
      obtain ⟨o, found, compares⟩ := exists_compares_value ha hb
      refine ⟨o, compares, ?_, ?_⟩
      -- The order of doubles is that of what is unpacked.
      · change (decide (x ≤ y) = true) ↔ _
        rw [decide_eq_true_iff]
        change decide ((x.toModel.unpack.compare y.toModel.unpack).any (·.isLE) = true) = true ↔ _
        rw [found]
        cases o <;> simp
      · change (decide (x < y) = true) ↔ _
        rw [decide_eq_true_iff, lt_iff_value ha hb]
        exact compares.eq_lt.symm

/-- Numbers are in the order of their values. -/
theorem le_iff_exact {a b : Number} (ha : a.isNaN = false) (hb : b.isNaN = false) :
    a.le b = true ↔ a.exact ≤ b.exact := by
  obtain ⟨o, compares, le, _⟩ := exists_compares_exact ha hb
  exact le.trans compares.ne_gt

/-- Numbers are strictly in the order of their values. -/
theorem lt_iff_exact {a b : Number} (ha : a.isNaN = false) (hb : b.isNaN = false) :
    a.lt b = true ↔ a.exact < b.exact := by
  obtain ⟨o, compares, _, lt⟩ := exists_compares_exact ha hb
  exact lt.trans compares.eq_lt

/-- There is one NaN among unpacked doubles. -/
theorem unpack_of_isNaN {x : Float} (nan : x.isNaN = true) : x.toModel.unpack = .notANumber := by
  change x.toModel.unpack.isNaN = true at nan
  cases unpacked : x.toModel.unpack with
  | notANumber => rfl
  | infinity s => simp [unpacked, UnpackedFloat.isNaN] at nan
  | zero s => simp [unpacked, UnpackedFloat.isNaN] at nan
  | finite s m e pos => simp [unpacked, UnpackedFloat.isNaN] at nan

/-- NaN is not compared with an integer. -/
theorem compareInt_of_isNaN {x : Float} (nan : x.isNaN = true) (n : Int) :
    compareInt n x = none := by
  unfold compareInt
  cases apart : Dyadic.ofFloat? x with
  | none => simp only [nan, if_true]
  -- What is taken apart is finite, and NaN is not.
  | some d =>
    have finite : x.toModel.unpack.isFinite = true := isFinite_of_ofFloat? apart
    rw [unpack_of_isNaN nan] at finite
    cases finite

private theorem compare_of_isNaN {x y : Float} (nan : x.isNaN = true ∨ y.isNaN = true) :
    x.toModel.unpack.compare y.toModel.unpack = none := by
  rcases nan with nan | nan
  · rw [unpack_of_isNaN nan]
    rfl
  · rw [unpack_of_isNaN nan]
    cases x.toModel.unpack <;> rfl

/-- NaN is not less than anything. -/
private theorem lt_of_isNaN {a : Number} (nan : a.isNaN = true) (b : Number) : lt a b = false := by
  cases a with
  | int n => cases nan
  -- An integer is compared by `compareInt`, and a double by its unpacked form.
  | float x =>
    cases b with
    | int n => rw [lt, compareInt_of_isNaN nan n]; rfl
    | float y =>
      apply decide_eq_false
      intro less
      have less : (x.toModel.unpack.compare y.toModel.unpack == some .lt) = true :=
        of_decide_eq_true less
      rw [compare_of_isNaN (.inl nan)] at less
      cases less

/-- NaN is in no order with anything. -/
private theorem le_of_isNaN {a b : Number} (nan : a.isNaN = true ∨ b.isNaN = true) :
    le a b = false := by
  -- With an integer on one side NaN is on the other one.
  cases a with
  | int m =>
    cases b with
    | int n => rcases nan with nan | nan <;> cases nan
    | float y =>
      have nan : y.isNaN = true := nan.resolve_left Bool.false_ne_true
      rw [le, compareInt_of_isNaN nan m]
  | float x =>
    cases b with
    | int n =>
      have nan : x.isNaN = true := nan.resolve_right Bool.false_ne_true
      rw [le, compareInt_of_isNaN nan n]
    | float y =>
      apply decide_eq_false
      intro below
      have below : (x.toModel.unpack.compare y.toModel.unpack).any (·.isLE) = true :=
        of_decide_eq_true below
      rw [compare_of_isNaN nan] at below
      cases below

/-- Only numbers are in order. -/
theorem isNaN_of_le {a b : Number} (below : a.le b = true) :
    a.isNaN = false ∧ b.isNaN = false := by
  -- On either side, NaN would leave the two in no order.
  constructor
  · by_contra nan
    simp [le_of_isNaN (.inl (Bool.eq_true_of_not_eq_false nan))] at below
  · by_contra nan
    simp [le_of_isNaN (.inr (Bool.eq_true_of_not_eq_false nan))] at below

/-! ## Between two bounds -/

section Clamp

variable {a b lower upper : Number}

private theorem isNaN_least (ha : a.isNaN = false) (hb : b.isNaN = false) :
    (least a b).isNaN = false := by
  rw [least, leastBy]
  split
  · exact hb
  · exact ha

/-- The greater of two numbers is a number. -/
theorem isNaN_greatest (ha : a.isNaN = false) (hb : b.isNaN = false) :
    (greatest a b).isNaN = false := by
  rw [greatest, greatestBy]
  split
  · exact hb
  · exact ha

private theorem exact_least (ha : a.isNaN = false) (hb : b.isNaN = false) :
    (least a b).exact = min a.exact b.exact := by
  have less : lt b a = true ↔ b.exact < a.exact := lt_iff_exact hb ha
  show (if lt b a = true then b else a).exact = _
  by_cases below : b.exact < a.exact
  · rw [if_pos (less.mpr below), min_eq_right below.le]
  · rw [if_neg (less.not.mpr below), min_eq_left (not_lt.mp below)]

/-- The greater of two numbers has the greater value. -/
theorem exact_greatest (ha : a.isNaN = false) (hb : b.isNaN = false) :
    (greatest a b).exact = max a.exact b.exact := by
  have less : lt a b = true ↔ a.exact < b.exact := lt_iff_exact ha hb
  show (if lt a b = true then b else a).exact = _
  by_cases below : a.exact < b.exact
  · rw [if_pos (less.mpr below), max_eq_right below.le]
  · rw [if_neg (less.not.mpr below), max_eq_left (not_lt.mp below)]

/-- A number between two bounds has a value between theirs. -/
theorem exact_clamp (ha : a.isNaN = false) (hl : lower.isNaN = false) (hu : upper.isNaN = false) :
    (clamp a lower upper).isNaN = false ∧
      (clamp a lower upper).exact = max lower.exact (min upper.exact a.exact) := by
  have inner := isNaN_least hu ha
  constructor
  · exact isNaN_greatest hl inner
  -- The bound from below is applied to what has been bounded from above.
  · exact (exact_greatest hl inner).trans (by rw [exact_least hu ha])

/-- NaN is not below the upper bound, and so it becomes the upper bound. -/
theorem clamp_of_isNaN (nan : a.isNaN = true) (lower upper : Number) :
    clamp a lower upper = greatest lower upper := by
  have incomparable : lt a upper = false := lt_of_isNaN nan upper
  show greatest lower (if lt a upper = true then a else upper) = _
  rw [incomparable]
  rfl

end Clamp

end AirQuality.Number
